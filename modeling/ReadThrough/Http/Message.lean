import ReadThrough.Group.Basic
import ReadThrough.Text.Utf8

/-!
# Requests and responses

A request has a method and a target, which is a path with or without a query. A response has a
status, headers and a body, which is a byte sequence or a document that is sent as JSON.

## Main definitions

* `Target`, `Request`: what is asked for
* `Target.parse uri`: the target a URI names on the server it is sent to
* `Document`, `Body`, `Response`: what is answered
-/

namespace ReadThrough

/-! ## Requests -/

/-- What a request asks a server for. -/
structure Target where
  /-- The path, undecoded. -/
  path : String
  /-- The query, undecoded; empty if there is none. -/
  query : String
  deriving DecidableEq, Repr

/-- What follows the first `://` of a text. -/
def afterScheme? : List Char → Option (List Char)
  | [] => none
  | ':' :: '/' :: '/' :: rest => some rest
  | _ :: rest => afterScheme? rest

/-- The target that a URI names: its path and its query, without the fragment. A path left out
behind a host is the root. -/
def Target.parse (uri : String) : Target :=
  let cs := uri.toList.takeWhile (· != '#')
  let inside := if cs.head? = some '/' then cs
    else match afterScheme? cs with
      | some rest => rest.dropWhile fun c => c != '/' && c != '?'
      | none => cs
  let path := inside.takeWhile (· != '?')
  ⟨if path.isEmpty then "/" else String.ofList path,
    String.ofList ((inside.dropWhile (· != '?')).drop 1)⟩

/-- A request. -/
structure Request where
  /-- The method. -/
  method : String
  /-- What is asked for. -/
  target : Target
  deriving DecidableEq, Repr

/-! ## Responses -/

/-- How one group's lookups went. -/
structure GroupReport where
  /-- The group's name. -/
  name : String
  /-- Its counts. -/
  counters : Group.Counters
  /-- The counts of its store. -/
  cache : Store.Stats

namespace GroupReport

/-- A group's report. -/
def ofGroup (g : Group) : GroupReport := ⟨g.name, g.counters, g.store.stats⟩

/-- The share of lookups that were answered from the store. -/
def hitRate (r : GroupReport) : Float := Store.Stats.share r.counters.cacheHits r.counters.gets

end GroupReport

/-- What is sent as JSON. -/
inductive Document where
  /-- A fault, in words. -/
  | fault (message : String)
  /-- The reports of all groups. -/
  | statistics (groups : List GroupReport)
  /-- The server is up, at the time of the answer. -/
  | healthy

/-- The body of a response. -/
inductive Body where
  /-- Bytes. -/
  | bytes (b : Bytes)
  /-- A document. -/
  | document (d : Document)

/-- A response. -/
structure Response where
  /-- The status code. -/
  status : Nat
  /-- Names and values of the headers. -/
  headers : List (String × String)
  /-- The body. -/
  body : Body

namespace Response

/-- A status and nothing else. -/
def bare (status : Nat) : Response := ⟨status, [], .bytes []⟩

/-- A successful response with bytes. -/
def ofBytes (b : Bytes) : Response :=
  ⟨200, [("content-type", "application/octet-stream")], .bytes b⟩

/-- A response with a line of text. -/
def ofText (status : Nat) (text : String) : Response :=
  ⟨status, [("content-type", "text/plain; charset=utf-8")], .bytes (Text.utf8 text)⟩

/-- A response with a document. -/
def ofDocument (status : Nat) (d : Document) : Response :=
  ⟨status, [("content-type", "application/json")], .document d⟩

/-- The response to a request for a path that is not served. -/
def notFound : Response := bare 404

/-- The header that names the methods served. -/
def allowHeader : String × String := ("allow", "GET,HEAD")

/-- The response to a method that is not served. -/
def methodNotAllowed : Response := ⟨405, [allowHeader], .bytes []⟩

/-- The response without its body. -/
def withoutBody (r : Response) : Response := { r with body := .bytes [] }

/-- The response with further headers. -/
def withHeaders (r : Response) (headers : List (String × String)) : Response :=
  { r with headers := r.headers ++ headers }

end Response

end ReadThrough
