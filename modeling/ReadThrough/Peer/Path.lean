import ReadThrough.Fault
import ReadThrough.Text.Percent

/-!
# Request paths

A peer is asked for a key of a group by a path: the base path of the peer protocol, the group's
name, a slash and the key, name and key percent-encoded.

## Main definitions

* `PeerPath.defaultBase`: the base path, if nothing else is asked for
* `PeerPath.render base group key`: the path that asks for a key
* `PeerPath.parse base path`: the group and the key a path asks for
-/

namespace ReadThrough.PeerPath

/-- The base path, if nothing else is asked for. -/
def defaultBase : String := "/_cache_/"

/-- The path that asks for a key of a group. -/
def render (base group key : String) : String :=
  base ++ Text.Percent.encodeText group ++ "/" ++ Text.Percent.encodeText key

/-! ## Parsing -/

/-- What follows `start` in `cs`. -/
def dropStart? : List Char → List Char → Option (List Char)
  | [], cs => some cs
  | _ :: _, [] => none
  | a :: start, c :: cs => if a = c then dropStart? start cs else none

/-- The parts before and after the first slash. -/
def cutSlash? : List Char → Option (List Char × List Char)
  | [] => none
  | '/' :: rest => some ([], rest)
  | c :: rest => (cutSlash? rest).map fun p => (c :: p.1, p.2)

/-- The text a path segment encodes. -/
def segment (cs : List Char) : Except Fault String :=
  let s := String.ofList cs
  match Text.decode (Text.Percent.decode (Text.utf8 s)) with
  | .ok t => .ok t
  | .error flaw => .error (.protocol ("bad path segment " ++ s ++ ": " ++ flaw.message))

/-- The group and the key a path asks for. -/
def parse (base path : String) : Except Fault (String × String) :=
  match dropStart? base.toList path.toList with
  | none => .error (.protocol ("unexpected path: " ++ path))
  | some rest =>
    match cutSlash? rest with
    | none => .error (.protocol ("expected " ++ base ++ "<group>/<key>: " ++ path))
    | some ([], _) => .error (.protocol ("missing group name: " ++ path))
    | some (group, key) => do
      -- Further slashes belong to the key.
      let group ← segment group
      let key ← segment key
      return (group, key)

end ReadThrough.PeerPath
