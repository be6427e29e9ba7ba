import ReadThrough.Api.Query
import ReadThrough.Http.Message
import ReadThrough.Registry
import ReadThrough.Text.Form

/-!
# The front-end server

Clients outside the cluster look values up at `/api`, read the statistics of all groups at `/stats`
and ask after the server itself at `/health`. Pages of any origin may do so.

## Main definitions

* `Api.lookup`, `Api.statistics`: the answers of the first two paths
* `Api.handle`: the answer to a request
-/

namespace ReadThrough.Api

/-- The response that carries a fault. -/
def refuse (fault : Fault) : Response := .ofDocument fault.status (.fault fault.message)

/-- The response that carries the outcome of a lookup. -/
def respond : Outcome → Response
  | .ok value => .ofBytes value.bytes
  | .error fault => refuse fault

/-- The answer to a lookup: none if the lookup is stuck. -/
def lookup (defaultGroup : String) (r : Registry) (q : Query) : Registry × Option Response :=
  let name := q.group.getD defaultGroup
  if (r.find? name).isSome then
    let (r, outcome) := r.get name q.key
    (r, outcome.map respond)
  else (r, some (refuse (.notFound ("no such group: " ++ name))))

/-- The reports of all groups, by name. -/
def statistics (r : Registry) : Document :=
  .statistics (r.names.filterMap fun name => (r.find? name).map fun m => .ofGroup m.group)

/-- The answer to a lookup with a form-encoded query. -/
def lookupEncoded (defaultGroup : String) (r : Registry) (query : String) :
    Registry × Option Response :=
  match Query.ofPairs (Text.Form.pairs (Text.utf8 query)) with
  | .ok q => lookup defaultGroup r q
  | .error name =>
    (r, some (.ofText 400 ("Failed to deserialize query string: duplicate field \x60" ++ name ++
      "\x60")))

/-- The paths served. -/
def paths : List String := ["/api", "/stats", "/health"]

/-- The answer to a request for a path that is served. -/
def get (defaultGroup : String) (r : Registry) (target : Target) : Registry × Option Response :=
  if target.path = "/api" then lookupEncoded defaultGroup r target.query
  else if target.path = "/stats" then (r, some (.ofDocument 200 (statistics r)))
  else (r, some (.ofDocument 200 .healthy))

/-- The headers by which pages of any origin may read a response. -/
def sharing : List (String × String) :=
  [("access-control-allow-origin", "*"),
    ("vary", "origin, access-control-request-method, access-control-request-headers")]

/-- The headers by which pages of any origin may send any request. -/
def preflight : List (String × String) :=
  [("access-control-allow-methods", "*"), ("access-control-allow-headers", "*")]

/-- The answer to a request without the headers of sharing. -/
def answer (defaultGroup : String) (r : Registry) (req : Request) : Registry × Option Response :=
  if req.target.path ∈ paths then
    if req.method = "OPTIONS" then
      (r, some ((Response.bare 200).withHeaders (Response.allowHeader :: preflight)))
    else if req.method = "GET" then get defaultGroup r req.target
    else if req.method = "HEAD" then
      let (r, response) := get defaultGroup r req.target
      (r, response.map (·.withoutBody))
    else (r, some .methodNotAllowed)
  else if req.method = "OPTIONS" then (r, some ((Response.bare 200).withHeaders preflight))
  else (r, some .notFound)

/-- The answer to a request: none if the lookup is stuck. -/
def handle (defaultGroup : String) (r : Registry) (req : Request) : Registry × Option Response :=
  let (r, response) := answer defaultGroup r req
  (r, response.map (·.withHeaders sharing))

end ReadThrough.Api
