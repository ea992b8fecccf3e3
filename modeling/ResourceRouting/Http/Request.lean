import ResourceRouting.Http.Form
import ResourceRouting.Http.MediaType
import ResourceRouting.Inputs
import ResourceRouting.Json.Reader
import ResourceRouting.Path
import ResourceRouting.Text.Octets

/-!
# Request — the inputs of a request

A request brings inputs in its query, in a form or JSON body, and in the path that a route
captures. Of one name the path counts before the body, and the body before the query.

A body is a text here, so a body of octets that are not UTF-8 cannot be stated.
-/

namespace ResourceRouting
namespace Http

structure Request where
  method : String
  path : String
  query? : Option String := none
  headers : List (String × String) := []
  body : String := ""
  deriving DecidableEq, Repr

/-- Why the inputs of a request cannot be read. -/
inductive Rejection
  | captureNotText (name : String)
  | tooLarge
  | notJsonType
  | notJson
  deriving DecidableEq, Repr

namespace Request

/-- A request to a target: the path up to the first `?`, and the query after it. -/
def ofTarget (method target : String) (headers : List (String × String)) (body : String) :
    Request :=
  let cs := target.toList.takeWhile (· != '#')
  let path := cs.takeWhile (· != '?')
  { method
    path := String.ofList path
    query? :=
      match cs.drop path.length with
      | [] => none
      | _ :: query => some (String.ofList query)
    headers
    body }

/-- The value of the first header of a name. -/
def header? (r : Request) (name : String) : Option String :=
  (r.headers.find? fun h => Text.sameUpToCase h.1 name).map (·.2)

/-- Whether a header value is visible ASCII. -/
def isVisible (s : String) : Bool :=
  s.toList.all fun c => c = '\t' || (32 ≤ c.toNat && c.toNat < 127)

/-- The content type; one that is not visible ASCII counts as none. -/
def contentType (r : Request) : String :=
  ((r.header? "content-type").filter isVisible).getD ""

/-! ## Sources of inputs -/

def queryPairs (r : Request) : List (String × String) :=
  match r.query? with
  | some q => formPairs q
  | none => []

/-- What a JSON body contributes: the members that are not `null`, strings as they are and other
values as their text. A body that is no object contributes nothing. -/
def jsonPairs : Json → List (String × String)
  | .object members => members.filterMap fun m =>
      match m.2 with
      | .null => none
      | .string s => some (m.1, s)
      | v => some (m.1, v.text)
  | _ => []

/-- The most octets of a body that the host takes in, unless it is told otherwise. -/
def bodyLimit : Nat := 2 * 1024 * 1024

def isTooLarge (r : Request) : Bool := bodyLimit < Text.octetCount r.body

/-- What the body contributes. The form of a `GET` request is read from its query. -/
def bodyPairs (r : Request) : Except Rejection (List (String × String)) :=
  let type := r.contentType
  if Text.beginsWith "application/x-www-form-urlencoded" type then
    -- the query counts twice then, which changes nothing
    if r.method = "GET" then .ok r.queryPairs
    else if r.isTooLarge then .error .tooLarge
    else .ok (formPairs r.body)
  else if Text.beginsWith "application/json" type then
    -- the type is judged before the body is taken in
    if !(MediaType.ofText? type).any MediaType.isJson then .error .notJsonType
    else if r.isTooLarge then .error .tooLarge
    else
      match Json.read? Json.maxDepth r.body with
      | some v => .ok (jsonPairs v)
      | none => .error .notJson
  else .ok []

/-- The captures of a path with their escapes decoded. -/
def decodedCaptures (captures : List (String × String)) :
    Except Rejection (List (String × String)) :=
  captures.mapM fun c =>
    match Text.percentDecoded? c.2 with
    | some value => .ok (c.1, value)
    | none => .error (.captureNotText c.1)

/-- The inputs that a request brings to a route with the given captures. -/
def inputs (r : Request) (captures : List (String × String)) : Except Rejection Inputs := do
  -- a capture that is no text is reported before a body that cannot be read
  let captured ← decodedCaptures captures
  let body ← r.bodyPairs
  return ((Inputs.ofPairs r.queryPairs).extended body).extended captured

end Request
end Http
end ResourceRouting
