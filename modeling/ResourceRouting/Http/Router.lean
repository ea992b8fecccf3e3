import ResourceRouting.Api
import ResourceRouting.Http.Response

/-!
# Router — an application mounted on a host

The host gathers the bindings of one pattern into a route. It finds the route first, over the
patterns of all methods: at each segment, from the left, a literal is preferred to a placeholder,
and a choice that leads nowhere is taken back. Only then does it look for the method.
-/

namespace ResourceRouting
namespace Http

/-- The bindings of one pattern, in table order. -/
structure Route (σ : Type) where
  pattern : String
  bindings : List (Binding σ)

structure Router (σ : Type) where
  api : Api σ
  routes : List (Route σ)

namespace Route

variable {σ : Type}

/-- Adds a binding to the route of its pattern, or a route for it. -/
def add (b : Binding σ) : List (Route σ) → List (Route σ)
  | [] => [⟨b.path, [b]⟩]
  | r :: rest =>
      if r.pattern = b.path then { r with bindings := r.bindings ++ [b] } :: rest
      else r :: add b rest

/-- Adds a method to an `Allow` list; `GET` brings `HEAD` along. -/
def addAllowed (names : List String) (m : Method) : List String :=
  let new := if m = .get then ["GET", "HEAD"] else [m.text]
  names ++ new.filter fun name => !names.contains name

/-- The methods that a route answers, each once. -/
def allow (r : Route σ) : String :=
  Text.commaList ((r.bindings.map Binding.method).foldl addAllowed [])

/-- The binding for a method. Without a binding of its own `HEAD` is answered by that of `GET`. -/
def binding? (r : Route σ) (method : String) : Option (Binding σ) :=
  let forMethod (name : String) := r.bindings.find? fun b => b.method.text == name
  (forMethod method).or (if method = "HEAD" then forMethod "GET" else none)

end Route

/-! ## Finding a route -/

/-- The routes whose next segment is the literal `segment`, each without that segment. -/
def afterLiteral {α : Type} (segment : String) (routes : List (List String × α)) :
    List (List String × α) :=
  routes.filterMap fun r =>
    match r.1 with
    | want :: rest =>
        if (Path.placeholder? want).isNone && want = segment then some (rest, r.2) else none
    | [] => none

/-- The routes whose next segment is a placeholder, each without that segment. -/
def afterPlaceholder {α : Type} (routes : List (List String × α)) : List (List String × α) :=
  routes.filterMap fun r =>
    match r.1 with
    | want :: rest => if (Path.placeholder? want).isSome then some (rest, r.2) else none
    | [] => none

/-- The first route that matches, literals preferred from the left. -/
def pick {α : Type} (routes : List (List String × α)) : List String → Option α
  | [] => (routes.find? fun r => r.1.isEmpty).map (·.2)
  | segment :: rest =>
      -- the placeholder is tried only where the literal leads to no route at all
      (pick (afterLiteral segment routes) rest).or
        (if segment.isEmpty then none else pick (afterPlaceholder routes) rest)

namespace Router

variable {σ : Type}

def isBrace (c : Char) : Bool := c = '\x7b' || c = '\x7d'

/-- Whether a segment of a pattern is mounted: names of placeholders are not empty, and nothing of
the host's own pattern language occurs. Names with a `*` are left out here, though the host has a
use for one: in front of the last name of a pattern it stands for the rest of a path. -/
def takesSegment (segment : String) : Bool :=
  match Path.placeholder? segment with
  | some name => !name.isEmpty && name.toList.all fun c => c != '*' && !isBrace c
  | none =>
      segment.toList.head? != some '*' &&
        segment.toList.all fun c => !isBrace c

/-- Whether two routes have one shape under different names. -/
def conflicts (a b : Route σ) : Bool :=
  a.pattern != b.pattern && Path.shape a.pattern == Path.shape b.pattern

/-- Mounts an application, unless one of its patterns is not mounted or two of them conflict. -/
def mount? (api : Api σ) : Option (Router σ) :=
  let routes := api.bindings.foldl (fun routes b => Route.add b routes) []
  let fits := routes.all fun r => (Path.segments r.pattern).all takesSegment
  let clash := routes.any fun a => routes.any fun b => conflicts a b
  if fits && !clash then some { api, routes } else none

/-- The route of a path. -/
def route? (router : Router σ) (path : String) : Option (Route σ) :=
  pick (router.routes.map fun r => (Path.segments r.pattern, r)) (Path.segments path)

/-- Answers a request on a binding. Only operations read the inputs. -/
def dispatch (api : Api σ) (b : Binding σ) (request : Request) (s : σ) : Response × σ :=
  match b.endpoint.fixedReply? with
  | some reply => (.ofReply reply, s)
  | none =>
      let captures :=
        (Path.matchSegments (Path.segments b.path) (Path.segments request.path)).getD []
      match request.inputs captures with
      | .error rejection => (.ofRejection rejection, s)
      | .ok inputs =>
          match b.endpoint.respond api.hooks inputs s with
          | (.ok reply, s) => (.ofReply reply, s)
          | (.error _, s) => (.failure, s)

/-- Answers a request. A response to `HEAD` has no body. -/
def serve (router : Router σ) (request : Request) (s : σ) : Response × σ :=
  match router.route? request.path with
  | none => (.notFound, s)
  | some route =>
      -- the route is settled: a method that it does not answer is never looked for elsewhere
      let (response, s) :=
        match route.binding? request.method with
        | none => (Response.methodNotAllowed route.allow, s)
        | some b => dispatch router.api b request s
      (if request.method = "HEAD" then response.withoutBody else response, s)

end Router
end Http
end ResourceRouting
