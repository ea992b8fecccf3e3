import ResourceRouting.Api.Table

/-!
# Api — applications

An application is declared by clauses and built in one pass into a collection tree and a table of
bindings. Whatever is wrong with a declaration comes out when the application is built, before any
request: what a clause recorded first, then what compiling the collections and binding their
routes finds, in that order.
-/

namespace ResourceRouting

/-! ## Declaring -/

inductive ApiClause (σ : Type)
  | routing (r : Routing)
  | hooks (h : Hooks σ)
  | featureCheck (check : String → String → Bool)
  | capabilityCheck (check : σ → String → Bool)
  | feature (name target : String) (body : List FeatureClause)
  | collection (name : String) (body : List (CollectionClause σ))

/-- A declared application. `faults` holds what was wrong with its own clauses, the first one
first. -/
@[ext]
structure ApiDecl (σ : Type) where
  name : String
  routing : Routing := {}
  hooks : Hooks σ := {}
  features : FeatureRegistry := {}
  collections : List (CollectionDecl σ) := []
  faults : List Fault := []

namespace ApiDecl

variable {σ : Type}

def recordFault (d : ApiDecl σ) (fault : Fault) : ApiDecl σ :=
  { d with faults := d.faults ++ [fault] }

def addFeature (d : ApiDecl σ) (name target : String) (body : List FeatureClause) : ApiDecl σ :=
  match d.features.declare name target body with
  | .ok features => { d with features }
  | .error fault => d.recordFault fault

/-- Adds a root collection; a second one of the same name is a fault. -/
def addCollection (d : ApiDecl σ) (c : CollectionDecl σ) : ApiDecl σ :=
  if d.collections.any fun e => e.name == c.name then
    d.recordFault (.repeatedRoot d.name c.name)
  else { d with collections := d.collections ++ [c] }

def apply (d : ApiDecl σ) : ApiClause σ → ApiDecl σ
  | .routing r => { d with routing := r }
  | .hooks h => { d with hooks := h }
  | .featureCheck check => { d with hooks := { d.hooks with featureCheck? := some check } }
  | .capabilityCheck check =>
      { d with hooks := { d.hooks with capabilityCheck? := some check } }
  | .feature name target body => d.addFeature name target body
  | .collection name body => d.addCollection (.ofClauses name body)

/-- An application with the given clauses. -/
def ofClauses (name : String) (clauses : List (ApiClause σ)) : ApiDecl σ :=
  clauses.foldl apply { name }

end ApiDecl

/-! ## Built applications -/

structure Api (σ : Type) where
  name : String
  routing : Routing
  hooks : Hooks σ
  features : FeatureRegistry
  collections : List (Collection σ)
  bindings : Table σ

namespace ApiDecl

variable {σ : Type}

def context (d : ApiDecl σ) : CompileContext σ :=
  { routing := d.routing, hooks := d.hooks, features := d.features }

/-- The application with the collections and bindings that were built for it. -/
def assembled (d : ApiDecl σ) (collections : List (Collection σ)) (bindings : Table σ) : Api σ :=
  { name := d.name
    routing := d.routing
    hooks := d.hooks
    features := d.features
    collections
    bindings }

def compile (d : ApiDecl σ) : Except Fault (Api σ) := do
  if let fault :: _ := d.faults then
    throw fault
  -- routes are bound only after the whole tree has compiled
  let collections ← CollectionDecl.compileAll d.context none d.collections
  let bindings ← Table.ofCollections d.name d.routing collections
  return d.assembled collections bindings

end ApiDecl

namespace Api

variable {σ : Type}

/-- Declares an application and builds it. -/
def build (name : String) (clauses : List (ApiClause σ)) : Except Fault (Api σ) :=
  (ApiDecl.ofClauses name clauses).compile

/-! ## Look-up -/

def collection? (api : Api σ) (name : String) : Option (Collection σ) :=
  api.collections.find? fun c => c.name == name

/-- The collection at the end of a lineage. -/
def collectionAt? (api : Api σ) : List String → Option (Collection σ)
  | [] => none
  | root :: rest => do
      let c ← api.collection? root
      rest.foldlM Collection.child? c

def feature? (api : Api σ) (name : String) : Option Feature := api.features.get? name

/-- The name under which a root collection is published. -/
def registryKey (api : Api σ) (collection : String) : String :=
  if api.routing.namespacing then api.name ++ "::" ++ collection else collection

/-! ## Dispatch -/

/-- A binding that matches a path, with what it captured. -/
structure Selection (σ : Type) where
  binding : Binding σ
  captures : Inputs

/-- The bindings of a method that match a path, in table order. -/
def candidates (api : Api σ) (method : Method) (path : String) : List (Selection σ) :=
  (api.bindings.filter fun b => b.method == method).filterMap fun b =>
    (Path.captures? b.path path).map fun captures => ⟨b, captures⟩

/-- Of two selections the one with fewer captures, the first if they have equally many. -/
def Selection.fewer (a b : Selection σ) : Selection σ :=
  if b.captures.size < a.captures.size then b else a

/-- The first selection with the fewest captures. -/
def Selection.fewest? : List (Selection σ) → Option (Selection σ)
  | [] => none
  | s :: rest => some (rest.foldl fewer s)

/-- The binding that answers a request: of those that match, the first with the fewest distinct
names captured. -/
def find? (api : Api σ) (method : Method) (path : String) : Option (Selection σ) :=
  Selection.fewest? (api.candidates method path)

/-- Whether a binding of any method matches a path. -/
def knows (api : Api σ) (path : String) : Bool :=
  api.bindings.any fun b => (Path.captures? b.path path).isSome

/-- The reply to a request that no binding answers. -/
def unmatched (api : Api σ) (path : String) : Reply :=
  if api.knows path then Reply.text 405 "Method Not Allowed" else Reply.text 404 "Not Found"

/-- Answers a request; captures of the path override the inputs of their names. -/
def handle (api : Api σ) (method : Method) (path : String) (inputs : Inputs) (s : σ) :
    Outcome × σ :=
  match api.find? method path with
  | none => (.ok (api.unmatched path), s)
  | some sel => sel.binding.endpoint.respond api.hooks (inputs.overridden sel.captures) s

end Api
end ResourceRouting
