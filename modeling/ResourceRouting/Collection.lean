import ResourceRouting.Operation

/-!
# Collection — trees of named resources

A collection has operations and subcollections. Its declaration is a list of clauses, gathered
into a tree of `CollectionDecl`; compiling the tree gives every node its path, its documentation
path and its lineage, the names from the root down to it.
-/

namespace ResourceRouting

/-! ## Declaring -/

inductive CollectionClause (σ : Type)
  | description (text : String)
  | withId (name : String)
  | noMember
  | operation (name : String) (body : List (OperationClause σ))
  | action (name : String) (body : List (OperationClause σ))
  | collection (name : String) (body : List (CollectionClause σ))
  | control

/-- The declaration of one collection, its subcollections apart. `faults` holds what was wrong
with its clauses, the first one first. -/
structure CollectionHead (σ : Type) where
  name : String
  description? : Option String := none
  idParam : String := "id"
  customId : Bool := false
  noMember : Bool := false
  operations : List (OperationDecl σ) := []
  faults : List Fault := []

structure CollectionDecl (σ : Type) where
  head : CollectionHead σ
  children : List (CollectionDecl σ) := []

namespace CollectionDecl

variable {σ : Type}

def name (d : CollectionDecl σ) : String := d.head.name

def recordFault (d : CollectionDecl σ) (fault : Fault) : CollectionDecl σ :=
  { d with head := { d.head with faults := d.head.faults ++ [fault] } }

/-- Adds an operation; a second one of the same name is a fault. -/
def addOperation (d : CollectionDecl σ) (o : OperationDecl σ) : CollectionDecl σ :=
  if d.head.operations.any fun p => p.name == o.name then
    d.recordFault (.repeatedOperation d.name o.name)
  else { d with head := { d.head with operations := d.head.operations ++ [o] } }

/-- Adds a subcollection; a second one of the same name is a fault. -/
def addChild (d child : CollectionDecl σ) : CollectionDecl σ :=
  if d.children.any fun c => c.name == child.name then
    d.recordFault (.repeatedChild d.name child.name)
  else { d with children := d.children ++ [child] }

mutual

def apply (d : CollectionDecl σ) : CollectionClause σ → CollectionDecl σ
  | .description text => { d with head := { d.head with description? := some text } }
  | .withId id => { d with head := { d.head with idParam := id, customId := true } }
  | .noMember => { d with head := { d.head with noMember := true } }
  | .operation name body => d.addOperation (.operation name body)
  | .action name body => d.addOperation (.action name body)
  | .collection name body => d.addChild (applyAll ⟨{ name }, []⟩ body)
  | .control => d.recordFault (.strayControl d.name)

def applyAll (d : CollectionDecl σ) : List (CollectionClause σ) → CollectionDecl σ
  | [] => d
  | clause :: rest => applyAll (d.apply clause) rest

end

/-- A collection with the given clauses. -/
def ofClauses (name : String) (body : List (CollectionClause σ)) : CollectionDecl σ :=
  applyAll ⟨{ name }, []⟩ body

end CollectionDecl

/-! ## Compiled collections -/

/-- One compiled collection, its subcollections apart. -/
structure CollectionNode (σ : Type) where
  name : String
  description? : Option String
  relative : String
  path : String
  docsPath : String
  idParam : String
  lineage : List String
  operations : List (Operation σ)
  features : List Feature

structure Collection (σ : Type) where
  node : CollectionNode σ
  children : List (Collection σ)

/-- What all collections of an application are compiled against. -/
structure CompileContext (σ : Type) where
  routing : Routing
  hooks : Hooks σ
  features : FeatureRegistry

namespace CollectionHead

variable {σ : Type}

/-- Where the collection hangs. It goes through the identifier of its parent if it names one of
its own, and has no segment of its own if it declares so and is not a root. -/
def placement (h : CollectionHead σ) (parent? : Option (CollectionNode σ)) : Path.Placement :=
  match parent? with
  | none => .root
  | some parent =>
      .under parent.relative (if h.customId then some parent.idParam else none) h.noMember

/-- The features that are enabled for the collection. -/
def activeFeatures (ctx : CompileContext σ) (h : CollectionHead σ) : List Feature :=
  (ctx.features.forCollection h.name).filter fun f => ctx.hooks.enables h.name f.name

/-- The path of the collection, relative to the root. -/
def relative (parent? : Option (CollectionNode σ)) (h : CollectionHead σ) : String :=
  Path.ofCollection h.name (h.placement parent?)

def owner (ctx : CompileContext σ) (parent? : Option (CollectionNode σ))
    (h : CollectionHead σ) : OperationOwner :=
  { name := h.name
    path := h.relative parent?
    idParam := h.idParam
    features := h.activeFeatures ctx
    routing := ctx.routing }

/-- The collection with the operations that were compiled for it. -/
def node (ctx : CompileContext σ) (parent? : Option (CollectionNode σ)) (h : CollectionHead σ)
    (operations : List (Operation σ)) : CollectionNode σ :=
  -- the lineage has every name, also of collections without a segment of their own
  let lineage := (parent?.map CollectionNode.lineage).getD [] ++ [h.name]
  { name := h.name
    description? := h.description?
    relative := h.relative parent?
    path := ctx.routing.route (h.relative parent?)
    docsPath := ctx.routing.route (Path.join "docs" (Path.ofSegments lineage))
    idParam := h.idParam
    lineage
    operations
    features := h.activeFeatures ctx }

/-- Checks the clauses and the path, and then the operations in the order of their declaration. -/
def compile (ctx : CompileContext σ) (parent? : Option (CollectionNode σ))
    (h : CollectionHead σ) : Except Fault (CollectionNode σ) := do
  if let fault :: _ := h.faults then
    throw fault
  if let some name := Path.repeatedParam? (h.relative parent?) then
    throw (.repeatedPlaceholder (h.relative parent?) name)
  let operations ← h.operations.mapM (OperationDecl.compile (h.owner ctx parent?) ctx.hooks)
  return h.node ctx parent? operations

end CollectionHead

namespace CollectionDecl

variable {σ : Type}

mutual

/-- Compiles a collection and then its subcollections, in the order of their declaration. -/
def compile (ctx : CompileContext σ) (parent? : Option (CollectionNode σ)) :
    CollectionDecl σ → Except Fault (Collection σ)
  | ⟨head, children⟩ => do
      let node ← head.compile ctx parent?
      let children ← compileAll ctx (some node) children
      return ⟨node, children⟩

def compileAll (ctx : CompileContext σ) (parent? : Option (CollectionNode σ)) :
    List (CollectionDecl σ) → Except Fault (List (Collection σ))
  | [] => return []
  | d :: rest => do
      let c ← compile ctx parent? d
      let cs ← compileAll ctx parent? rest
      return c :: cs

end

end CollectionDecl

/-! ## Views of a tree -/

namespace Collection

variable {σ : Type}

def name (c : Collection σ) : String := c.node.name

def operation? (c : Collection σ) (name : String) : Option (Operation σ) :=
  c.node.operations.find? fun o => o.name == name

def child? (c : Collection σ) (name : String) : Option (Collection σ) :=
  c.children.find? fun d => d.name == name

def feature? (c : Collection σ) (name : String) : Option Feature :=
  c.node.features.find? fun f => f.name == name

def isSubcollection (c : Collection σ) : Bool := 1 < c.node.lineage.length

/-- What a name stands for within a collection: a subcollection before an operation. -/
inductive Entry (σ : Type)
  | collection (c : Collection σ)
  | operation (o : Operation σ)

def get? (c : Collection σ) (name : String) : Option (Entry σ) :=
  ((c.child? name).map .collection).or ((c.operation? name).map .operation)

/-- Adds a method at the end unless it is there already. -/
def addMethod (methods : List Method) (m : Method) : List Method :=
  if methods.contains m then methods else methods ++ [m]

/-- `OPTIONS` and the methods of the operations that are bound, each once. -/
def methods (c : Collection σ) : List Method :=
  ((c.node.operations.filter fun o => o.gate.isRegistered).map Operation.method).foldl addMethod
    [.options]

/-- The methods as the `Allow` text of the collection. -/
def allow (c : Collection σ) : String := Text.commaList (c.methods.map Method.text)

mutual

/-- The collection and all below it, each before its subcollections. -/
def walk : Collection σ → List (Collection σ)
  | ⟨node, children⟩ => ⟨node, children⟩ :: walkAll children

def walkAll : List (Collection σ) → List (Collection σ)
  | [] => []
  | c :: rest => walk c ++ walkAll rest

end

mutual

def json : Collection σ → Json
  | ⟨node, children⟩ =>
      .object <|
        [("name", .string node.name)] ++
        Json.optional "description" (node.description?.map .string) ++
        [("path", .string node.path), ("idParam", .string node.idParam),
         ("operations", .array (node.operations.map Operation.json)),
         ("collections", .array (jsonAll children)),
         ("features", .array (node.features.map Feature.json))]

def jsonAll : List (Collection σ) → List Json
  | [] => []
  | c :: rest => json c :: jsonAll rest

end

end Collection
end ResourceRouting
