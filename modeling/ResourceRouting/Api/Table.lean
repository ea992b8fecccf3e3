import ResourceRouting.Collection

/-!
# Table — the bindings of an application

A binding answers one method on one pattern. The table is built by walking the compiled
collections: auxiliary bindings of a collection, then its operations with theirs, then its
subcollections. Two bindings of one method and one shape would answer the same requests, so the
second of them is refused.
-/

namespace ResourceRouting

/-! ## Endpoints -/

/-- The entry of a root collection in the index of an application. -/
structure CollectionSummary where
  name : String
  description? : Option String
  path : String
  docs : String
  operations : List String
  deriving DecidableEq, Repr

/-- The document that leads to those of the root collections. -/
structure IndexDocument where
  name : String
  collections : List CollectionSummary
  deriving DecidableEq, Repr

/-- What answers a request on a binding. -/
inductive Endpoint (σ : Type)
  | operation (o : Operation σ)
  | head
  | options (allow : String)
  | collectionDocs (c : Collection σ)
  | operationDocs (o : Operation σ)
  | index (document : IndexDocument)

structure Binding (σ : Type) where
  method : Method
  path : String
  endpoint : Endpoint σ

namespace CollectionSummary

def json (s : CollectionSummary) : Json :=
  .object <|
    [("name", .string s.name)] ++
    Json.optional "description" (s.description?.map .string) ++
    [("path", .string s.path), ("docs", .string s.docs), ("operations", .strings s.operations)]

def ofCollection {σ : Type} (c : Collection σ) : CollectionSummary :=
  { name := c.node.name
    description? := c.node.description?
    path := c.node.path
    docs := c.node.docsPath
    operations := c.node.operations.map Operation.name }

end CollectionSummary

namespace IndexDocument

def json (d : IndexDocument) : Json :=
  .object [("name", .string d.name), ("collections", .array (d.collections.map (·.json)))]

def ofCollections {σ : Type} (app : String) (collections : List (Collection σ)) : IndexDocument :=
  { name := app, collections := collections.map CollectionSummary.ofCollection }

end IndexDocument

namespace Endpoint

variable {σ : Type}

def kind : Endpoint σ → String
  | operation _ => "operation"
  | head => Auxiliary.head.text
  | options _ => Auxiliary.options.text
  | collectionDocs _ | operationDocs _ => Auxiliary.docs.text
  | index _ => Auxiliary.index.text

/-- The reply of an endpoint that runs no operation. -/
def fixedReply? : Endpoint σ → Option Reply
  | operation _ => none
  | head => some Reply.ok
  | options allow => some (Reply.ok.withHeader "allow" allow)
  | collectionDocs c => some (Reply.json 200 c.json)
  | operationDocs o => some (Reply.json 200 o.json)
  | index d => some (Reply.json 200 d.json)

def respond (e : Endpoint σ) (hooks : Hooks σ) (inputs : Inputs) (s : σ) : Outcome × σ :=
  match e with
  | operation o => o.invoke hooks inputs s
  | head => (.ok Reply.ok, s)
  | options allow => (.ok (Reply.ok.withHeader "allow" allow), s)
  | collectionDocs c => (.ok (Reply.json 200 c.json), s)
  | operationDocs o => (.ok (Reply.json 200 o.json), s)
  | index d => (.ok (Reply.json 200 d.json), s)

theorem respond_of_fixedReply? {e : Endpoint σ} {r : Reply} (h : e.fixedReply? = some r)
    (hooks : Hooks σ) (inputs : Inputs) (s : σ) : e.respond hooks inputs s = (.ok r, s) := by
  cases e <;> simp_all [fixedReply?, respond]

end Endpoint

/-! ## Building -/

abbrev Table (σ : Type) := List (Binding σ)

namespace Binding

variable {σ : Type}

/-- Whether two bindings answer the same method on patterns of one shape. -/
def clashes (a b : Binding σ) : Bool :=
  a.method == b.method && Path.shape a.path == Path.shape b.path

end Binding

namespace Table

variable {σ : Type}

/-- Adds a binding, unless the table has one that it clashes with. -/
def bind (t : Table σ) (method : Method) (path : String) (endpoint : Endpoint σ) :
    Except Fault (Table σ) :=
  let b : Binding σ := { method, path, endpoint }
  if t.any b.clashes then .error (.boundTwice method path endpoint.kind)
  else .ok (t ++ [b])

/-- Adds a binding of an auxiliary kind, if that kind is switched on. -/
def bindAuxiliary (routing : Routing) (kind : Auxiliary) (method : Method) (path : String)
    (endpoint : Endpoint σ) (t : Table σ) : Except Fault (Table σ) :=
  if routing.allows kind then t.bind method path endpoint else .ok t

/-- The documentation path of an operation. -/
def operationDocsPath (node : CollectionNode σ) (o : Operation σ) : String :=
  Path.join (Path.join node.docsPath "operations") o.name

/-- Adds the bindings of an operation, none if its gate is never open. -/
def addOperation (routing : Routing) (node : CollectionNode σ) (t : Table σ) (o : Operation σ) :
    Except Fault (Table σ) :=
  if o.gate.isRegistered then do
    let t ← t.bind o.method o.path (.operation o)
    let t ← t.bindAuxiliary routing .head .head o.auxPath .head
    let t ← t.bindAuxiliary routing .options .options o.auxPath (.options o.allow)
    t.bindAuxiliary routing .docs .get (operationDocsPath node o) (.operationDocs o)
  else .ok t

mutual

/-- Adds the bindings of a collection and of all below it. -/
def addCollection (routing : Routing) (t : Table σ) : Collection σ → Except Fault (Table σ)
  | ⟨node, children⟩ => do
      let c : Collection σ := ⟨node, children⟩
      let t ← t.bindAuxiliary routing .head .head node.path .head
      let t ← t.bindAuxiliary routing .options .options node.path (.options c.allow)
      let t ← t.bindAuxiliary routing .docs .get node.docsPath (.collectionDocs c)
      let t ← node.operations.foldlM (addOperation routing node) t
      addCollections routing t children

def addCollections (routing : Routing) (t : Table σ) :
    List (Collection σ) → Except Fault (Table σ)
  | [] => .ok t
  | c :: rest => do
      let t ← addCollection routing t c
      addCollections routing t rest

end

/-- The table of an application: all collections, and the index after them. -/
def ofCollections (app : String) (routing : Routing) (collections : List (Collection σ)) :
    Except Fault (Table σ) := do
  let t ← addCollections routing [] collections
  t.bindAuxiliary routing .index .get (routing.route "docs")
    (.index (.ofCollections app collections))

end Table
end ResourceRouting
