import ResourceRouting.Feature
import ResourceRouting.Gate
import ResourceRouting.Hooks
import ResourceRouting.Reply
import ResourceRouting.Routing
import ResourceRouting.Validation

/-!
# Operation — named actions on a collection

An operation is declared by clauses and compiled once: its convention settles method and path, its
parameters are the implied identifier, the declared ones and those of the enabled features, in
that order.

A request to an operation passes the gate, the required capability and the validation of its
inputs, in that order. The first that refuses decides the reply, and then the body does not run.
-/

namespace ResourceRouting

/-! ## Declaring -/

inductive OperationClause (σ : Type)
  | description (text : String)
  | param (p : Parameter)
  | params (ps : List Parameter)
  | method (m : Method)
  | collectionLevel
  | capability (name : String)
  | gate (g : Gate σ)
  | control (body : Control σ)

/-- A declared operation. `faults` holds what was wrong with its clauses, the first one first. -/
structure OperationDecl (σ : Type) where
  name : String
  description? : Option String := none
  method? : Option Method := none
  customMethod? : Option Method := none
  collectionLevel : Bool := false
  params : List Parameter := []
  capability? : Option String := none
  gate : Gate σ := .always
  control? : Option (Control σ) := none
  faults : List Fault := []

namespace OperationDecl

variable {σ : Type}

/-- Declares one parameter; a second one of the same name is a fault. -/
def addParam (d : OperationDecl σ) (p : Parameter) : OperationDecl σ :=
  if d.params.any fun q => q.name == p.name then
    { d with faults := d.faults ++ [.repeatedParameter d.name p.name] }
  else { d with params := d.params ++ [p] }

def apply (d : OperationDecl σ) : OperationClause σ → OperationDecl σ
  | .description text => { d with description? := some text }
  | .param p => d.addParam p
  | .params ps => ps.foldl addParam d
  | .method m => { d with method? := some m }
  | .collectionLevel => { d with collectionLevel := true }
  | .capability name => { d with capability? := some name }
  | .gate g => { d with gate := g }
  | .control body => { d with control? := some body }

/-- An operation with the given clauses. -/
def operation (name : String) (body : List (OperationClause σ)) : OperationDecl σ :=
  body.foldl apply { name }

/-- An operation that is posted to unless its name is canonical or a clause sets its method. -/
def action (name : String) (body : List (OperationClause σ)) : OperationDecl σ :=
  body.foldl apply { name, customMethod? := some .post }

/-- The convention of the name, with what the clauses change of it. -/
def convention (d : OperationDecl σ) : Convention :=
  let c := Convention.ofName d.name
  -- a canonical name keeps its scope, and an action its method only where no clause sets one
  let c :=
    if c.canonical then c
    else
      { c with
        scope := if d.collectionLevel then .collection else c.scope
        method := d.customMethod?.getD c.method }
  { c with method := d.method?.getD c.method }

end OperationDecl

/-! ## Compiled operations -/

structure Operation (σ : Type) where
  name : String
  collection : String
  description : String
  method : Method
  scope : Scope
  path : String
  auxPath : String
  params : List Parameter
  capability? : Option String
  gate : Gate σ
  features : List String
  control : Control σ

/-- What the operations of a collection share. -/
structure OperationOwner where
  name : String
  path : String
  idParam : String
  features : List Feature
  routing : Routing

namespace OperationDecl

variable {σ : Type}

/-- The parameters of an operation without any feature. -/
def ownParams (d : OperationDecl σ) (idParam : String) : List Parameter :=
  if Convention.impliesId d.name && !(d.params.any fun p => p.name == idParam) then
    Parameter.identifier idParam :: d.params
  else d.params

/-- Appends a parameter unless its name is taken. -/
def inject (params : List Parameter) (p : Parameter) : List Parameter :=
  if params.any fun q => q.name == p.name then params else params ++ [p]

/-- The parameters with those of the features that extend the operation. -/
def withFeatures (params : List Parameter) (extensions : List (Feature × Extension)) :
    List Parameter :=
  extensions.foldl (fun acc e => e.2.params.foldl inject acc) params

/-- The features that are enabled for an owner and extend an operation. -/
def extensions (owner : OperationOwner) (hooks : Hooks σ) (operation : String) :
    List (Feature × Extension) :=
  owner.features.filterMap fun f =>
    if hooks.enables owner.name f.name then (f.extension? operation).map fun e => (f, e) else none

/-- The path of the operation, relative to the root. -/
def relative (owner : OperationOwner) (d : OperationDecl σ) : String :=
  let c := d.convention
  Path.ofOperation owner.path owner.idParam d.name c.scope c.canonical

/-- All that a request needs of the operation, whatever may be wrong with its declaration. -/
def settled (owner : OperationOwner) (hooks : Hooks σ) (d : OperationDecl σ) : Operation σ :=
  let c := d.convention
  let extensions := extensions owner hooks d.name
  { name := d.name
    collection := owner.name
    description := d.description?.getD
      s!"{Text.capitalized d.name} operation on {owner.name} collection"
    method := c.method
    scope := c.scope
    path := owner.routing.route (d.relative owner)
    auxPath := owner.routing.route (Path.join owner.path d.name)
    params := withFeatures (d.ownParams owner.idParam) extensions
    capability? := d.capability?
    gate := d.gate
    features := extensions.map fun e => e.1.name
    control := d.control?.getD Control.empty }

/-- Checks the clauses and the path, and settles the operation. -/
def compile (owner : OperationOwner) (hooks : Hooks σ) (d : OperationDecl σ) :
    Except Fault (Operation σ) := do
  if let fault :: _ := d.faults then
    throw fault
  if let some name := Path.repeatedParam? (d.relative owner) then
    throw (.repeatedPlaceholder (d.relative owner) name)
  return d.settled owner hooks

end OperationDecl

/-! ## Requests -/

/-- Why a request does not reach the body of an operation. -/
inductive Refusal
  | unavailable (operation : String)
  | missingCapability (capability : String)
  | invalid (error : ValidationError)
  deriving DecidableEq, Repr

def Refusal.reply : Refusal → Reply
  | unavailable operation => Reply.text 404 s!"Operation '{operation}' is not available"
  | missingCapability capability =>
      (Reply.text 412 "The required capability to execute this operation is missing").withHeader
        "expect" capability
  | invalid error => Reply.text error.status error.text

namespace Operation

variable {σ : Type}

def param? (o : Operation σ) (name : String) : Option Parameter :=
  o.params.find? fun p => p.name == name

/-- The parameters as descriptors, the `Allow` text of the operation. -/
def allow (o : Operation σ) : String := Text.commaList (o.params.map Parameter.text)

/-- The required capability, if it is not granted in a state. -/
def missingCapability? (o : Operation σ) (hooks : Hooks σ) (s : σ) : Option String :=
  o.capability?.filter fun c => !hooks.grants s c

/-- The first reason to refuse a request in a state. -/
def refusal? (o : Operation σ) (hooks : Hooks σ) (inputs : Inputs) (s : σ) : Option Refusal :=
  if !o.gate.isOpen s then some (.unavailable o.name)
  else
    match o.missingCapability? hooks s with
    | some capability => some (.missingCapability capability)
    | none =>
        match validate inputs o.params with
        | .error error => some (.invalid error)
        | .ok () => none

/-- Answers a refusal, or else runs the body. -/
def invoke (o : Operation σ) (hooks : Hooks σ) (inputs : Inputs) (s : σ) : Outcome × σ :=
  match o.refusal? hooks inputs s with
  | some refusal => (.ok refusal.reply, s)
  | none => o.control inputs s

def json (o : Operation σ) : Json :=
  .object <|
    [("name", .string o.name), ("collection", .string o.collection),
     ("description", .string o.description), ("method", .string o.method.text),
     ("scope", .string o.scope.text), ("path", .string o.path),
     ("params", .array (o.params.map Parameter.json))] ++
    Json.optional "requiredCapability" (o.capability?.map .string) ++
    [("features", .strings o.features)]

end Operation
end ResourceRouting
