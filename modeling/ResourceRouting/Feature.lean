import ResourceRouting.Fault
import ResourceRouting.Parameter
import ResourceRouting.Text.Blank
import Std.Data.ExtTreeMap

/-!
# Feature — named bundles of extra parameters

A feature extends operations of one collection, the target, with parameters, apart from the
declaration of that collection. Declaring a feature again merges the second body into the first:
the first description stays, parameters are appended, the last value of a constraint counts.
-/

namespace ResourceRouting

/-! ## Features -/

/-- The parameters that a feature adds to the operation of a name. -/
structure Extension where
  operation : String
  params : List Parameter
  deriving DecidableEq, Repr

structure Feature where
  name : String
  target : String
  description? : Option String := none
  extensions : List Extension := []
  constraints : Std.ExtTreeMap String Json := ∅

inductive FeatureClause
  | description (text : String)
  | operation (name : String) (params : List Parameter)
  | constraint (name : String) (value : Json)

namespace Feature

/-- Appends parameters to the extension of an operation, or adds one for it. -/
def extend (operation : String) (params : List Parameter) : List Extension → List Extension
  | [] => [⟨operation, params⟩]
  | e :: rest =>
      if e.operation = operation then ⟨operation, e.params ++ params⟩ :: rest
      else e :: extend operation params rest

def apply (f : Feature) : FeatureClause → Feature
  | .description text => { f with description? := f.description?.or (some text) }
  | .operation name params => { f with extensions := extend name params f.extensions }
  | .constraint name value => { f with constraints := f.constraints.insert name value }

def extension? (f : Feature) (operation : String) : Option Extension :=
  f.extensions.find? fun e => e.operation == operation

/-- Whether the feature extends the operation of a name. -/
def extends? (f : Feature) (operation : String) : Bool := (f.extension? operation).isSome

def Extension.json (e : Extension) : Json :=
  .object [("name", .string e.operation), ("params", .array (e.params.map Parameter.json))]

def json (f : Feature) : Json :=
  .object <|
    [("name", .string f.name), ("collection", .string f.target)] ++
    Json.optional "description" (f.description?.map .string) ++
    [("operations", .array (f.extensions.map Extension.json)),
     ("constraints", .object f.constraints.toList)]

end Feature

/-! ## Registries -/

/-- The features of an application, each name once, in the order of their first declaration. -/
structure FeatureRegistry where
  features : List Feature := []

namespace FeatureRegistry

def get? (r : FeatureRegistry) (name : String) : Option Feature :=
  r.features.find? fun f => f.name == name

/-- Replaces the features of a name by their image. -/
def modify (r : FeatureRegistry) (name : String) (change : Feature → Feature) : FeatureRegistry :=
  ⟨r.features.map fun f => if f.name = name then change f else f⟩

/-- Declares a feature or merges into the one of that name. A new feature has to name its target;
a later declaration names the same target or none. -/
def declare (r : FeatureRegistry) (name target : String) (body : List FeatureClause) :
    Except Fault FeatureRegistry :=
  match r.get? name with
  | some f =>
      if target.isEmpty || f.target = target then .ok (r.modify name (body.foldl Feature.apply))
      else .error (.retargetedFeature name f.target target)
  | none =>
      if Text.isBlankText target then .error (.untargetedFeature name)
      else .ok ⟨r.features ++ [body.foldl Feature.apply { name, target }]⟩

/-- The features that target a collection. -/
def forCollection (r : FeatureRegistry) (collection : String) : List Feature :=
  r.features.filter fun f => f.target == collection

end FeatureRegistry
end ResourceRouting
