import ResourceRouting.Method

/-!
# Fault — what can be wrong with a declaration

`Fault` lists the causes for which a declaration, a route table or a publication is refused.
`DeclarationError` is the report of one: a kind, a message and an optional context.
-/

namespace ResourceRouting

/-- The context of a report in parentheses, or nothing. -/
def contextText : Option String → String
  | some c => " (" ++ c ++ ")"
  | none => ""

/-! ## Reports -/

inductive DeclarationError.Kind
  | duplicateCollection
  | duplicateOperation
  | duplicateParameter
  | controlOutsideOperation
  | featureTarget
  | routeConflict
  | ambiguousPath
  | internal
  deriving DecidableEq, Repr

structure DeclarationError where
  kind : DeclarationError.Kind
  message : String
  context? : Option String := none
  deriving DecidableEq, Repr

namespace DeclarationError

def Kind.all : List Kind :=
  [.duplicateCollection, .duplicateOperation, .duplicateParameter, .controlOutsideOperation,
    .featureTarget, .routeConflict, .ambiguousPath, .internal]

/-- The name of a kind, by which programs tell reports apart. -/
def Kind.name : Kind → String
  | duplicateCollection => "DuplicateCollection"
  | duplicateOperation => "DuplicateOperation"
  | duplicateParameter => "DuplicateParameter"
  | controlOutsideOperation => "ControlOutsideOperation"
  | featureTarget => "FeatureTarget"
  | routeConflict => "RouteConflict"
  | ambiguousPath => "AmbiguousPath"
  | internal => "Internal"

def Kind.ofName? (s : String) : Option Kind := all.find? fun k => k.name == s

/-- What a report of a kind begins with. -/
def Kind.title : Kind → String
  | duplicateCollection => "Collection already registered"
  | duplicateOperation => "Operation already registered"
  | duplicateParameter => "Parameter already declared"
  | controlOutsideOperation => "Control outside of operation"
  | featureTarget => "Invalid feature target"
  | routeConflict => "Route conflict"
  | ambiguousPath => "Ambiguous path"
  | internal => "Internal declaration error"

def text (e : DeclarationError) : String :=
  e.kind.title ++ contextText e.context? ++ ": " ++ e.message

/-- The report with a context in place of the one it had. -/
def withContext (e : DeclarationError) (context : String) : DeclarationError :=
  { e with context? := some context }

/-- The report of a cause that is known by its message only. -/
def ofMessage (message : String) : DeclarationError := ⟨.internal, message, none⟩

end DeclarationError

/-! ## Causes -/

inductive Fault
  | repeatedRoot (app name : String)
  | repeatedChild (parent name : String)
  | repeatedOperation (collection name : String)
  | repeatedParameter (operation name : String)
  | strayControl (collection : String)
  | retargetedFeature (feature current wanted : String)
  | untargetedFeature (feature : String)
  | repeatedPlaceholder (path name : String)
  | boundTwice (method : Method) (path endpoint : String)
  | alreadyPublished (app key : String)
  deriving DecidableEq, Repr

namespace Fault

def report : Fault → DeclarationError
  | repeatedRoot app name =>
      ⟨.duplicateCollection, s!"'{name}' already declared", some s!"application '{app}'"⟩
  | repeatedChild parent name =>
      ⟨.duplicateCollection, s!"'{name}' already declared under '{parent}'", none⟩
  | repeatedOperation collection name =>
      ⟨.duplicateOperation, s!"Operation {name} already registered in {collection} collection",
        none⟩
  | repeatedParameter operation name =>
      ⟨.duplicateParameter, s!"'{name}' on operation '{operation}'", none⟩
  | strayControl collection =>
      ⟨.controlOutsideOperation,
        "The 'control' statement must be used only within context of Operation " ++
          s!"(collection '{collection}')", none⟩
  | retargetedFeature feature current wanted =>
      ⟨.featureTarget,
        s!"Feature '{feature}' targets '{current}', cannot re-target to '{wanted}'", none⟩
  | untargetedFeature feature =>
      ⟨.featureTarget, s!"Feature '{feature}' must name the collection it extends", none⟩
  | repeatedPlaceholder path name =>
      ⟨.ambiguousPath, s!"'{path}' repeats ':{name}', pick a distinct subcollection id", none⟩
  | boundTwice method path endpoint =>
      ⟨.routeConflict, s!"{method.text} {path} is bound twice", some s!"binding {endpoint}"⟩
  | alreadyPublished app key =>
      ⟨.duplicateCollection, s!"'{key}' is already published", some s!"publishing '{app}'"⟩

def text (f : Fault) : String := f.report.text

end Fault
end ResourceRouting
