import ResourceRouting.Inputs
import ResourceRouting.Parameter

/-!
# Validation — inputs against schemas

Two passes, so that a missing parameter is reported before any value that is not allowed: first
every required parameter has to be present, then every value that is present has to be allowed.
Values are never converted.
-/

namespace ResourceRouting

inductive ValidationError
  | missing (name : String) (present : List String)
  | notAllowed (name value : String) (allowed : List String)
  deriving DecidableEq, Repr

namespace ValidationError

/-- The status of the reply to inputs that are refused. -/
def status (_ : ValidationError) : Nat := 400

def text : ValidationError → String
  | missing name present =>
      s!"Required parameter '{name}' not found in [{Text.commaList present}]"
  | notAllowed name value allowed =>
      s!"Parameter '{name}' value '{value}' not found in list of allowed values " ++
        s!"[{Text.commaList allowed}]"

end ValidationError

namespace Parameter

/-- Whether a required parameter is absent. -/
def lacks (p : Parameter) (inputs : Inputs) : Bool := p.required && !inputs.contains p.name

/-- The value of a parameter if it is present and not allowed. -/
def offence? (p : Parameter) (inputs : Inputs) : Option String :=
  inputs[p.name]?.filter fun value => !p.allows value

end Parameter

/-- The first reason to refuse the inputs, if there is one. -/
def validate (inputs : Inputs) (params : List Parameter) : Except ValidationError Unit :=
  -- no value is looked at while a required parameter is missing
  match params.find? (·.lacks inputs) with
  | some p => .error (.missing p.name inputs.keys)
  | none =>
      match params.findSome? fun p => (p.offence? inputs).map fun value => (p, value) with
      | some (p, value) => .error (.notAllowed p.name value p.allowed)
      | none => .ok ()

end ResourceRouting
