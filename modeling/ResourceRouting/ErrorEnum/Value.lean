import ResourceRouting.ErrorEnum.Expansion
import ResourceRouting.Fault

/-!
# Value — what the generated code does

Values of an error enumeration, and the meaning of the code of its expansion on them: attaching a
context to an error, converting a source into an error, and converting a text into one.
-/

namespace ResourceRouting
namespace ErrorEnum

/-- What a field holds: a context that may be absent, or a value of another type. -/
inductive FieldValue (α : Type)
  | context (c? : Option String)
  | payload (a : α)
  deriving DecidableEq, Repr

/-- An error: its variant, and its fields in the order of the declaration. -/
structure ErrorValue (α : Type) where
  variant : String
  fields : List (String × FieldValue α)
  deriving DecidableEq, Repr

namespace ErrorValue

variable {α : Type}

/-- The context of an error, if it has one. -/
def context? (v : ErrorValue α) : Option String :=
  match v.fields.lookup contextName with
  | some (.context c?) => c?
  | _ => none

/-- The context as an error message shows it. -/
def contextText (v : ErrorValue α) : String := ResourceRouting.contextText v.context?

/-- The error with a context in the field for it, in place of the one that is there. -/
def setContext (v : ErrorValue α) (c : String) : ErrorValue α :=
  { v with fields := v.fields.map fun f =>
      if f.1 = contextName then (f.1, .context (some c)) else f }

end ErrorValue

namespace Conversion

variable {α : Type}

/-- The error that a source is converted into. -/
def ofSource (k : Conversion) (source : α) : ErrorValue α :=
  ⟨k.variant, [(k.field, .payload source), (contextName, .context none)]⟩

/-- The error that a source is converted into together with a context. -/
def ofSourceIn (k : Conversion) (source : α) (c : String) : ErrorValue α :=
  ⟨k.variant, [(k.field, .payload source), (contextName, .context (some c))]⟩

end Conversion

namespace Expansion

variable {α β : Type}

/-- Attaches a context to an error by the first arm for its variant; an error that no arm is for
stays as it is. -/
def attach (x : Expansion) (c : String) (v : ErrorValue α) : ErrorValue α :=
  match x.arms.find? fun arm => arm.variant == v.variant with
  | some _ => v.setContext c
  | none => v

/-- Attaches a context to the error of a result. -/
def context (x : Expansion) (r : Except (ErrorValue α) β) (c : String) :
    Except (ErrorValue α) β :=
  r.mapError (x.attach c)

/-- Attaches contexts to the error of a result, one after the other. -/
def contexts (x : Expansion) (r : Except (ErrorValue α) β) (cs : List String) :
    Except (ErrorValue α) β :=
  cs.foldl x.context r

/-- The error that a text is converted into, where the enumeration has a variant for texts. -/
def ofText? (x : Expansion) (message : α) : Option (ErrorValue α) :=
  x.internal?.map fun _ =>
    ⟨internalName, [("message", .payload message), (contextName, .context none)]⟩

end Expansion
end ErrorEnum
end ResourceRouting
