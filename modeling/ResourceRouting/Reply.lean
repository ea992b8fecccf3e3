import ResourceRouting.Inputs
import ResourceRouting.Json.Value
import ResourceRouting.Text.Case

/-!
# Reply — answers and the bodies that give them

A reply has a status, headers in the order of their last setting, and a body. Header names are
compared up to ASCII case, and setting one removes those it equals, so they stay distinct.
-/

namespace ResourceRouting

structure Reply where
  status : Nat
  headers : List (String × String) := []
  body : String := ""
  deriving DecidableEq, Repr

namespace Reply

def ok : Reply := { status := 200 }

/-- Sets a header, in place of those whose names are equal up to ASCII case. -/
def withHeader (r : Reply) (name value : String) : Reply :=
  { r with headers := r.headers.filter (fun h => !Text.sameUpToCase h.1 name) ++ [(name, value)] }

def withBody (r : Reply) (body : String) : Reply := { r with body }

/-- The value of a header, its name taken up to ASCII case. -/
def header? (r : Reply) (name : String) : Option String :=
  (r.headers.find? fun h => Text.sameUpToCase h.1 name).map (·.2)

def contentType : String := "content-type"

/-- A reply of plain text. -/
def text (status : Nat) (body : String) : Reply :=
  { status : Reply } |>.withHeader contentType "text/plain; charset=utf-8" |>.withBody body

/-- A reply that holds a JSON value. -/
def json (status : Nat) (value : Json) : Reply :=
  { status : Reply } |>.withHeader contentType "application/json" |>.withBody value.text

end Reply

/-! ## Bodies of operations -/

/-- The failure of a body. -/
structure ControlError where
  message : String
  deriving DecidableEq, Repr

/-- What a request comes to. -/
abbrev Outcome := Except ControlError Reply

/-- The body of an operation: it sees the inputs and the state of the host, and may change that
state. -/
abbrev Control (σ : Type) := Inputs → σ → Outcome × σ

/-- The body of an operation that declares none. -/
def Control.empty {σ : Type} : Control σ := fun _ s => (.ok Reply.ok, s)

end ResourceRouting
