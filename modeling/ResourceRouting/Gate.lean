/-!
# Gate — whether an operation takes part

A static gate is settled when routes are compiled: `never` keeps an operation out of the table.
A dynamic gate is asked at each request.
-/

namespace ResourceRouting

inductive Gate (σ : Type)
  | always
  | never
  | dynamic (isOpen : σ → Bool)

namespace Gate

variable {σ : Type}

/-- The gate of a switch that is known in advance. -/
def ofBool (enabled : Bool) : Gate σ := if enabled then always else never

/-- Whether the operation is bound at all. -/
def isRegistered : Gate σ → Bool
  | never => false
  | _ => true

/-- Whether requests pass in a state. -/
def isOpen (s : σ) : Gate σ → Bool
  | always => true
  | never => false
  | dynamic p => p s

def text : Gate σ → String
  | always => "Always"
  | never => "Never"
  | dynamic _ => "Dynamic(..)"

theorem isRegistered_of_isOpen {g : Gate σ} {s : σ} (h : g.isOpen s = true) :
    g.isRegistered = true := by
  cases g <;> simp_all [isOpen, isRegistered]

end Gate
end ResourceRouting
