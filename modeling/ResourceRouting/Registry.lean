import ResourceRouting.Api

/-!
# Registry — published collections

The root collections of published applications by name. A publication is all or nothing: if one
name is taken the registry stays as it was.
-/

namespace ResourceRouting

structure Registry (σ : Type) where
  entries : Std.ExtTreeMap String (Collection σ) := ∅

namespace Registry

variable {σ : Type}

def empty : Registry σ := {}

/-- The names and root collections that an application publishes. -/
def entriesOf (api : Api σ) : List (String × Collection σ) :=
  api.collections.map fun c => (api.registryKey c.name, c)

def publish (r : Registry σ) (api : Api σ) : Except Fault (Registry σ) :=
  -- every name is looked up before any is added
  match (entriesOf api).find? fun e => r.entries.contains e.1 with
  | some (key, _) => .error (.alreadyPublished api.name key)
  | none => .ok ⟨(entriesOf api).foldl (fun m e => m.insert e.1 e.2) r.entries⟩

def lookup? (r : Registry σ) (key : String) : Option (Collection σ) := r.entries[key]?

/-- The published names in ascending order. -/
def keys (r : Registry σ) : List String := r.entries.keys

def size (r : Registry σ) : Nat := r.entries.size

def isEmpty (r : Registry σ) : Bool := r.entries.isEmpty

end Registry
end ResourceRouting
