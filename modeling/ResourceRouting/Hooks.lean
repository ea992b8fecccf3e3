/-!
# Hooks — decisions of the host

A host may decide which features are enabled and which capabilities are granted. Without a
decision all of them are. Features are decided once, while routes are compiled; capabilities at
each request, from the state of the host.
-/

namespace ResourceRouting

@[ext]
structure Hooks (σ : Type) where
  featureCheck? : Option (String → String → Bool) := none
  capabilityCheck? : Option (σ → String → Bool) := none

namespace Hooks

variable {σ : Type}

/-- Whether a feature is enabled for a collection. -/
def enables (h : Hooks σ) (collection feature : String) : Bool :=
  match h.featureCheck? with
  | some check => check collection feature
  | none => true

/-- Whether a capability is granted in a state. -/
def grants (h : Hooks σ) (s : σ) (capability : String) : Bool :=
  match h.capabilityCheck? with
  | some check => check s capability
  | none => true

/-- Which decisions the host makes itself. -/
def text (h : Hooks σ) : String :=
  "Hooks \x7b feature_check: " ++ toString h.featureCheck?.isSome ++
    ", capability_check: " ++ toString h.capabilityCheck?.isSome ++ " \x7d"

end Hooks
end ResourceRouting
