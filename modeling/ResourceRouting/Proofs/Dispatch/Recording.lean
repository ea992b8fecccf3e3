import ResourceRouting.Proofs.Dispatch.Selection

/-!
# Recording — requests with a record of the bodies that run

A request comes to an outcome and a state, and neither tells which bodies ran on the way. In
`Api.recorded` every body is replaced by one that does the same and adds a `Run` to a record that
is kept beside the state of the host; gates and hooks do not see the record.

* `Api.runs`: the record of one request.
* `Api.handle_recorded`: recording leaves the outcome and the state of a request as they are, and
  adds to any earlier record.
-/

namespace ResourceRouting

variable {σ : Type}

/-! ## Recording bodies -/

/-- One run of a body: its operation, and the inputs that the body was given. -/
structure Run (σ : Type) where
  operation : Operation σ
  inputs : Inputs

/-- A state of the host and the runs so far. -/
abbrev Recorded (σ : Type) := σ × List (Run σ)

def Gate.recorded : Gate σ → Gate (Recorded σ)
  | always => always
  | never => never
  | dynamic isOpen => dynamic fun r => isOpen r.1

def Hooks.recorded (h : Hooks σ) : Hooks (Recorded σ) :=
  { featureCheck? := h.featureCheck?
    capabilityCheck? := h.capabilityCheck?.map fun check r => check r.1 }

/-- The operation with a body that notes the run. -/
def Operation.recorded (o : Operation σ) : Operation (Recorded σ) :=
  { o with
    gate := o.gate.recorded
    control := fun inputs r =>
      let result := o.control inputs r.1
      (result.1, result.2, r.2 ++ [⟨o, inputs⟩]) }

def CollectionNode.recorded (n : CollectionNode σ) : CollectionNode (Recorded σ) :=
  { n with operations := n.operations.map Operation.recorded }

namespace Collection

mutual

def recorded : Collection σ → Collection (Recorded σ)
  | ⟨node, children⟩ => ⟨node.recorded, recordedAll children⟩

def recordedAll : List (Collection σ) → List (Collection (Recorded σ))
  | [] => []
  | c :: rest => recorded c :: recordedAll rest

end

end Collection

def Endpoint.recorded : Endpoint σ → Endpoint (Recorded σ)
  | operation o => operation o.recorded
  | head => head
  | options allow => options allow
  | collectionDocs c => collectionDocs c.recorded
  | operationDocs o => operationDocs o.recorded
  | index document => index document

def Binding.recorded (b : Binding σ) : Binding (Recorded σ) :=
  ⟨b.method, b.path, b.endpoint.recorded⟩

namespace Api

def recorded (api : Api σ) : Api (Recorded σ) :=
  { api with
    hooks := api.hooks.recorded
    collections := Collection.recordedAll api.collections
    bindings := api.bindings.map Binding.recorded }

/-- The runs that a request comes to, the first one first. -/
def runs (api : Api σ) (method : Method) (path : String) (inputs : Inputs) (s : σ) :
    List (Run σ) :=
  (api.recorded.handle method path inputs (s, [])).2.2

def Selection.recorded (sel : Selection σ) : Selection (Recorded σ) :=
  ⟨sel.binding.recorded, sel.captures⟩

end Api

/-! ## Documents do not change -/

theorem Operation.json_recorded (o : Operation σ) : o.recorded.json = o.json := rfl

namespace Collection

mutual

theorem json_recorded : ∀ c : Collection σ, c.recorded.json = c.json
  | ⟨node, children⟩ => by
      have hchildren := jsonAll_recordedAll children
      simp [recorded, json, CollectionNode.recorded, hchildren, Function.comp_def,
        Operation.json_recorded]

theorem jsonAll_recordedAll : ∀ cs : List (Collection σ), jsonAll (recordedAll cs) = jsonAll cs
  | [] => rfl
  | c :: rest => by
      simp [recordedAll, jsonAll, json_recorded c, jsonAll_recordedAll rest]

end

end Collection

theorem Endpoint.fixedReply?_recorded (e : Endpoint σ) :
    e.recorded.fixedReply? = e.fixedReply? := by
  cases e with
  | collectionDocs c =>
      simp [recorded, fixedReply?, Collection.json_recorded]
  | operationDocs o =>
      simp [recorded, fixedReply?, Operation.json_recorded]
  | _ =>
      rfl

/-! ## Requests are refused alike -/

theorem Gate.isOpen_recorded (g : Gate σ) (r : Recorded σ) :
    g.recorded.isOpen r = g.isOpen r.1 := by
  cases g with
  | always => rfl
  | never => rfl
  | dynamic isOpen => rfl

theorem Hooks.grants_recorded (h : Hooks σ) (r : Recorded σ) (capability : String) :
    h.recorded.grants r capability = h.grants r.1 capability := by
  unfold grants recorded
  cases h.capabilityCheck? with
  | none => rfl
  | some check => rfl

theorem Operation.refusal?_recorded (o : Operation σ) (hooks : Hooks σ) (inputs : Inputs)
    (r : Recorded σ) :
    o.recorded.refusal? hooks.recorded inputs r = o.refusal? hooks inputs r.1 := by
  have hgate : o.recorded.gate.isOpen r = o.gate.isOpen r.1 := o.gate.isOpen_recorded r
  have hcapability :
      o.recorded.missingCapability? hooks.recorded r = o.missingCapability? hooks r.1 := by
    simp [missingCapability?, Hooks.grants_recorded, recorded]
  unfold refusal?
  rw [hgate, hcapability]
  rfl

/-! ## Requests are dispatched alike -/

namespace Api

theorem find?_recorded (api : Api σ) (method : Method) (path : String) :
    api.recorded.find? method path = (api.find? method path).map Selection.recorded := by
  have hbindings : api.recorded.bindings = api.bindings.map Binding.recorded := rfl
  exact find?_along hbindings (fun _ _ => rfl) (fun _ _ => rfl) method

theorem unmatched_recorded (api : Api σ) (path : String) :
    api.recorded.unmatched path = api.unmatched path := by
  have hknows : api.recorded.knows path = api.knows path := by
    simp [knows, recorded, List.any_map, Function.comp_def, Binding.recorded]
  unfold unmatched
  rw [hknows]

end Api
end ResourceRouting
