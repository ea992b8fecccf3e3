import ResourceRouting.Proofs.Dispatch.Recording
import ResourceRouting.Proofs.Dispatch.Selection

/-!
# Handling — which requests run a body, and what the others are told

A request is looked up in the table, overridden by what the path captured, and then passes three
checks of the selected operation. `Api.Admits` states what a run needs, and `Api.Declines` lists
the replies that are given without one; each of its cases holds only if no case before it does.

* `Refusal.Told`, `Endpoint.Answers`: the replies to refusals, and of endpoints that run nothing,
  with their statuses, headers and texts.
* `Api.handle_runs_or_declines`: a request runs one body exactly if it is admitted, and answers
  with what the body returns; otherwise no body runs, the state is kept, and the reply is the one
  that `Declines` lists. What the caller says about captured names has no effect.
-/

namespace ResourceRouting

variable {σ : Type}

/-! ## The checks of an operation -/

namespace Operation

/-- Whether the required capability, if there is one, is granted. -/
def Granted (o : Operation σ) (hooks : Hooks σ) (s : σ) : Prop :=
  ∀ c, o.capability? = some c → hooks.grants s c = true

theorem missingCapability?_eq_none_iff {o : Operation σ} {hooks : Hooks σ} {s : σ} :
    o.missingCapability? hooks s = none ↔ o.Granted hooks s := by
  unfold missingCapability? Granted
  cases o.capability? with
  | none => simp
  | some c => simp [Option.filter_eq_none_iff]

theorem missingCapability?_eq_some_iff {o : Operation σ} {hooks : Hooks σ} {s : σ} {c : String} :
    o.missingCapability? hooks s = some c ↔
      o.capability? = some c ∧ hooks.grants s c = false := by
  simp [missingCapability?, Option.filter_eq_some_iff]

/-- A request that passes all three checks is not refused. -/
theorem refusal?_eq_none_iff {o : Operation σ} {hooks : Hooks σ} {inputs : Inputs} {s : σ} :
    o.refusal? hooks inputs s = none ↔
      o.gate.isOpen s = true ∧ o.Granted hooks s ∧ validate inputs o.params = .ok () := by
  rw [← missingCapability?_eq_none_iff]
  unfold refusal?
  cases o.gate.isOpen s with
  | false =>
      simp
  | true =>
      cases o.missingCapability? hooks s with
      | some c =>
          simp
      | none =>
          cases validate inputs o.params with
          | error e => simp
          | ok _ => simp

/-- The refusals of an operation, each under the checks that come before it. -/
inductive Refuses (o : Operation σ) (hooks : Hooks σ) (inputs : Inputs) (s : σ) : Refusal → Prop
  | unavailable (hgate : o.gate.isOpen s = false) : Refuses o hooks inputs s (.unavailable o.name)
  | missingCapability {c : String} (hgate : o.gate.isOpen s = true)
      (hcapability : o.capability? = some c) (hgrants : hooks.grants s c = false) :
      Refuses o hooks inputs s (.missingCapability c)
  | invalid {e : ValidationError} (hgate : o.gate.isOpen s = true) (hgranted : o.Granted hooks s)
      (hvalidate : validate inputs o.params = .error e) : Refuses o hooks inputs s (.invalid e)

theorem refusal?_eq_some_iff {o : Operation σ} {hooks : Hooks σ} {inputs : Inputs} {s : σ}
    {refusal : Refusal} :
    o.refusal? hooks inputs s = some refusal ↔ o.Refuses hooks inputs s refusal := by
  constructor
  · intro h
    unfold refusal? at h
    cases hgate : o.gate.isOpen s with
    | false =>
        simp only [hgate] at h
        cases h
        exact .unavailable hgate
    | true =>
        simp only [hgate] at h
        cases hmissing : o.missingCapability? hooks s with
        | some c =>
            simp only [hmissing] at h
            cases h
            rcases missingCapability?_eq_some_iff.1 hmissing with ⟨hcapability, hgrants⟩
            exact .missingCapability hgate hcapability hgrants
        | none =>
            have hgranted := missingCapability?_eq_none_iff.1 hmissing
            simp only [hmissing] at h
            cases hvalidate : validate inputs o.params with
            | error e =>
                simp only [hvalidate] at h
                cases h
                exact .invalid hgate hgranted hvalidate
            | ok _ =>
                simp [hvalidate] at h
  · intro h
    cases h with
    | unavailable hgate =>
        simp [refusal?, hgate]
    | missingCapability hgate hcapability hgrants =>
        have hmissing := missingCapability?_eq_some_iff.2 ⟨hcapability, hgrants⟩
        simp [refusal?, hgate, hmissing]
    | invalid hgate hgranted hvalidate =>
        have hmissing := missingCapability?_eq_none_iff.2 hgranted
        simp [refusal?, hgate, hmissing, hvalidate]

end Operation

/-! ## Replies that no body gives -/

/-- The headers of a reply of plain text. -/
def Reply.textHeaders : List (String × String) := [("content-type", "text/plain; charset=utf-8")]

/-- The headers of a reply that holds a JSON value. -/
def Reply.jsonHeaders : List (String × String) := [("content-type", "application/json")]

/-- The reply that tells a client of a refusal. -/
inductive Refusal.Told : Refusal → Reply → Prop
  | unavailable (operation : String) :
      Told (.unavailable operation)
        ⟨404, Reply.textHeaders, "Operation '" ++ operation ++ "' is not available"⟩
  | missingCapability (capability : String) :
      Told (.missingCapability capability)
        ⟨412, Reply.textHeaders ++ [("expect", capability)],
          "The required capability to execute this operation is missing"⟩
  | missing (name : String) (present : List String) :
      Told (.invalid (.missing name present))
        ⟨400, Reply.textHeaders,
          "Required parameter '" ++ name ++ "' not found in [" ++ ",".intercalate present ++ "]"⟩
  | notAllowed (name value : String) (allowed : List String) :
      Told (.invalid (.notAllowed name value allowed))
        ⟨400, Reply.textHeaders,
          "Parameter '" ++ name ++ "' value '" ++ value ++
            "' not found in list of allowed values " ++ ("[" ++ ",".intercalate allowed ++ "]")⟩

theorem Refusal.reply_of_told {refusal : Refusal} {reply : Reply} (h : refusal.Told reply) :
    refusal.reply = reply := by
  cases h with
  | unavailable operation =>
      rfl
  | missingCapability capability =>
      rfl
  | missing name present =>
      rw [← Text.commaList_eq_intercalate]
      rfl
  | notAllowed name value allowed =>
      rw [← Text.commaList_eq_intercalate]
      rfl

theorem Refusal.exists_told (refusal : Refusal) : ∃ reply, refusal.Told reply := by
  cases refusal with
  | unavailable operation =>
      exact ⟨_, .unavailable operation⟩
  | missingCapability capability =>
      exact ⟨_, .missingCapability capability⟩
  | invalid error =>
      cases error with
      | missing name present => exact ⟨_, .missing name present⟩
      | notAllowed name value allowed => exact ⟨_, .notAllowed name value allowed⟩

theorem Refusal.told_iff {refusal : Refusal} {reply : Reply} :
    refusal.Told reply ↔ refusal.reply = reply := by
  constructor
  · exact reply_of_told
  · rintro rfl
    rcases refusal.exists_told with ⟨reply, htold⟩
    -- there is no other reply than this one
    rw [reply_of_told htold]
    exact htold

/-- The reply of an endpoint that runs no operation. -/
inductive Endpoint.Answers : Endpoint σ → Reply → Prop
  | head : Answers .head ⟨200, [], ""⟩
  | options (allow : String) : Answers (.options allow) ⟨200, [("allow", allow)], ""⟩
  | collectionDocs (c : Collection σ) :
      Answers (.collectionDocs c) ⟨200, Reply.jsonHeaders, c.json.text⟩
  | operationDocs (o : Operation σ) :
      Answers (.operationDocs o) ⟨200, Reply.jsonHeaders, o.json.text⟩
  | index (document : IndexDocument) :
      Answers (.index document) ⟨200, Reply.jsonHeaders, document.json.text⟩

theorem Endpoint.answers_iff {e : Endpoint σ} {reply : Reply} :
    e.Answers reply ↔ e.fixedReply? = some reply := by
  constructor
  · intro h
    cases h <;> rfl
  · intro h
    cases e <;> cases h <;> constructor

theorem Endpoint.operation_of_fixedReply?_eq_none {e : Endpoint σ} (h : e.fixedReply? = none) :
    ∃ o, e = .operation o := by
  cases e with
  | operation o => exact ⟨o, rfl⟩
  | _ => simp [fixedReply?] at h

/-! ## Requests -/

namespace Api

/-- What a run of a body needs: the path selects its operation, the inputs it is given are those
of the request with the captures in place of what they hide, and no check refuses them. -/
structure Admits (api : Api σ) (method : Method) (path : String) (inputs : Inputs) (s : σ)
    (run : Run σ) : Prop where
  selected : ∃ sel, api.find? method path = some sel ∧
    sel.binding.endpoint = .operation run.operation ∧
      run.inputs = inputs.overridden sel.captures
  isOpen : run.operation.gate.isOpen s = true
  granted : run.operation.Granted api.hooks s
  valid : validate run.inputs run.operation.params = .ok ()

/-- The replies to requests that run no body. -/
inductive Declines (api : Api σ) (method : Method) (path : String) (inputs : Inputs) (s : σ) :
    Reply → Prop
  | notFound (hnone : ∀ b ∈ api.bindings, Path.captures? b.path path = none) :
      Declines api method path inputs s ⟨404, Reply.textHeaders, "Not Found"⟩
  | methodNotAllowed {b : Binding σ} (hfind : api.find? method path = none)
      (hb : b ∈ api.bindings) (hmatches : Path.captures? b.path path ≠ none) :
      Declines api method path inputs s ⟨405, Reply.textHeaders, "Method Not Allowed"⟩
  | auxiliary {sel : Selection σ} {reply : Reply} (hfind : api.find? method path = some sel)
      (hanswers : sel.binding.endpoint.Answers reply) : Declines api method path inputs s reply
  | refused {sel : Selection σ} {o : Operation σ} {refusal : Refusal} {reply : Reply}
      (hfind : api.find? method path = some sel) (hendpoint : sel.binding.endpoint = .operation o)
      (hrefuses : o.Refuses api.hooks (inputs.overridden sel.captures) s refusal)
      (htold : refusal.Told reply) : Declines api method path inputs s reply

/-! ## How a request ends -/

/-- What a request comes to, and what it adds to any record. -/
def Ends (api : Api σ) (method : Method) (path : String) (inputs : Inputs) (s : σ)
    (result : Outcome × σ) (runs : List (Run σ)) : Prop :=
  api.handle method path inputs s = result ∧
    ∀ earlier, api.recorded.handle method path inputs (s, earlier) =
      (result.1, result.2, earlier ++ runs)

variable {api : Api σ} {method : Method} {path : String} {inputs : Inputs} {s : σ}

theorem Ends.runs_eq {result : Outcome × σ} {runs : List (Run σ)}
    (h : api.Ends method path inputs s result runs) :
    api.runs method path inputs s = runs := by
  have hrecord := h.2 []
  rw [Api.runs, hrecord]
  rfl

theorem ends_of_find?_eq_none (hfind : api.find? method path = none) :
    api.Ends method path inputs s (.ok (api.unmatched path), s) [] := by
  refine ⟨?_, ?_⟩
  · simp [handle, hfind]
  · intro earlier
    have hrecorded : api.recorded.find? method path = none := by
      rw [find?_recorded, hfind]
      rfl
    simp [handle, hrecorded, unmatched_recorded]

theorem ends_of_fixedReply? {sel : Selection σ} {reply : Reply}
    (hfind : api.find? method path = some sel)
    (hreply : sel.binding.endpoint.fixedReply? = some reply) :
    api.Ends method path inputs s (.ok reply, s) [] := by
  refine ⟨?_, ?_⟩
  · simp [handle, hfind, Endpoint.respond_of_fixedReply? hreply]
  · intro earlier
    have hrecorded : api.recorded.find? method path = some sel.recorded := by
      rw [find?_recorded, hfind]
      rfl
    have hreply' : sel.recorded.binding.endpoint.fixedReply? = some reply := by
      rw [← hreply]
      exact sel.binding.endpoint.fixedReply?_recorded
    simp [handle, hrecorded, Endpoint.respond_of_fixedReply? hreply']

/-- A selected operation answers with its body, on a request that no check refuses. -/
theorem handle_of_operation {sel : Selection σ} {o : Operation σ}
    (hfind : api.find? method path = some sel) (hendpoint : sel.binding.endpoint = .operation o) :
    api.handle method path inputs s =
      o.invoke api.hooks (inputs.overridden sel.captures) s := by
  simp [handle, hfind, hendpoint, Endpoint.respond]

theorem handle_recorded_of_operation {sel : Selection σ} {o : Operation σ}
    (hfind : api.find? method path = some sel) (hendpoint : sel.binding.endpoint = .operation o)
    (earlier : List (Run σ)) :
    api.recorded.handle method path inputs (s, earlier) =
      o.recorded.invoke api.hooks.recorded (inputs.overridden sel.captures) (s, earlier) := by
  have hrecorded : api.recorded.find? method path = some sel.recorded := by
    rw [find?_recorded, hfind]
    rfl
  have hendpoint' : sel.recorded.binding.endpoint = .operation o.recorded := by
    have hlift : sel.recorded.binding.endpoint = sel.binding.endpoint.recorded := rfl
    rw [hlift, hendpoint]
    rfl
  rw [handle_of_operation hrecorded hendpoint']
  rfl

theorem ends_of_declines {reply : Reply} (h : api.Declines method path inputs s reply) :
    api.Ends method path inputs s (.ok reply, s) [] := by
  cases h with
  | notFound hnone =>
      -- what matches under no method at all matches under this one neither
      have hfind : api.find? method path = none :=
        find?_eq_none_iff.2 fun b hb _ => hnone b hb
      have hknows : api.knows path = false := by
        rw [knows, List.any_eq_false]
        intro b hb
        simp [hnone b hb]
      have hunmatched : api.unmatched path = ⟨404, Reply.textHeaders, "Not Found"⟩ := by
        rw [unmatched, hknows]
        rfl
      rw [← hunmatched]
      exact ends_of_find?_eq_none hfind
  | @methodNotAllowed b hfind hb hmatches =>
      have hknows : api.knows path = true := by
        rw [knows, List.any_eq_true]
        exact ⟨b, hb, Option.isSome_iff_ne_none.2 hmatches⟩
      have hunmatched : api.unmatched path = ⟨405, Reply.textHeaders, "Method Not Allowed"⟩ := by
        rw [unmatched, hknows]
        rfl
      rw [← hunmatched]
      exact ends_of_find?_eq_none hfind
  | auxiliary hfind hanswers =>
      exact ends_of_fixedReply? hfind (Endpoint.answers_iff.1 hanswers)
  | @refused sel o refusal _ hfind hendpoint hrefuses htold =>
      have hrefusal := Operation.refusal?_eq_some_iff.2 hrefuses
      rw [← Refusal.told_iff.1 htold]
      refine ⟨?_, ?_⟩
      · rw [handle_of_operation hfind hendpoint, Operation.invoke, hrefusal]
      · intro earlier
        have hrefusal' := o.refusal?_recorded api.hooks (inputs.overridden sel.captures) (s, earlier)
        rw [hrefusal] at hrefusal'
        rw [handle_recorded_of_operation hfind hendpoint, Operation.invoke, hrefusal']
        simp

theorem ends_of_admits {run : Run σ} (h : api.Admits method path inputs s run) :
    api.Ends method path inputs s (run.operation.control run.inputs s) [run] := by
  rcases run with ⟨operation, given⟩
  rcases h.selected with ⟨sel, hfind, hendpoint, rfl⟩
  have hrefusal : operation.refusal? api.hooks (inputs.overridden sel.captures) s = none :=
    Operation.refusal?_eq_none_iff.2 ⟨h.isOpen, h.granted, h.valid⟩
  refine ⟨?_, ?_⟩
  · rw [handle_of_operation hfind hendpoint, Operation.invoke, hrefusal]
  · intro earlier
    have hrefusal' := operation.refusal?_recorded api.hooks (inputs.overridden sel.captures)
      (s, earlier)
    rw [hrefusal] at hrefusal'
    rw [handle_recorded_of_operation hfind hendpoint, Operation.invoke, hrefusal']
    rfl

/-- Every request is declined or admitted. -/
theorem declines_or_admits (api : Api σ) (method : Method) (path : String) (inputs : Inputs)
    (s : σ) :
    (∃ reply, api.Declines method path inputs s reply) ∨
      ∃ run, api.Admits method path inputs s run := by
  cases hfind : api.find? method path with
  | none =>
      by_cases hknown : ∃ b ∈ api.bindings, Path.captures? b.path path ≠ none
      · rcases hknown with ⟨b, hb, hmatches⟩
        exact .inl ⟨_, .methodNotAllowed hfind hb hmatches⟩
      · refine .inl ⟨_, .notFound fun b hb => ?_⟩
        exact Classical.byContradiction fun hmatches => hknown ⟨b, hb, hmatches⟩
  | some sel =>
      cases hreply : sel.binding.endpoint.fixedReply? with
      | some reply =>
          exact .inl ⟨reply, .auxiliary hfind (Endpoint.answers_iff.2 hreply)⟩
      | none =>
          rcases Endpoint.operation_of_fixedReply?_eq_none hreply with ⟨o, hendpoint⟩
          cases hrefusal : o.refusal? api.hooks (inputs.overridden sel.captures) s with
          | some refusal =>
              have hrefuses := Operation.refusal?_eq_some_iff.1 hrefusal
              exact .inl ⟨_, .refused hfind hendpoint hrefuses (Refusal.told_iff.2 rfl)⟩
          | none =>
              rcases Operation.refusal?_eq_none_iff.1 hrefusal with ⟨hopen, hgranted, hvalid⟩
              exact .inr ⟨⟨o, inputs.overridden sel.captures⟩,
                ⟨sel, hfind, hendpoint, rfl⟩, hopen, hgranted, hvalid⟩

/-! ## Runs of a request -/

/-- Recording leaves the outcome and the state as they are. -/
theorem handle_recorded (api : Api σ) (method : Method) (path : String) (inputs : Inputs) (s : σ)
    (earlier : List (Run σ)) :
    api.recorded.handle method path inputs (s, earlier) =
      ((api.handle method path inputs s).1, (api.handle method path inputs s).2,
        earlier ++ api.runs method path inputs s) := by
  rcases declines_or_admits api method path inputs s with ⟨reply, hdeclines⟩ | ⟨run, hadmits⟩
  · have hends := ends_of_declines hdeclines
    rw [hends.runs_eq, hends.1]
    exact hends.2 earlier
  · have hends := ends_of_admits hadmits
    rw [hends.runs_eq, hends.1]
    exact hends.2 earlier

theorem runs_eq_nil_of_declines {reply : Reply} (h : api.Declines method path inputs s reply) :
    api.runs method path inputs s = [] :=
  (ends_of_declines h).runs_eq

theorem runs_eq_of_admits {run : Run σ} (h : api.Admits method path inputs s run) :
    api.runs method path inputs s = [run] :=
  (ends_of_admits h).runs_eq

theorem length_runs_le_one : (api.runs method path inputs s).length ≤ 1 := by
  rcases declines_or_admits api method path inputs s with ⟨reply, hdeclines⟩ | ⟨run, hadmits⟩
  · rw [runs_eq_nil_of_declines hdeclines]
    exact Nat.zero_le 1
  · rw [runs_eq_of_admits hadmits]
    exact Nat.le_refl 1

theorem mem_runs_iff {run : Run σ} :
    run ∈ api.runs method path inputs s ↔ api.Admits method path inputs s run := by
  constructor
  · intro hmem
    rcases declines_or_admits api method path inputs s with ⟨reply, hdeclines⟩ | ⟨run', hadmits⟩
    · rw [runs_eq_nil_of_declines hdeclines] at hmem
      cases hmem
    · rw [runs_eq_of_admits hadmits, List.mem_singleton] at hmem
      rw [hmem]
      exact hadmits
  · intro hadmits
    rw [runs_eq_of_admits hadmits]
    exact List.mem_singleton_self run

theorem declines_of_runs_eq_nil (h : api.runs method path inputs s = []) :
    ∃ reply, api.Declines method path inputs s reply := by
  rcases declines_or_admits api method path inputs s with hdeclines | ⟨run, hadmits⟩
  · exact hdeclines
  · rw [runs_eq_of_admits hadmits] at h
    cases h

theorem declines_iff {reply : Reply} :
    api.runs method path inputs s = [] ∧ api.handle method path inputs s = (.ok reply, s) ↔
      api.Declines method path inputs s reply := by
  constructor
  · rintro ⟨hruns, hhandle⟩
    rcases declines_of_runs_eq_nil hruns with ⟨reply', hdeclines⟩
    have hsame := (ends_of_declines hdeclines).1
    rw [hhandle] at hsame
    cases hsame
    exact hdeclines
  · intro hdeclines
    exact ⟨runs_eq_nil_of_declines hdeclines, (ends_of_declines hdeclines).1⟩

/-- Only what the selection leaves of the inputs has an effect. -/
theorem handle_congr {inputs' : Inputs}
    (h : ∀ sel, api.find? method path = some sel →
      inputs'.overridden sel.captures = inputs.overridden sel.captures) :
    api.handle method path inputs' s = api.handle method path inputs s := by
  unfold handle
  cases hfind : api.find? method path with
  | none =>
      rfl
  | some sel =>
      simp only [h sel hfind]

theorem runs_congr {inputs' : Inputs}
    (h : ∀ sel, api.find? method path = some sel →
      inputs'.overridden sel.captures = inputs.overridden sel.captures) :
    api.runs method path inputs' s = api.runs method path inputs s := by
  have hrecorded : ∀ sel, api.recorded.find? method path = some sel →
      inputs'.overridden sel.captures = inputs.overridden sel.captures := by
    intro sel hsel
    rw [find?_recorded, Option.map_eq_some_iff] at hsel
    rcases hsel with ⟨sel, hfind, rfl⟩
    exact h sel hfind
  rw [runs, runs, handle_congr hrecorded]

/-- A request runs at most one body, and runs it exactly if it is admitted: the answer is then
what the body returns. A request that runs no body answers with the reply that declines it and
keeps the state. Recording leaves all this as it is, and what the inputs say about names that the
selected path captures has no effect. -/
theorem handle_runs_or_declines (api : Api σ) (method : Method) (path : String) (inputs : Inputs)
    (s : σ) :
    (∀ earlier, api.recorded.handle method path inputs (s, earlier) =
      ((api.handle method path inputs s).1, (api.handle method path inputs s).2,
        earlier ++ api.runs method path inputs s)) ∧
    (api.runs method path inputs s).length ≤ 1 ∧
    (∀ run, run ∈ api.runs method path inputs s ↔ api.Admits method path inputs s run) ∧
    (∀ run ∈ api.runs method path inputs s,
      api.handle method path inputs s = run.operation.control run.inputs s) ∧
    (∀ reply, api.runs method path inputs s = [] ∧
        api.handle method path inputs s = (.ok reply, s) ↔
      api.Declines method path inputs s reply) ∧
    (api.runs method path inputs s = [] →
      ∃ reply, api.handle method path inputs s = (.ok reply, s)) ∧
    ∀ inputs' : Inputs,
      (∀ name, (∀ sel, api.find? method path = some sel → name ∉ sel.captures) →
        inputs'[name]? = inputs[name]?) →
      api.handle method path inputs' s = api.handle method path inputs s ∧
        api.runs method path inputs' s = api.runs method path inputs s := by
  refine ⟨handle_recorded api method path inputs s, length_runs_le_one, fun _ => mem_runs_iff, ?_,
    fun _ => declines_iff, ?_, ?_⟩
  · intro run hmem
    exact (ends_of_admits (mem_runs_iff.1 hmem)).1
  · intro hruns
    rcases declines_of_runs_eq_nil hruns with ⟨reply, hdeclines⟩
    exact ⟨reply, (ends_of_declines hdeclines).1⟩
  · intro inputs' hagree
    have hoverridden : ∀ sel, api.find? method path = some sel →
        inputs'.overridden sel.captures = inputs.overridden sel.captures := by
      intro sel hfind
      refine Inputs.overridden_congr fun name hname => hagree name ?_
      -- there is only one selection, so a name that it does not capture is not captured at all
      intro sel' hfind'
      rw [hfind] at hfind'
      cases hfind'
      exact hname
    exact ⟨handle_congr hoverridden, runs_congr hoverridden⟩

end Api
end ResourceRouting
