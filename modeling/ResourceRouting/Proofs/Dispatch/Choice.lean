import ResourceRouting.Proofs.Dispatch.Handling
import ResourceRouting.Proofs.Dispatch.Instances

/-!
# Choice — which binding is chosen, and when none is

The table is searched for the binding with the fewest distinct names in its pattern, the first one
of these. That no binding is chosen is told by the bindings alone: the reply to such a request is
the same with whatever endpoints at the methods and paths of the table.

* `Api.first_iff_exists_chosenAt`: what is chosen, by its position in the table.
* `Api.answersItself_iff`: an application answers on its own exactly if no binding is chosen.
* `Api.answersItself_iff_runs_eq_nil`: its own replies are told from those of all endpoints.
* `Api.chooses_fewest_or_unmatched`: which binding is chosen, or which of its own replies is given.
-/

namespace ResourceRouting

/-! ## Distinct names -/

namespace Path

/-- The number of distinct names of placeholders. -/
def nameCount (pattern : String) : Nat := (params pattern).eraseDups.length

theorem size_eq_nameCount {pattern path : String} {captures : Inputs}
    (h : captures? pattern path = some captures) : captures.size = nameCount pattern := by
  refine Inputs.size_eq_length (nodup_eraseDups (params pattern)) ?_
  intro name
  rw [List.mem_eraseDups, mem_of_captures? h]

end Path

variable {σ : Type}

/-! ## The chosen binding -/

namespace Api

/-- The selection is that at a position of the table: its binding is asked for and matches, no
other that is and does has fewer distinct names, and those that have as few come later. -/
structure ChosenAt (api : Api σ) (method : Method) (path : String) (i : Nat)
    (sel : Selection σ) : Prop where
  there : api.bindings[i]? = some sel.binding
  asked : sel.binding.method = method
  captured : Path.captures? sel.binding.path path = some sel.captures
  fewest : ∀ j b, api.bindings[j]? = some b → b.method = method → Path.Matches b.path path →
    Path.nameCount sel.binding.path ≤ Path.nameCount b.path ∧
      (Path.nameCount b.path = Path.nameCount sel.binding.path → i ≤ j)

theorem exists_chosenAt_of_first {api : Api σ} {method : Method} {path : String}
    {sel : Selection σ} (h : api.First method path sel) : ∃ i, api.ChosenAt method path i sel := by
  rcases h with ⟨before, after, hsplit, hasked, hcaptured, hbefore, hafter⟩
  refine ⟨before.length, by simp [hsplit], hasked, hcaptured, ?_⟩
  intro j b hb hmethod hmatches
  rcases Option.isSome_iff_exists.1 hmatches with ⟨captures, hcaptures⟩
  rw [← Path.size_eq_nameCount hcaptured, ← Path.size_eq_nameCount hcaptures]
  rw [hsplit] at hb
  -- the entries before the split are those at smaller positions
  rcases Nat.lt_or_ge j before.length with hj | hj
  · rw [List.getElem?_append_left hj] at hb
    have hlt := hbefore b (List.mem_of_getElem? hb) hmethod captures hcaptures
    omega
  · refine ⟨?_, fun _ => hj⟩
    rw [List.getElem?_append_right hj] at hb
    rcases List.mem_cons.1 (List.mem_of_getElem? hb) with rfl | hmem
    · rw [hcaptured] at hcaptures
      cases hcaptures
      exact Nat.le_refl _
    · exact hafter b hmem hmethod captures hcaptures

theorem ChosenAt.first {api : Api σ} {method : Method} {path : String} {i : Nat}
    {sel : Selection σ} (h : api.ChosenAt method path i sel) : api.First method path sel := by
  rcases List.getElem?_eq_some_iff.1 h.there with ⟨hi, hget⟩
  -- at a later position as few names would do, at an earlier one they would not
  have hfewest : ∀ j (hj : j < api.bindings.length), api.bindings[j].method = method →
      ∀ captures, Path.captures? api.bindings[j].path path = some captures →
        sel.captures.size ≤ captures.size ∧ (captures.size = sel.captures.size → i ≤ j) := by
    intro j hj hmethod captures hcaptures
    rw [Path.size_eq_nameCount h.captured, Path.size_eq_nameCount hcaptures]
    exact h.fewest j _ (List.getElem?_eq_getElem hj) hmethod (Path.matches_of_captures? hcaptures)
  refine ⟨api.bindings.take i, api.bindings.drop (i + 1), ?_, h.asked, h.captured, ?_, ?_⟩
  · rw [← hget, List.getElem_cons_drop, List.take_append_drop]
  · intro b hmem hmethod captures hcaptures
    rcases List.mem_take_iff_getElem.1 hmem with ⟨j, hj, rfl⟩
    have hbound := hfewest j _ hmethod captures hcaptures
    omega
  · intro b hmem hmethod captures hcaptures
    rcases List.mem_drop_iff_getElem.1 hmem with ⟨j, hj, rfl⟩
    exact (hfewest _ _ hmethod captures hcaptures).1

theorem first_iff_exists_chosenAt {api : Api σ} {method : Method} {path : String}
    {sel : Selection σ} :
    api.First method path sel ↔ ∃ i, api.ChosenAt method path i sel := by
  constructor
  · exact exists_chosenAt_of_first
  · rintro ⟨i, h⟩
    exact h.first

theorem find?_eq_none_iff_not_matches {api : Api σ} {method : Method} {path : String} :
    api.find? method path = none ↔
      ∀ b ∈ api.bindings, b.method = method → ¬ Path.Matches b.path path := by
  simp [find?_eq_none_iff, Path.Matches]

/-! ## Other endpoints -/

/-- The application with other endpoints at the methods and paths of its table. -/
def withEndpoints (api : Api σ) (endpoint : Binding σ → Endpoint σ) : Api σ :=
  { api with bindings := api.bindings.map fun b => ⟨b.method, b.path, endpoint b⟩ }

/-- The reply is given without an endpoint being asked: it would be given with any others. -/
def AnswersItself (api : Api σ) (method : Method) (path : String) (inputs : Inputs) (s : σ)
    (reply : Reply) : Prop :=
  ∀ endpoint, (api.withEndpoints endpoint).handle method path inputs s = (.ok reply, s)

variable {api : Api σ} {method : Method} {path : String} {inputs : Inputs} {s : σ}

theorem find?_withEndpoints (api : Api σ) (endpoint : Binding σ → Endpoint σ) (method : Method)
    (path : String) :
    (api.withEndpoints endpoint).find? method path =
      (api.find? method path).map (Selection.along fun b => ⟨b.method, b.path, endpoint b⟩) := by
  have hbindings : (api.withEndpoints endpoint).bindings =
      api.bindings.map fun b => ⟨b.method, b.path, endpoint b⟩ := rfl
  exact find?_along hbindings (fun _ _ => rfl) (fun _ _ => rfl) method

theorem unmatched_withEndpoints (api : Api σ) (endpoint : Binding σ → Endpoint σ)
    (path : String) : (api.withEndpoints endpoint).unmatched path = api.unmatched path := by
  have hknows : (api.withEndpoints endpoint).knows path = api.knows path := by
    simp [knows, withEndpoints, List.any_map, Function.comp_def]
  rw [unmatched, unmatched, hknows]

theorem handle_withEndpoints (api : Api σ) (endpoint : Binding σ → Endpoint σ) (method : Method)
    (path : String) (inputs : Inputs) (s : σ) :
    (api.withEndpoints endpoint).handle method path inputs s =
      match api.find? method path with
      | none => (.ok (api.unmatched path), s)
      | some sel =>
          (endpoint sel.binding).respond api.hooks (inputs.overridden sel.captures) s := by
  rw [handle, find?_withEndpoints, unmatched_withEndpoints]
  cases api.find? method path with
  | none => rfl
  | some sel => rfl

theorem answersItself_iff {reply : Reply} :
    api.AnswersItself method path inputs s reply ↔
      api.find? method path = none ∧ api.unmatched path = reply := by
  simp only [AnswersItself, handle_withEndpoints]
  cases api.find? method path with
  | none =>
      have hsome : Nonempty (Binding σ → Endpoint σ) := ⟨fun _ => .head⟩
      simp
  | some sel =>
      -- two endpoints that answer differently would both have to give the reply
      have hdiffer : ¬ ∀ endpoint : Binding σ → Endpoint σ, (endpoint sel.binding).respond
          api.hooks (inputs.overridden sel.captures) s = (.ok reply, s) := by
        intro h
        have hhead : (Except.ok Reply.ok, s) = (Except.ok reply, s) := h fun _ => .head
        have hoptions : (Except.ok (Reply.ok.withHeader "allow" ""), s) = (Except.ok reply, s) :=
          h fun _ => .options ""
        have hsame := Except.ok.inj (Prod.mk.inj (hhead.trans hoptions.symm)).1
        exact absurd hsame (by decide)
      simp [hdiffer]

/-! ## Replies to requests that no binding answers -/

def unmatchedReplies : List Reply := [.text 404 "Not Found", .text 405 "Method Not Allowed"]

theorem knows_iff : api.knows path = true ↔ ∃ b ∈ api.bindings, Path.Matches b.path path := by
  simp [knows, Path.Matches]

theorem unmatched_eq_methodNotAllowed_iff :
    api.unmatched path = .text 405 "Method Not Allowed" ↔
      ∃ b ∈ api.bindings, Path.Matches b.path path := by
  have hne : Reply.text 404 "Not Found" ≠ .text 405 "Method Not Allowed" := by decide
  rw [← knows_iff, unmatched]
  cases api.knows path with
  | true => simp
  | false => simp [hne]

theorem unmatched_eq_notFound_iff :
    api.unmatched path = .text 404 "Not Found" ↔
      ∀ b ∈ api.bindings, ¬ Path.Matches b.path path := by
  have hne : Reply.text 405 "Method Not Allowed" ≠ .text 404 "Not Found" := by decide
  have hknows : api.knows path = false ↔ ∀ b ∈ api.bindings, ¬ Path.Matches b.path path := by
    simp [knows, Path.Matches]
  rw [← hknows, unmatched]
  cases api.knows path with
  | true => simp [hne]
  | false => simp

theorem answersItself_notFound_iff :
    api.AnswersItself method path inputs s (.text 404 "Not Found") ↔
      ∀ b ∈ api.bindings, ¬ Path.Matches b.path path := by
  rw [answersItself_iff, unmatched_eq_notFound_iff, find?_eq_none_iff_not_matches]
  exact and_iff_right_of_imp fun hnone b hb _ => hnone b hb

theorem answersItself_methodNotAllowed_iff :
    api.AnswersItself method path inputs s (.text 405 "Method Not Allowed") ↔
      (∃ b ∈ api.bindings, Path.Matches b.path path) ∧
        ∀ b ∈ api.bindings, b.method = method → ¬ Path.Matches b.path path := by
  rw [answersItself_iff, unmatched_eq_methodNotAllowed_iff, find?_eq_none_iff_not_matches, and_comm]

end Api

/-! ## Replies of endpoints -/

theorem Endpoint.status_of_fixedReply? {e : Endpoint σ} {reply : Reply}
    (h : e.fixedReply? = some reply) : reply.status = 200 := by
  cases e with
  | operation o =>
      cases h
  | _ =>
      cases h
      rfl

/-- A refusal never reads like the reply to a request that no binding answers. -/
theorem Refusal.reply_not_mem (refusal : Refusal) : refusal.reply ∉ Api.unmatchedReplies := by
  intro hmem
  have hread : (refusal.reply.status, refusal.reply.body) ∈
      [(404, "Not Found"), (405, "Method Not Allowed")] :=
    List.mem_map_of_mem (f := fun r : Reply => (r.status, r.body)) hmem
  cases refusal with
  | unavailable operation =>
      -- the status is that of a path which nothing matches, but the text has another first letter
      have hbody : s!"Operation '{operation}' is not available" = "Not Found" := by
        simpa [Refusal.reply, Reply.text, Reply.withBody, Reply.withHeader] using hread
      have hfirst := congrArg (fun text => text.toList.head?) hbody
      simp [toString] at hfirst
  | missingCapability capability =>
      simp [Refusal.reply, Reply.text, Reply.withBody, Reply.withHeader] at hread
  | invalid error =>
      simp [Refusal.reply, Reply.text, Reply.withBody, Reply.withHeader,
        ValidationError.status] at hread

namespace Api

variable {api : Api σ} {method : Method} {path : String} {inputs : Inputs} {s : σ}

theorem unmatched_of_declines {reply : Reply} (h : api.Declines method path inputs s reply)
    (hreply : reply ∈ unmatchedReplies) :
    api.find? method path = none ∧ api.unmatched path = reply := by
  cases h with
  | notFound hnone =>
      have hnot : ∀ b ∈ api.bindings, ¬ Path.Matches b.path path := fun b hb => by
        simp [Path.Matches, hnone b hb]
      exact ⟨find?_eq_none_iff_not_matches.2 fun b hb _ => hnot b hb,
        unmatched_eq_notFound_iff.2 hnot⟩
  | @methodNotAllowed b hfind hb hmatches =>
      have hmatches' : Path.Matches b.path path := Option.isSome_iff_ne_none.2 hmatches
      exact ⟨hfind, unmatched_eq_methodNotAllowed_iff.2 ⟨b, hb, hmatches'⟩⟩
  | auxiliary hfind hanswers =>
      have hstatus := Endpoint.status_of_fixedReply? (Endpoint.answers_iff.1 hanswers)
      have hother : ∀ r ∈ unmatchedReplies, r.status ≠ 200 := by decide
      exact absurd hstatus (hother reply hreply)
  | @refused sel o refusal _ hfind hendpoint hrefuses htold =>
      rw [← Refusal.told_iff.1 htold] at hreply
      exact absurd hreply refusal.reply_not_mem

theorem answersItself_iff_runs_eq_nil {reply : Reply} (hreply : reply ∈ unmatchedReplies) :
    api.AnswersItself method path inputs s reply ↔
      api.runs method path inputs s = [] ∧ api.handle method path inputs s = (.ok reply, s) := by
  rw [answersItself_iff]
  constructor
  · rintro ⟨hfind, rfl⟩
    have hends : api.Ends method path inputs s (.ok (api.unmatched path), s) [] :=
      ends_of_find?_eq_none hfind
    exact ⟨hends.runs_eq, hends.1⟩
  · intro h
    exact unmatched_of_declines (declines_iff.1 h) hreply

/-- What becomes of a method and a path. A binding is chosen exactly if one of the method matches;
of those that do it has the fewest distinct names and is the first one with so few, and the
captures are those of its pattern. The application answers on its own that nothing is found
exactly if no binding matches, and that the method is not allowed exactly if some do but none of
that method. No endpoint gives one of these two replies unless the body of an operation does. -/
theorem chooses_fewest_or_unmatched (api : Api σ) (method : Method) (path : String) :
    ((∃ sel, api.find? method path = some sel) ↔
      ∃ b ∈ api.bindings, b.method = method ∧ Path.Matches b.path path) ∧
    (∀ sel, api.find? method path = some sel ↔ ∃ i, api.ChosenAt method path i sel) ∧
    ∀ inputs s,
      (api.AnswersItself method path inputs s (.text 404 "Not Found") ↔
        ∀ b ∈ api.bindings, ¬ Path.Matches b.path path) ∧
      (api.AnswersItself method path inputs s (.text 405 "Method Not Allowed") ↔
        (∃ b ∈ api.bindings, Path.Matches b.path path) ∧
          ∀ b ∈ api.bindings, b.method = method → ¬ Path.Matches b.path path) ∧
      ∀ reply ∈ unmatchedReplies, (api.AnswersItself method path inputs s reply ↔
        api.runs method path inputs s = [] ∧ api.handle method path inputs s = (.ok reply, s)) := by
  refine ⟨?_, ?_, ?_⟩
  · rw [← Option.isSome_iff_exists, Option.isSome_iff_ne_none, Ne, find?_eq_none_iff_not_matches]
    simp
  · intro sel
    rw [find?_eq_some_iff, first_iff_exists_chosenAt]
  · intro inputs s
    exact ⟨answersItself_notFound_iff, answersItself_methodNotAllowed_iff,
      fun _ => answersItself_iff_runs_eq_nil⟩

end Api
end ResourceRouting
