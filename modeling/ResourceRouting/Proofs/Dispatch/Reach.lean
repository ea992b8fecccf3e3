import ResourceRouting.Proofs.Dispatch.Matching
import ResourceRouting.Proofs.Dispatch.Selection
import ResourceRouting.Proofs.Plan

/-!
# Reach — every binding answers its own requests

Patterns may overlap: a literal and a placeholder can stand at the same place. A request to an
instance of a pattern still reaches the binding of that pattern, because every other binding that
matches the instance has more placeholders, and so captures more.

* `Api.find?_instantiate_of_build`: in a built application a binding is selected on its own
  instances, with the values that were put in.
-/

namespace ResourceRouting
namespace Api

variable {σ : Type}

/-- Values for the placeholders of a binding that cannot be taken for anything else: each is one
segment, and no literal of any pattern in the table. -/
structure Assigns (api : Api σ) (b : Binding σ) (values : Inputs) : Prop where
  names : ∀ name, name ∈ values ↔ name ∈ Path.params b.path
  nonempty : ∀ name ∈ Path.params b.path, values.text name ≠ ""
  slashFree : ∀ name ∈ Path.params b.path, '/' ∉ (values.text name).toList
  notLiteral : ∀ name ∈ Path.params b.path, ∀ other ∈ api.bindings,
    values.text name ∉ Path.literals other.path

namespace Assigns

variable {api : Api σ} {b : Binding σ} {values : Inputs}

theorem of_params_eq_nil (h : Path.params b.path = []) : api.Assigns b Inputs.empty := by
  refine ⟨?_, ?_, ?_, ?_⟩
  · intro name
    simp [h, Inputs.empty]
  all_goals
    intro name hname
    rw [h] at hname
    cases hname

theorem captures? (h : api.Assigns b values) (hnodup : (Path.params b.path).Nodup) :
    Path.captures? b.path (Path.instantiate values b.path) = some values :=
  Path.captures?_instantiate hnodup h.names fun name hname =>
    ⟨h.nonempty name hname, h.slashFree name hname⟩

/-- What else matches an instance of the binding captures as much, and more if its shape is
another one. -/
theorem size_le (h : api.Assigns b values)
    (hnodup : ∀ other ∈ api.bindings, (Path.params other.path).Nodup)
    (hb : b ∈ api.bindings) {other : Binding σ} (hother : other ∈ api.bindings)
    {captures : Inputs}
    (hmatch : Path.captures? other.path (Path.instantiate values b.path) = some captures) :
    values.size ≤ captures.size ∧
      (captures.size = values.size → Path.shape other.path = Path.shape b.path) := by
  have hself := h.captures? (hnodup b hb)
  rw [Path.size_of_captures? (hnodup b hb) hself,
    Path.size_of_captures? (hnodup other hother) hmatch]
  refine Path.rival_of_captures? h.slashFree ?_ hmatch
  intro name hname
  exact h.notLiteral name hname other hother

end Assigns

/-- Before the binding itself nothing of its shape is in the table, so whatever matches there
captures more. -/
theorem first_instantiate {api : Api σ} (hdistinct : api.bindings.Distinct)
    (hnodup : ∀ other ∈ api.bindings, (Path.params other.path).Nodup) {b : Binding σ}
    (hb : b ∈ api.bindings) {values : Inputs} (h : api.Assigns b values) :
    api.First b.method (Path.instantiate values b.path) ⟨b, values⟩ := by
  rcases List.append_of_mem hb with ⟨before, after, hsplit⟩
  refine ⟨before, after, hsplit, rfl, h.captures? (hnodup b hb), ?_, ?_⟩
  · intro other hmem hmethod captures hmatch
    have hother : other ∈ api.bindings := by
      rw [hsplit]
      exact List.mem_append_left _ hmem
    -- of two bindings of one method and one shape the table would have refused the second
    have hpairwise := hdistinct
    rw [hsplit] at hpairwise
    have hclash := (List.pairwise_append.1 hpairwise).2.2 other hmem b List.mem_cons_self
    rcases h.size_le hnodup hb hother hmatch with ⟨hle, hshape⟩
    rcases Nat.lt_or_eq_of_le hle with hlt | heq
    · exact hlt
    · exact absurd ⟨hmethod, hshape heq.symm⟩ hclash
  · -- what comes later wins only with fewer captures
    intro other hmem _ captures hmatch
    have hother : other ∈ api.bindings := by
      rw [hsplit]
      exact List.mem_append_right before (List.mem_cons_of_mem b hmem)
    exact (h.size_le hnodup hb hother hmatch).1

/-- No binding of a built application is dead: each one is selected on the instances of its
pattern, and captures exactly the values that were put in. -/
theorem find?_instantiate_of_build {name : String} {clauses : List (ApiClause σ)} {api : Api σ}
    (hbuild : build name clauses = .ok api)
    (hnodup : ∀ b ∈ api.bindings, (Path.params b.path).Nodup) :
    ∀ b ∈ api.bindings,
      (∀ values, api.Assigns b values →
        api.find? b.method (Path.instantiate values b.path) = some ⟨b, values⟩) ∧
      (Path.params b.path = [] → api.find? b.method b.path = some ⟨b, Inputs.empty⟩) := by
  intro b hb
  have hreach : ∀ values, api.Assigns b values →
      api.find? b.method (Path.instantiate values b.path) = some ⟨b, values⟩ := by
    intro values h
    exact find?_eq_some_iff.2
      (first_instantiate (distinct_bindings_of_build hbuild) hnodup hb h)
  refine ⟨hreach, ?_⟩
  intro hparams
  have hempty := hreach Inputs.empty (Assigns.of_params_eq_nil hparams)
  rw [Path.instantiate_of_params_eq_nil Inputs.empty hparams] at hempty
  exact hempty

theorem find?_instantiate_pages :
    ∃ (api : Api Unit) (page recent : Binding Unit), build "site" pages = .ok api ∧
      page.path = "/pages/:id" ∧ recent.path = "/pages/recent" ∧
        api.find? .get "/pages/42" = some ⟨page, Inputs.ofPairs [("id", "42")]⟩ ∧
          api.find? .get "/pages/recent" = some ⟨recent, Inputs.empty⟩ := by
  have hbuild : ∃ api : Api Unit, build "site" pages = .ok api :=
    isOk_iff_exists.1 (by decide +kernel)
  rcases hbuild with ⟨api, h⟩
  have hplan := bindings_of_build h
  have hnodup : ∀ b ∈ api.bindings, (Path.params b.path).Nodup := by
    rw [hplan]
    decide +kernel
  have hreach := find?_instantiate_of_build h hnodup
  have hpage : ∃ b ∈ api.bindings, b.method = .get ∧ b.path = "/pages/:id" := by
    rw [hplan]
    decide +kernel
  have hrecent : ∃ b ∈ api.bindings, b.method = .get ∧ b.path = "/pages/recent" := by
    rw [hplan]
    decide +kernel
  have hliteral : ∀ b ∈ api.bindings, "42" ∉ Path.literals b.path := by
    rw [hplan]
    decide +kernel
  rcases hpage with ⟨page, hpage, hpageMethod, hpagePath⟩
  rcases hrecent with ⟨recent, hrecent, hrecentMethod, hrecentPath⟩
  have hparams : Path.params page.path = ["id"] := by
    rw [hpagePath]
    decide +kernel
  have hassigns : api.Assigns page (Inputs.ofPairs [("id", "42")]) := by
    have hvalue : (Inputs.ofPairs [("id", "42")]).text "id" = "42" := by
      simp [Inputs.text, Inputs.ofPairs, Inputs.extended]
    refine ⟨?_, ?_, ?_, ?_⟩
    · intro name
      rw [hparams, List.mem_singleton, eq_comm]
      simp [Inputs.ofPairs, Inputs.extended, Inputs.empty]
    all_goals
      intro name hname
      rw [hparams, List.mem_singleton] at hname
      rw [hname, hvalue]
    · decide
    · decide
    · exact hliteral
  have hshown := (hreach page hpage).1 _ hassigns
  have hlisted := (hreach recent hrecent).2
  rw [hpageMethod, hpagePath] at hshown
  rw [hrecentMethod, hrecentPath] at hlisted
  exact ⟨api, page, recent, h, hpagePath, hrecentPath, hshown, hlisted (by decide +kernel)⟩

end Api
end ResourceRouting
