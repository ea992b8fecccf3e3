import ResourceRouting.Api
import Mathlib.Data.List.Basic

/-!
# Selection — which binding answers a request

Of the bindings of a method that match a path, the first with the fewest captures is selected.
`First` says so of a table without searching it: the bindings before the selected one capture
more, and those after it capture no less.

* `Api.find?_eq_some_iff`: the search selects exactly the binding that is `First`.
* `Api.find?_eq_none_iff`: nothing is selected exactly when no binding of the method matches.
* `Api.find?_along`: tables that correspond are searched alike.
-/

namespace ResourceRouting
namespace Api

variable {σ : Type}

/-! ## The first minimum of a list -/

namespace Selection

theorem fewer_of_le {a b : Selection σ} (h : a.captures.size ≤ b.captures.size) :
    a.fewer b = a :=
  if_neg (Nat.not_lt.2 h)

theorem fewer_of_lt {a b : Selection σ} (h : b.captures.size < a.captures.size) :
    a.fewer b = b :=
  if_pos h

/-- The selection is in the list, with more captures in all before and no fewer in all after. -/
def FirstIn (sels : List (Selection σ)) (sel : Selection σ) : Prop :=
  ∃ before after, sels = before ++ sel :: after ∧
    (∀ other ∈ before, sel.captures.size < other.captures.size) ∧
      ∀ other ∈ after, sel.captures.size ≤ other.captures.size

theorem firstIn_singleton (sel : Selection σ) : FirstIn [sel] sel := by
  refine ⟨[], [], rfl, ?_, ?_⟩
  · intro other hmem
    cases hmem
  · intro other hmem
    cases hmem

/-- A selection at the end takes over only if it has fewer captures than the first minimum. -/
theorem FirstIn.concat {sels : List (Selection σ)} {sel : Selection σ} (h : FirstIn sels sel)
    (next : Selection σ) : FirstIn (sels ++ [next]) (sel.fewer next) := by
  rcases h with ⟨before, after, rfl, hbefore, hafter⟩
  by_cases hlt : next.captures.size < sel.captures.size
  · rw [fewer_of_lt hlt]
    refine ⟨before ++ sel :: after, [], rfl, ?_, ?_⟩
    · intro other hmem
      rcases List.mem_append.1 hmem with hmem | hmem
      · exact Nat.lt_trans hlt (hbefore other hmem)
      · rcases List.mem_cons.1 hmem with rfl | hmem
        · exact hlt
        · exact Nat.lt_of_lt_of_le hlt (hafter other hmem)
    · intro other hmem
      cases hmem
  · have hle : sel.captures.size ≤ next.captures.size := Nat.not_lt.1 hlt
    rw [fewer_of_le hle]
    refine ⟨before, after ++ [next], by simp, hbefore, ?_⟩
    intro other hmem
    rcases List.mem_append.1 hmem with hmem | hmem
    · exact hafter other hmem
    · rw [List.mem_singleton.1 hmem]
      exact hle

theorem firstIn_foldl (rest : List (Selection σ)) :
    ∀ {seen : List (Selection σ)} {sel : Selection σ}, FirstIn seen sel →
      FirstIn (seen ++ rest) (rest.foldl fewer sel) := by
  induction rest with
  | nil =>
      intro seen sel h
      simpa using h
  | cons next rest ih =>
      intro seen sel h
      have hnext := ih (h.concat next)
      rw [List.append_assoc] at hnext
      exact hnext

/-- A list has one first minimum at most. -/
theorem FirstIn.unique {sels : List (Selection σ)} {a b : Selection σ} (ha : FirstIn sels a)
    (hb : FirstIn sels b) : a = b := by
  rcases ha with ⟨before, after, rfl, hbefore, hafter⟩
  rcases hb with ⟨before', after', hsplit, hbefore', hafter'⟩
  -- unless the two splits agree, one selection stands before the other
  rcases List.append_eq_append_iff.1 hsplit with ⟨middle, rfl, hmiddle⟩ | ⟨middle, rfl, hmiddle⟩
  · cases middle with
    | nil =>
        exact (List.cons.inj hmiddle).1
    | cons first middle =>
        rcases List.cons.inj hmiddle with ⟨rfl, rfl⟩
        have hlt := hbefore' a (by simp)
        have hle := hafter b (by simp)
        omega
  · cases middle with
    | nil =>
        exact (List.cons.inj hmiddle).1.symm
    | cons first middle =>
        rcases List.cons.inj hmiddle with ⟨rfl, rfl⟩
        have hlt := hbefore b (by simp)
        have hle := hafter' a (by simp)
        omega

theorem fewest?_eq_none_iff {sels : List (Selection σ)} : fewest? sels = none ↔ sels = [] := by
  cases sels with
  | nil =>
      simp [fewest?]
  | cons sel rest =>
      simp [fewest?]

theorem fewest?_eq_some_iff {sels : List (Selection σ)} {sel : Selection σ} :
    fewest? sels = some sel ↔ FirstIn sels sel := by
  cases sels with
  | nil =>
      simp [fewest?, FirstIn]
  | cons first rest =>
      -- the fold keeps the first minimum of what it has seen
      have hfold : FirstIn (first :: rest) (rest.foldl fewer first) :=
        firstIn_foldl rest (firstIn_singleton first)
      constructor
      · intro h
        rw [← Option.some.inj h]
        exact hfold
      · intro h
        exact congrArg some (hfold.unique h)

end Selection

/-! ## The first minimum of a table -/

/-- What a binding contributes to the search. -/
def selection? (method : Method) (path : String) (b : Binding σ) : Option (Selection σ) :=
  if b.method == method then (Path.captures? b.path path).map fun captures => ⟨b, captures⟩
  else none

theorem selection?_eq_some_iff {method : Method} {path : String} {b : Binding σ}
    {sel : Selection σ} :
    selection? method path b = some sel ↔
      sel.binding = b ∧ b.method = method ∧ Path.captures? b.path path = some sel.captures := by
  rcases sel with ⟨binding, captures⟩
  by_cases hmethod : b.method = method
  · cases hcaptures : Path.captures? b.path path with
    | none => simp [selection?, hmethod, hcaptures]
    | some found => simp [selection?, hmethod, hcaptures, eq_comm]
  · simp [selection?, hmethod]

theorem candidates_eq_filterMap (api : Api σ) (method : Method) (path : String) :
    api.candidates method path = api.bindings.filterMap (selection? method path) :=
  List.filterMap_filter

/-- The selected binding is in the table, matches, and of those of its method that match all
before it capture more names and all after it no fewer. -/
def First (api : Api σ) (method : Method) (path : String) (sel : Selection σ) : Prop :=
  ∃ before after, api.bindings = before ++ sel.binding :: after ∧
    sel.binding.method = method ∧
      Path.captures? sel.binding.path path = some sel.captures ∧
        (∀ b ∈ before, b.method = method → ∀ captures, Path.captures? b.path path = some captures →
          sel.captures.size < captures.size) ∧
        ∀ b ∈ after, b.method = method → ∀ captures, Path.captures? b.path path = some captures →
          sel.captures.size ≤ captures.size

theorem first_of_firstIn_candidates {api : Api σ} {method : Method} {path : String}
    {sel : Selection σ} :
    Selection.FirstIn (api.candidates method path) sel → api.First method path sel := by
  intro h
  rw [candidates_eq_filterMap] at h
  rcases h with ⟨before, after, hsplit, hbefore, hafter⟩
  rcases List.filterMap_eq_append_iff.1 hsplit with ⟨t, rest, ht, hbefore', hrest⟩
  -- between the entries before and the selected one there may be others that do not match
  rcases List.filterMap_eq_cons_iff.1 hrest with
    ⟨skipped, b, after', hb, hskipped, hsel, hafter'⟩
  rcases selection?_eq_some_iff.1 hsel with ⟨rfl, hmethod, hcaptures⟩
  refine ⟨t ++ skipped, after', by rw [ht, hb, List.append_assoc], hmethod, hcaptures, ?_, ?_⟩
  · intro other hmem hother captures hmatch
    have hselected : selection? method path other = some ⟨other, captures⟩ :=
      selection?_eq_some_iff.2 ⟨rfl, hother, hmatch⟩
    rcases List.mem_append.1 hmem with hmem | hmem
    · refine hbefore ⟨other, captures⟩ ?_
      rw [← hbefore']
      exact List.mem_filterMap.2 ⟨other, hmem, hselected⟩
    · rw [hskipped other hmem] at hselected
      cases hselected
  · intro other hmem hother captures hmatch
    refine hafter ⟨other, captures⟩ ?_
    rw [← hafter']
    exact List.mem_filterMap.2 ⟨other, hmem, selection?_eq_some_iff.2 ⟨rfl, hother, hmatch⟩⟩

theorem firstIn_candidates_of_first {api : Api σ} {method : Method} {path : String}
    {sel : Selection σ} :
    api.First method path sel → Selection.FirstIn (api.candidates method path) sel := by
  intro h
  rcases h with ⟨before, after, hsplit, hmethod, hcaptures, hbefore, hafter⟩
  have hsel : selection? method path sel.binding = some sel :=
    selection?_eq_some_iff.2 ⟨rfl, hmethod, hcaptures⟩
  rw [candidates_eq_filterMap]
  refine ⟨before.filterMap (selection? method path), after.filterMap (selection? method path),
    by simp [hsplit, hsel], ?_, ?_⟩
  · intro other hmem
    rcases List.mem_filterMap.1 hmem with ⟨b, hb, hother⟩
    rcases selection?_eq_some_iff.1 hother with ⟨rfl, hmethod', hmatch⟩
    exact hbefore other.binding hb hmethod' other.captures hmatch
  · intro other hmem
    rcases List.mem_filterMap.1 hmem with ⟨b, hb, hother⟩
    rcases selection?_eq_some_iff.1 hother with ⟨rfl, hmethod', hmatch⟩
    exact hafter other.binding hb hmethod' other.captures hmatch

theorem find?_eq_some_iff {api : Api σ} {method : Method} {path : String} {sel : Selection σ} :
    api.find? method path = some sel ↔ api.First method path sel := by
  rw [find?, Selection.fewest?_eq_some_iff]
  exact ⟨first_of_firstIn_candidates, firstIn_candidates_of_first⟩

/-- What is selected is in the table, for that method, and matches. -/
theorem mem_of_find? {api : Api σ} {method : Method} {path : String} {sel : Selection σ}
    (h : api.find? method path = some sel) :
    sel.binding ∈ api.bindings ∧ sel.binding.method = method ∧
      Path.captures? sel.binding.path path = some sel.captures := by
  rcases find?_eq_some_iff.1 h with ⟨before, after, hsplit, hmethod, hcaptures, -⟩
  refine ⟨?_, hmethod, hcaptures⟩
  rw [hsplit]
  exact List.mem_append_right before List.mem_cons_self

theorem find?_eq_none_iff {api : Api σ} {method : Method} {path : String} :
    api.find? method path = none ↔
      ∀ b ∈ api.bindings, b.method = method → Path.captures? b.path path = none := by
  rw [find?, Selection.fewest?_eq_none_iff, candidates_eq_filterMap, List.filterMap_eq_nil_iff]
  constructor
  · intro h b hb hmethod
    have hnone := h b hb
    simpa [selection?, hmethod] using hnone
  · intro h b hb
    by_cases hmethod : b.method = method
    · simp [selection?, hmethod, h b hb hmethod]
    · simp [selection?, hmethod]

/-! ## Tables that correspond -/

section Correspondence

variable {τ : Type} {f : Binding σ → Binding τ}

/-- The selection of the binding that corresponds to the selected one. -/
def Selection.along (f : Binding σ → Binding τ) (sel : Selection σ) : Selection τ :=
  ⟨f sel.binding, sel.captures⟩

theorem Selection.fewer_along (a b : Selection σ) :
    (a.along f).fewer (b.along f) = (a.fewer b).along f := by
  by_cases hfewer : b.captures.size < a.captures.size
  · simp [fewer, along, hfewer]
  · simp [fewer, along, hfewer]

theorem Selection.fewest?_along (sels : List (Selection σ)) :
    fewest? (sels.map (Selection.along f)) = (fewest? sels).map (Selection.along f) := by
  cases sels with
  | nil =>
      rfl
  | cons sel rest =>
      have hfold : ∀ first : Selection σ,
          (rest.map (Selection.along f)).foldl fewer (first.along f) =
            (rest.foldl fewer first).along f := by
        induction rest with
        | nil =>
            intro first
            rfl
        | cons next rest ih =>
            intro first
            simp only [List.map_cons, List.foldl_cons, fewer_along]
            exact ih (first.fewer next)
      simp [fewest?, hfold sel]

/-- Where corresponding bindings have one method and capture the same of two paths, the searches
for these paths select corresponding bindings. -/
theorem find?_along {api : Api σ} {image : Api τ} {path path' : String}
    (hbindings : image.bindings = api.bindings.map f)
    (hmethod : ∀ b ∈ api.bindings, (f b).method = b.method)
    (hcaptures : ∀ b ∈ api.bindings, Path.captures? (f b).path path' = Path.captures? b.path path)
    (method : Method) :
    image.find? method path' = (api.find? method path).map (Selection.along f) := by
  have hselection : ∀ b ∈ api.bindings,
      selection? method path' (f b) = (selection? method path b).map (Selection.along f) := by
    intro b hb
    rw [selection?, selection?, hmethod b hb, hcaptures b hb]
    by_cases hasked : b.method = method
    · simp [hasked, Selection.along, Function.comp_def]
    · simp [hasked]
  have hcandidates : image.candidates method path' =
      (api.candidates method path).map (Selection.along f) := by
    rw [candidates_eq_filterMap, candidates_eq_filterMap, hbindings, List.filterMap_map,
      List.map_filterMap]
    exact List.filterMap_congr hselection
  rw [find?, find?, hcandidates, Selection.fewest?_along]

end Correspondence

end Api
end ResourceRouting
