import Std.Data.ExtTreeMap

/-!
# Inputs — the named values of one request

A finite map from names to texts, its names in ascending order. Values that are added later win.
-/

namespace ResourceRouting

abbrev Inputs := Std.ExtTreeMap String String

namespace Inputs

def empty : Inputs := ∅

/-- The inputs with the given pairs put in one after the other. -/
def extended (inputs : Inputs) (pairs : List (String × String)) : Inputs :=
  pairs.foldl (fun acc p => acc.insert p.1 p.2) inputs

def ofPairs (pairs : List (String × String)) : Inputs := extended empty pairs

/-- The inputs with the values of `later` in place of those of the same names. -/
def overridden (inputs later : Inputs) : Inputs := extended inputs later.toList

/-- The value of a name, or the empty text. -/
def text (inputs : Inputs) (name : String) : String := (inputs[name]?).getD ""

/-- The value that a list of pairs gives to a name: that of the last pair with it. -/
def lastValue? (pairs : List (String × String)) (name : String) : Option String :=
  pairs.reverse.lookup name

theorem getElem?_insert_of_ne {inputs : Inputs} {name other value : String} (h : name ≠ other) :
    (inputs.insert name value)[other]? = inputs[other]? := by
  simp [Std.ExtTreeMap.getElem?_insert, h]

theorem lookup_singleton (name : String) (p : String × String) :
    List.lookup name [p] = if name = p.1 then some p.2 else none := by
  obtain ⟨other, value⟩ := p
  by_cases h : name = other
  · subst h
    simp [List.lookup_cons_self]
  · have hb : (name == other) = false := by simpa using h
    change (match name == other with | true => some value | false => none) = _
    simp [hb, h]

theorem lastValue?_cons (p : String × String) (pairs : List (String × String)) (name : String) :
    lastValue? (p :: pairs) name =
      (lastValue? pairs name).or (if name = p.1 then some p.2 else none) := by
  simp only [lastValue?, List.reverse_cons, List.lookup_append, lookup_singleton]

theorem lastValue?_eq_none_iff {pairs : List (String × String)} {name : String} :
    lastValue? pairs name = none ↔ name ∉ pairs.map Prod.fst := by
  induction pairs with
  | nil =>
      simp [lastValue?]
  | cons p rest ih =>
      by_cases hname : name = p.1
      · simp [lastValue?_cons, hname]
      · simp [lastValue?_cons, hname, ih]

/-- A later pair of a name hides the earlier ones, and the earlier ones hide the inputs. -/
theorem getElem?_extended (inputs : Inputs) (pairs : List (String × String)) (name : String) :
    (extended inputs pairs)[name]? = (lastValue? pairs name).or inputs[name]? := by
  induction pairs generalizing inputs with
  | nil => simp [extended, lastValue?]
  | cons p rest ih =>
      have h : extended inputs (p :: rest) = extended (inputs.insert p.1 p.2) rest := rfl
      rw [h, ih, lastValue?_cons, Option.or_assoc]
      congr 1
      by_cases hn : name = p.1
      · simp [hn]
      · simp [hn, getElem?_insert_of_ne (Ne.symm hn)]

theorem getElem?_ofPairs (pairs : List (String × String)) (name : String) :
    (ofPairs pairs)[name]? = lastValue? pairs name := by
  have hnone : empty[name]? = none := Std.ExtTreeMap.getElem?_empty
  rw [ofPairs, getElem?_extended, hnone, Option.or_none]

theorem mem_ofPairs {pairs : List (String × String)} {name : String} :
    name ∈ ofPairs pairs ↔ name ∈ pairs.map Prod.fst := by
  rw [Std.ExtTreeMap.mem_iff_isSome_getElem?, getElem?_ofPairs, Option.isSome_iff_ne_none, Ne,
    lastValue?_eq_none_iff, Decidable.not_not]

/-! ## Pairs of distinct names -/

theorem lookup_eq_some_iff_mem {pairs : List (String × String)} {name value : String}
    (h : (pairs.map Prod.fst).Nodup) : pairs.lookup name = some value ↔ (name, value) ∈ pairs := by
  induction pairs with
  | nil =>
      simp
  | cons p rest ih =>
      obtain ⟨other, current⟩ := p
      simp only [List.map_cons, List.nodup_cons] at h
      by_cases hname : name = other
      · subst hname
        have hrest : (name, value) ∉ rest := by
          intro hmem
          exact h.1 (List.mem_map_of_mem (f := Prod.fst) hmem)
        simp [hrest, eq_comm]
      · have hb : (name == other) = false := by simpa using hname
        simp [List.lookup_cons, hb, hname, ih h.2]

theorem lastValue?_eq_some_iff_mem {pairs : List (String × String)} {name value : String}
    (h : (pairs.map Prod.fst).Nodup) :
    lastValue? pairs name = some value ↔ (name, value) ∈ pairs := by
  have hreverse : (pairs.reverse.map Prod.fst).Nodup := by
    rw [List.map_reverse]
    exact List.pairwise_reverse.2 (h.imp Ne.symm)
  rw [lastValue?, lookup_eq_some_iff_mem hreverse, List.mem_reverse]

theorem getElem?_overridden (inputs later : Inputs) (name : String) :
    (overridden inputs later)[name]? = later[name]?.or inputs[name]? := by
  have hnodup : (later.toList.map Prod.fst).Nodup := by
    rw [Std.ExtTreeMap.map_fst_toList_eq_keys]
    exact Std.ExtTreeMap.nodup_keys
  have hlast : lastValue? later.toList name = later[name]? := by
    apply Option.ext
    intro value
    rw [lastValue?_eq_some_iff_mem hnodup, Std.ExtTreeMap.mem_toList_iff_getElem?_eq_some]
  rw [overridden, getElem?_extended, hlast]

/-- What the inputs say about overridden names has no effect. -/
theorem overridden_congr {inputs inputs' later : Inputs}
    (h : ∀ name, name ∉ later → inputs'[name]? = inputs[name]?) :
    overridden inputs' later = overridden inputs later := by
  apply Std.ExtTreeMap.ext_getElem?
  intro name
  rw [getElem?_overridden, getElem?_overridden]
  by_cases hname : name ∈ later
  · rw [Std.ExtTreeMap.getElem?_eq_some_getElem hname, Option.some_or, Option.some_or]
  · rw [h name hname]

/-- Inputs are put together again from their names and values. -/
theorem ofPairs_graph {names : List String} {values : Inputs} (hnodup : names.Nodup)
    (hnames : ∀ name, name ∈ values ↔ name ∈ names) :
    ofPairs (names.map fun name => (name, values.text name)) = values := by
  have hkeys : ((names.map fun name => (name, values.text name)).map Prod.fst).Nodup := by
    simpa [Function.comp_def] using hnodup
  apply Std.ExtTreeMap.ext_getElem?
  intro name
  rw [getElem?_ofPairs]
  by_cases hname : name ∈ names
  · have hvalue : values[name]? = some (values.text name) := by
      rw [text, Std.ExtTreeMap.getElem?_eq_some_getElem ((hnames name).2 hname)]
      rfl
    rw [hvalue, lastValue?_eq_some_iff_mem hkeys]
    exact List.mem_map_of_mem (f := fun name => (name, values.text name)) hname
  · have hvalue : values[name]? = none :=
      Std.ExtTreeMap.getElem?_eq_none (mt (hnames name).1 hname)
    rw [hvalue, Option.eq_none_iff_forall_not_mem]
    intro value hmem
    obtain ⟨other, hother, heq⟩ := List.mem_map.1 ((lastValue?_eq_some_iff_mem hkeys).1 hmem)
    cases heq
    exact hname hother

end Inputs
end ResourceRouting
