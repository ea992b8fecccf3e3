import Mathlib.Data.List.Forall2
import Mathlib.Data.List.Induction
import Mathlib.Data.List.Nodup
import Mathlib.Tactic.Tauto

/-!
# Lists — first mentions, first entries and related entries

Where names repeat, the list of their first mentions stands for what was mentioned at all. A search
finds the first entry with a property, and where two lists go together entry by entry, what holds
of the entries of one passes to the other.

* `eraseDups_concat`, `nodup_eraseDups`: first mentions, as one more name is mentioned.
* `find?_eq_some_iff_isFirst`, `isFirst_map_iff`: what a search finds, before and after a map.
* `isFirst_flatMap_iff`: what it finds in several lists, one after the other.
* `find?_name_eq_some_iff`: what a search by a name finds where no two entries share one.
* `forall_mem_of_forall₂`, `forall_mem_iff_of_forall₂`: what related entries pass on.
-/

namespace ResourceRouting

/-! ## First mentions -/

/-- To mention a name again adds nothing to what is mentioned. -/
theorem mem_concat_iff_of_mem {α : Type} {names : List α} {again name : α} (h : again ∈ names) :
    name ∈ names ++ [again] ↔ name ∈ names := by
  rw [List.mem_append, List.mem_singleton, or_iff_left_of_imp]
  rintro rfl
  exact h

/-- A name joins a list of first mentions unless it was mentioned before. -/
theorem eraseDups_concat {α : Type} [DecidableEq α] (names : List α) (name : α) :
    (names ++ [name]).eraseDups =
      if name ∈ names then names.eraseDups else names.eraseDups ++ [name] := by
  by_cases hmem : name ∈ names
  · simp [List.eraseDups_append, List.removeAll, hmem]
  · simp [List.eraseDups_append, List.removeAll, List.eraseDups_cons, hmem]

theorem nodup_eraseDups {α : Type} [DecidableEq α] (names : List α) : names.eraseDups.Nodup := by
  -- a name is put at the end only if it is not there
  induction names using List.reverseRecOn with
  | nil =>
      simp
  | append_singleton names name ih =>
      rw [eraseDups_concat]
      split
      · exact ih
      · rename_i hnew
        have hfresh : name ∉ names.eraseDups := fun hmem => hnew (List.mem_eraseDups.1 hmem)
        rw [← List.concat_eq_append]
        exact (List.nodup_concat _ _).2 ⟨hfresh, ih⟩

/-! ## First entries -/

section FirstEntries

variable {α β : Type} {l : List α}

/-- The entry has the property, and none before it in the list has. -/
def IsFirst (P : α → Prop) (l : List α) (a : α) : Prop :=
  ∃ before after, l = before ++ a :: after ∧ P a ∧ ∀ b ∈ before, ¬ P b

theorem IsFirst.mem {P : α → Prop} {a : α} (h : IsFirst P l a) : a ∈ l := by
  rcases h with ⟨before, after, rfl, -⟩
  exact List.mem_append_right before List.mem_cons_self

theorem IsFirst.holds {P : α → Prop} {a : α} (h : IsFirst P l a) : P a := by
  rcases h with ⟨_, _, -, ha, -⟩
  exact ha

theorem isFirst_congr {P Q : α → Prop} (h : ∀ a, P a ↔ Q a) {a : α} :
    IsFirst P l a ↔ IsFirst Q l a := by
  rw [funext fun a => propext (h a)]

theorem isFirst_cons_iff {P : α → Prop} {a b : α} :
    IsFirst P (a :: l) b ↔ (P a ∧ a = b) ∨ (¬ P a ∧ IsFirst P l b) := by
  constructor
  · rintro ⟨before, after, hsplit, hb, hbefore⟩
    rcases List.cons_eq_append_iff.1 hsplit with ⟨rfl, heq⟩ | ⟨front, rfl, rfl⟩
    · cases heq
      exact Or.inl ⟨hb, rfl⟩
    · rw [List.forall_mem_cons] at hbefore
      exact Or.inr ⟨hbefore.1, front, after, rfl, hb, hbefore.2⟩
  · rintro (⟨ha, rfl⟩ | ⟨ha, before, after, rfl, hb, hbefore⟩)
    · exact ⟨[], l, rfl, ha, by simp⟩
    · exact ⟨a :: before, after, rfl, hb, List.forall_mem_cons.2 ⟨ha, hbefore⟩⟩

theorem not_isFirst_nil {P : α → Prop} {a : α} : ¬ IsFirst P [] a := by
  intro h
  cases h.mem

theorem exists_isFirst {P : α → Prop} (h : ∃ a ∈ l, P a) : ∃ a, IsFirst P l a := by
  induction l with
  | nil =>
      rcases h with ⟨a, ha, -⟩
      cases ha
  | cons a rest ih =>
      by_cases ha : P a
      · exact ⟨a, isFirst_cons_iff.2 (Or.inl ⟨ha, rfl⟩)⟩
      · rw [List.exists_mem_cons_iff, or_iff_right ha] at h
        rcases ih h with ⟨b, hb⟩
        exact ⟨b, isFirst_cons_iff.2 (Or.inr ⟨ha, hb⟩)⟩

theorem isFirst_append_iff {P : α → Prop} {l' : List α} {b : α} :
    IsFirst P (l ++ l') b ↔ IsFirst P l b ∨ ((∀ a ∈ l, ¬ P a) ∧ IsFirst P l' b) := by
  induction l with
  | nil =>
      simp [not_isFirst_nil]
  | cons a rest ih =>
      rw [List.cons_append, isFirst_cons_iff, isFirst_cons_iff, ih, List.forall_mem_cons]
      tauto

/-- Among the entries of several lists, the first stands in the first list that has one, and is the
first there. -/
theorem isFirst_flatMap_iff {f : α → List β} {P : β → Prop} {b : β} :
    IsFirst P (l.flatMap f) b ↔
      ∃ a, IsFirst (fun a => ∃ c ∈ f a, P c) l a ∧ IsFirst P (f a) b := by
  induction l with
  | nil =>
      simp [not_isFirst_nil]
  | cons a rest ih =>
      have hnone : (∀ c ∈ f a, ¬ P c) ↔ ¬ ∃ c ∈ f a, P c := by
        simp only [not_exists, not_and]
      simp only [List.flatMap_cons, isFirst_append_iff, isFirst_cons_iff, ih, hnone]
      constructor
      · rintro (hb | ⟨hnot, first, hfirst, hb⟩)
        · exact ⟨a, Or.inl ⟨⟨b, hb.mem, hb.holds⟩, rfl⟩, hb⟩
        · exact ⟨first, Or.inr ⟨hnot, hfirst⟩, hb⟩
      · rintro ⟨first, ⟨-, rfl⟩ | ⟨hnot, hfirst⟩, hb⟩
        · exact Or.inl hb
        · exact Or.inr ⟨hnot, first, hfirst, hb⟩

theorem isFirst_filter_iff {P : α → Prop} {p : α → Bool} {b : α} :
    IsFirst P (l.filter p) b ↔ IsFirst (fun a => p a = true ∧ P a) l b := by
  induction l with
  | nil =>
      simp [not_isFirst_nil]
  | cons a rest ih =>
      rw [List.filter_cons, isFirst_cons_iff, ← ih]
      split
      · rename_i hp
        simp only [isFirst_cons_iff, hp, true_and]
      · rename_i hp
        simp [hp]

/-- There is one first entry. -/
theorem IsFirst.unique {P : α → Prop} {a b : α} (ha : IsFirst P l a) (hb : IsFirst P l b) :
    a = b := by
  induction l with
  | nil =>
      exact absurd ha not_isFirst_nil
  | cons c rest ih =>
      rw [isFirst_cons_iff] at ha hb
      rcases ha with ⟨hc, rfl⟩ | ⟨hc, ha⟩
      · rcases hb with ⟨-, hb⟩ | ⟨hnot, -⟩
        · exact hb
        · exact absurd hc hnot
      · rcases hb with ⟨hyes, -⟩ | ⟨-, hb⟩
        · exact absurd hyes hc
        · exact ih ha hb

theorem find?_eq_some_iff_isFirst {p : α → Bool} {a : α} :
    l.find? p = some a ↔ IsFirst (fun b => p b = true) l a := by
  rw [List.find?_eq_some_iff_append, IsFirst]
  simp only [Bool.not_eq_true, Bool.not_eq_eq_eq_not, Bool.not_true]
  tauto

theorem findSome?_eq_some_iff_isFirst {f : α → Option β} {b : β} :
    l.findSome? f = some b ↔ ∃ a, IsFirst (fun a => (f a).isSome = true) l a ∧ f a = some b := by
  rw [List.findSome?_eq_some_iff]
  constructor
  · rintro ⟨before, a, after, hsplit, hb, hbefore⟩
    exact ⟨a, ⟨before, after, hsplit, by simp [hb], fun c hc => by simp [hbefore c hc]⟩, hb⟩
  · rintro ⟨a, ⟨before, after, hsplit, -, hbefore⟩, hb⟩
    exact ⟨before, a, after, hsplit, hb, fun c hc => by simpa using hbefore c hc⟩

/-- Where names are different, a search for a name finds the entry that has it. -/
theorem find?_name_eq_some_iff {name : α → String} (h : (l.map name).Nodup) {n : String} {a : α} :
    (l.find? fun b => name b == n) = some a ↔ a ∈ l ∧ name a = n := by
  constructor
  · intro hfind
    exact ⟨List.mem_of_find?_eq_some hfind, by simpa using List.find?_some hfind⟩
  · rintro ⟨ha, rfl⟩
    rcases hfind : l.find? fun b => name b == name a with _ | b
    · simpa using List.find?_eq_none.1 hfind a ha
    · have hname : name b = name a := by simpa using List.find?_some hfind
      rw [List.inj_on_of_nodup_map h (List.mem_of_find?_eq_some hfind) ha hname]

theorem isFirst_map_iff {f : α → β} {P : β → Prop} {b : β} :
    IsFirst P (l.map f) b ↔ ∃ a, IsFirst (fun c => P (f c)) l a ∧ f a = b := by
  constructor
  · rintro ⟨before, after, hsplit, hb, hbefore⟩
    rcases List.map_eq_append_iff.1 hsplit with ⟨front, rest, rfl, rfl, hrest⟩
    rcases List.map_eq_cons_iff.1 hrest with ⟨a, back, rfl, rfl, rfl⟩
    exact ⟨a, ⟨front, back, rfl, hb, fun c hc => hbefore _ (List.mem_map_of_mem hc)⟩, rfl⟩
  · rintro ⟨a, ⟨before, after, rfl, ha, hbefore⟩, rfl⟩
    refine ⟨before.map f, after.map f, by simp, ha, ?_⟩
    intro b hb
    rcases List.mem_map.1 hb with ⟨c, hc, rfl⟩
    exact hbefore c hc

end FirstEntries

/-! ## Entries one after the other -/

/-- What every step of a fold keeps up holds at its end. -/
theorem foldlM_keeps {α β : Type} {step : β → α → Option β} {P : β → Prop} {Q : α → Prop}
    (hstep : ∀ b a b', P b → Q a → step b a = some b' → P b') {l : List α} (hl : ∀ a ∈ l, Q a)
    {b last : β} (hb : P b) (h : l.foldlM step b = some last) : P last := by
  induction l generalizing b with
  | nil =>
      cases h
      exact hb
  | cons a rest ih =>
      rw [List.forall_mem_cons] at hl
      rw [List.foldlM_cons] at h
      rcases Option.bind_eq_some_iff.1 h with ⟨next, hnext, hrest⟩
      exact ih hl.2 (hstep b a next hb hl.1 hnext) hrest

/-! ## Related entries -/

/-- What related entries take over from each other holds of all entries of the second list. -/
theorem forall_mem_of_forall₂ {α β : Type} {R : α → β → Prop} {P : α → Prop} {Q : β → Prop}
    (hR : ∀ a b, R a b → P a → Q b) {l : List α} {l' : List β} (h : List.Forall₂ R l l')
    (hl : ∀ a ∈ l, P a) : ∀ b ∈ l', Q b := by
  induction h with
  | nil =>
      simp
  | cons hab _ ih =>
      rw [List.forall_mem_cons] at hl ⊢
      exact ⟨hR _ _ hab hl.1, ih hl.2⟩

/-- What holds of related entries alike holds of all entries of both lists or of neither. -/
theorem forall_mem_iff_of_forall₂ {α β : Type} {R : α → β → Prop} {P : α → Prop} {Q : β → Prop}
    (hR : ∀ a b, R a b → (P a ↔ Q b)) {l : List α} {l' : List β} (h : List.Forall₂ R l l') :
    (∀ a ∈ l, P a) ↔ ∀ b ∈ l', Q b :=
  ⟨forall_mem_of_forall₂ (fun a b hab => (hR a b hab).1) h,
    forall_mem_of_forall₂ (fun b a hab => (hR a b hab).2) h.flip⟩

end ResourceRouting
