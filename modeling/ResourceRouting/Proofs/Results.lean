import Mathlib.Data.List.Basic

/-!
# Results — computations that may fail

What a computation in `Except` answers, told by the steps that it is made of.

* `mapM_eq_ok_iff`: a list is worked through exactly if every entry is.
* `mapM_eq_error_iff`: otherwise the first entry that fails decides the error.
* `foldlM_eq_map_mapM`: a fold in which only entries can fail.
-/

namespace ResourceRouting

variable {ε α β : Type}

theorem bind_eq_ok_iff {x : Except ε α} {f : α → Except ε β} {b : β} :
    x >>= f = .ok b ↔ ∃ a, x = .ok a ∧ f a = .ok b := by
  cases x with
  | error e =>
      simp [bind, Except.bind]
  | ok a =>
      simp [bind, Except.bind]

theorem bind_eq_error_iff {x : Except ε α} {f : α → Except ε β} {e : ε} :
    x >>= f = .error e ↔ x = .error e ∨ ∃ a, x = .ok a ∧ f a = .error e := by
  cases x with
  | error e' =>
      simp [bind, Except.bind]
  | ok a =>
      simp [bind, Except.bind]

@[simp]
theorem throw_bind_ne_ok {e : ε} {f : α → Except ε β} {b : β} :
    (throw e : Except ε α) >>= f ≠ .ok b := by
  intro h
  cases h

@[simp]
theorem map_throw_ne_ok {e : ε} {f : α → β} {b : β} :
    f <$> (throw e : Except ε α) ≠ .ok b := by
  intro h
  cases h

theorem isOk_iff_exists {x : Except ε α} : x.isOk = true ↔ ∃ a, x = .ok a := by
  cases x with
  | error e =>
      simp [Except.isOk, Except.toBool]
  | ok a =>
      simp [Except.isOk, Except.toBool]

/-- The error of a computation that fails. -/
def failure? : Except ε α → Option ε
  | .error e => some e
  | .ok _ => none

theorem failure?_eq_some_iff {x : Except ε α} {e : ε} : failure? x = some e ↔ x = .error e := by
  cases x <;> simp [failure?]

/-- Answers a value if nothing is found to be wrong. -/
def checked (fault? : Option ε) (a : α) : Except ε α :=
  match fault? with
  | some fault => .error fault
  | none => .ok a

/-- Of two checks one after the other the first that finds a fault decides. -/
theorem checked_bind {fault? next? : Option ε} {a : α} {b : β} {f : α → Except ε β}
    (h : f a = checked next? b) : checked fault? a >>= f = checked (fault?.or next?) b := by
  cases fault? with
  | some fault => rfl
  | none => exact h

theorem checked_bind_pure (fault? : Option ε) (a : α) (f : α → β) :
    (checked fault? a >>= fun x => pure (f x)) = checked fault? (f a) := by
  cases fault? <;> rfl

theorem mapM_eq_checked {f : α → Except ε β} {fault? : α → Option ε} {g : α → β}
    (h : ∀ a, f a = checked (fault? a) (g a)) (l : List α) :
    l.mapM f = checked (l.findSome? fault?) (l.map g) := by
  induction l with
  | nil =>
      rfl
  | cons a rest ih =>
      have hfirst : (a :: rest).findSome? fault? = (fault? a).or (rest.findSome? fault?) := by
        rw [List.findSome?_cons]
        cases fault? a <;> rfl
      rw [List.mapM_cons, h a, hfirst, List.map_cons]
      refine checked_bind ?_
      rw [ih]
      exact checked_bind_pure _ _ _

/-- A list is worked through entry by entry, so it succeeds exactly when every entry does. -/
theorem mapM_eq_ok_iff {f : α → Except ε β} {g : α → β} {P : α → Prop}
    (h : ∀ a b, f a = .ok b ↔ P a ∧ b = g a) (l : List α) (bs : List β) :
    l.mapM f = .ok bs ↔ (∀ a ∈ l, P a) ∧ bs = l.map g := by
  induction l generalizing bs with
  | nil =>
      simp [pure, Except.pure, eq_comm]
  | cons a rest ih =>
      simp only [List.mapM_cons, bind_eq_ok_iff, h, ih, List.forall_mem_cons, List.map_cons]
      constructor
      · rintro ⟨b, ⟨ha, rfl⟩, bs', ⟨hrest, rfl⟩, hbs⟩
        exact ⟨⟨ha, hrest⟩, (Except.ok.inj hbs).symm⟩
      · rintro ⟨⟨ha, hrest⟩, rfl⟩
        exact ⟨g a, ⟨ha, rfl⟩, rest.map g, ⟨hrest, rfl⟩, rfl⟩

theorem exists_mapM_eq_ok_iff {f : α → Except ε β} {l : List α} :
    (∃ bs, l.mapM f = .ok bs) ↔ ∀ a ∈ l, ∃ b, f a = .ok b := by
  induction l with
  | nil =>
      simp [pure, Except.pure]
  | cons a rest ih =>
      simp only [List.mapM_cons, bind_eq_ok_iff, List.forall_mem_cons, ← ih]
      constructor
      · rintro ⟨bs, b, hb, bs', hbs', -⟩
        exact ⟨⟨b, hb⟩, bs', hbs'⟩
      · rintro ⟨⟨b, hb⟩, bs, hbs⟩
        exact ⟨b :: bs, b, hb, bs, hbs, rfl⟩

/-- The first entry that fails decides the error. -/
theorem mapM_eq_error_iff {f : α → Except ε β} {l : List α} {e : ε} :
    l.mapM f = .error e ↔
      ∃ before a after, l = before ++ a :: after ∧ (∀ x ∈ before, ∃ b, f x = .ok b) ∧
        f a = .error e := by
  -- by the list: an entry that fails is the first such, and one that does not is passed over
  induction l with
  | nil =>
      simp [pure, Except.pure]
  | cons first rest ih =>
      cases hfirst : f first with
      | error e' =>
          have hmap : (first :: rest).mapM f = .error e' := by
            simp [List.mapM_cons, hfirst, bind, Except.bind]
          rw [hmap]
          constructor
          · rintro ⟨⟩
            exact ⟨[], first, rest, rfl, by simp, hfirst⟩
          · rintro ⟨before, a, after, hsplit, hbefore, ha⟩
            cases before with
            | nil =>
                cases hsplit
                cases hfirst.symm.trans ha
                rfl
            | cons c before =>
                cases hsplit
                rcases hbefore first List.mem_cons_self with ⟨b, hb⟩
                cases hfirst.symm.trans hb
      | ok b =>
          have hmap : (first :: rest).mapM f = .error e ↔ rest.mapM f = .error e := by
            simp [List.mapM_cons, hfirst, bind_eq_error_iff, pure, Except.pure]
          rw [hmap, ih]
          constructor
          · rintro ⟨before, a, after, rfl, hbefore, ha⟩
            exact ⟨first :: before, a, after, rfl,
              List.forall_mem_cons.2 ⟨⟨b, hfirst⟩, hbefore⟩, ha⟩
          · rintro ⟨before, a, after, hsplit, hbefore, ha⟩
            cases before with
            | nil =>
                cases hsplit
                cases hfirst.symm.trans ha
            | cons c before =>
                cases hsplit
                exact ⟨before, a, after, rfl, (List.forall_mem_cons.1 hbefore).2, ha⟩

/-- Where the state has no part in what fails, everything can be computed before the state is
changed. -/
theorem foldlM_eq_map_mapM {γ : Type} {f : α → Except ε β} {step : γ → β → γ} (l : List α)
    (start : γ) :
    l.foldlM (fun state a => (f a).map (step state)) start =
      (l.mapM f).map fun found => found.foldl step start := by
  -- by the list: an entry that fails ends both, and any other moves the state on
  induction l generalizing start with
  | nil =>
      rfl
  | cons a rest ih =>
      rw [List.foldlM_cons, List.mapM_cons]
      cases f a with
      | error e =>
          rfl
      | ok b =>
          refine (ih (step start b)).trans ?_
          cases rest.mapM f with
          | error e => rfl
          | ok found => rfl

end ResourceRouting
