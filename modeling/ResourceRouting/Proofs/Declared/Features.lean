import ResourceRouting.Feature
import ResourceRouting.Inputs

/-!
# Features — which calls a registry of features accepts

A call names a feature and possibly the collection that the feature extends. The calls are judged
one after the other: each is accepted or refused by the first target that its name was given.

* `FeatureRegistry.declare_isOk_iff`: a registry accepts a call exactly if its target is accepted
  for what the registry has under the name.
* `FeatureRegistry.target?_of_declare`: what a call changes of the targets.
-/

namespace ResourceRouting

/-! ## Calls that declare features -/

/-- Whether a feature of a known target, or a new one, may be declared with a target: a new
feature has to name one, a known one names none or its own. -/
def FeatureAccepted (known? : Option String) (target : String) : Prop :=
  match known? with
  | none => Text.isBlankText target = false
  | some current => target = "" ∨ target = current

/-- Each call, a name and a target, is accepted after those before it. -/
def FeaturesAcceptedAfter (earlier calls : List (String × String)) : Prop :=
  ∀ before name target after, calls = before ++ (name, target) :: after →
    FeatureAccepted ((earlier ++ before).lookup name) target

def FeaturesAccepted (calls : List (String × String)) : Prop := FeaturesAcceptedAfter [] calls

theorem featuresAcceptedAfter_nil (earlier : List (String × String)) :
    FeaturesAcceptedAfter earlier [] := by
  intro before name target after h
  simp at h

theorem featuresAcceptedAfter_cons_iff {earlier rest : List (String × String)}
    {name target : String} :
    FeaturesAcceptedAfter earlier ((name, target) :: rest) ↔
      FeatureAccepted (earlier.lookup name) target ∧
        FeaturesAcceptedAfter (earlier ++ [(name, target)]) rest := by
  constructor
  · intro h
    refine ⟨by simpa using h [] name target rest rfl, ?_⟩
    intro before name' target' after hsplit
    have := h ((name, target) :: before) name' target' after (by simp [hsplit])
    simpa using this
  · rintro ⟨hfirst, hrest⟩ before name' target' after hsplit
    cases before with
    | nil =>
        simp only [List.nil_append, List.cons.injEq, Prod.mk.injEq] at hsplit
        rcases hsplit with ⟨⟨rfl, rfl⟩, -⟩
        simpa using hfirst
    | cons call before =>
        simp only [List.cons_append, List.cons.injEq] at hsplit
        rcases hsplit with ⟨rfl, hsplit⟩
        have := hrest before name' target' after hsplit
        simpa using this

namespace FeatureRegistry

def target? (r : FeatureRegistry) (name : String) : Option String :=
  (r.get? name).map Feature.target

/-- The registry after a call that declares a feature; a call that is refused changes nothing. -/
def declareOrKeep (r : FeatureRegistry) (call : String × String × List FeatureClause) :
    FeatureRegistry :=
  match r.declare call.1 call.2.1 call.2.2 with
  | .ok r' => r'
  | .error _ => r

theorem name_apply (f : Feature) (clause : FeatureClause) : (f.apply clause).name = f.name := by
  cases clause <;> rfl

theorem target_apply (f : Feature) (clause : FeatureClause) :
    (f.apply clause).target = f.target := by
  cases clause <;> rfl

theorem name_foldl_apply (f : Feature) (body : List FeatureClause) :
    (body.foldl Feature.apply f).name = f.name := by
  induction body generalizing f with
  | nil => rfl
  | cons clause rest ih => rw [List.foldl_cons, ih, name_apply]

theorem target_foldl_apply (f : Feature) (body : List FeatureClause) :
    (body.foldl Feature.apply f).target = f.target := by
  induction body generalizing f with
  | nil => rfl
  | cons clause rest ih => rw [List.foldl_cons, ih, target_apply]

theorem declare_isOk_iff {r : FeatureRegistry} {name target : String}
    {body : List FeatureClause} :
    (∃ r', r.declare name target body = .ok r') ↔ FeatureAccepted (r.target? name) target := by
  unfold declare target?
  cases r.get? name with
  | none =>
      cases hblank : Text.isBlankText target <;> simp [FeatureAccepted, hblank]
  | some f =>
      have htest : (target.isEmpty || decide (f.target = target)) = true ↔
          target = "" ∨ target = f.target := by
        rw [Bool.or_eq_true, String.isEmpty_iff, decide_eq_true_iff, @eq_comm _ f.target]
      by_cases hsame : target = "" ∨ target = f.target
      · simp [FeatureAccepted, htest.2 hsame, hsame]
      · simp [FeatureAccepted, mt htest.1 hsame, hsame]

theorem target?_modify (r : FeatureRegistry) (name : String) (body : List FeatureClause)
    (other : String) :
    (r.modify name (body.foldl Feature.apply)).target? other = r.target? other := by
  have hname : ∀ f : Feature,
      (if f.name = name then body.foldl Feature.apply f else f).name = f.name := by
    intro f
    split
    · exact name_foldl_apply f body
    · rfl
  have htarget : ∀ f : Feature,
      (if f.name = name then body.foldl Feature.apply f else f).target = f.target := by
    intro f
    split
    · exact target_foldl_apply f body
    · rfl
  simp [target?, get?, modify, List.find?_map, Function.comp_def, hname, htarget]

/-- A declaration settles the target of its name unless it was settled before. -/
theorem target?_of_declare {r r' : FeatureRegistry} {name target : String}
    {body : List FeatureClause} (h : r.declare name target body = .ok r') (other : String) :
    r'.target? other = (r.target? other).or ([(name, target)].lookup other) := by
  rw [Inputs.lookup_singleton]
  unfold declare at h
  cases hget : r.get? name with
  | some f =>
      simp only [hget] at h
      split at h
      · rw [Except.ok.injEq] at h
        rw [← h, target?_modify]
        by_cases hother : other = name
        · simp [hother, target?, hget]
        · simp [hother]
      · simp at h
  | none =>
      simp only [hget] at h
      split at h
      · simp at h
      · rw [Except.ok.injEq] at h
        rw [← h]
        have hnew := name_foldl_apply { name, target } body
        have htarget := target_foldl_apply { name, target } body
        by_cases hother : other = name
        · have hnone : r.features.find? (fun f => f.name == name) = none := hget
          simp [target?, get?, List.find?_append, hother, hnone, hnew, htarget]
        · have hne : ¬ name = other := fun heq => hother heq.symm
          simp [target?, get?, List.find?_append, hother, hne, hnew]

end FeatureRegistry

end ResourceRouting
