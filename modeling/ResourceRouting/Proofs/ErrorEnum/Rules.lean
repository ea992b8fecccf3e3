import ResourceRouting.ErrorEnum.Expansion
import ResourceRouting.Proofs.ErrorEnum.Paths
import ResourceRouting.Proofs.Results

/-!
# Rules — which declarations have no expansion

Only enumerations are expanded, every variant has to name its fields, the first field for a
context has to be of the right type, and a source needs a context beside it. Of several reasons
the fields of a variant come before any source without a context, and in both the first variant
decides.

* `TypeExpr.isContext_iff`, `TypeExpr.isContext_paths_iff`: which types are those of contexts.
* `Variant.plan_eq_ok_iff`, `Variant.plan_eq_error_iff`: what is planned for one variant.
* `Declaration.expand_eq_error_iff`: the one reason why a declaration has no expansion.
-/

namespace ResourceRouting
namespace ErrorEnum

/-! ## Types of contexts -/

/-- A path that ends in `Option`, whose first argument is a path that ends in `Cow`, whose first
two arguments are the lifetime of everything and a path that ends in `str`. -/
inductive TypeExpr.IsContext : TypeExpr → Prop
  | mk {option cow str : String} {strArgs? : Option (List TypeExpr)}
      (cowRest optionRest : List TypeExpr) (hoption : lastIdent option = "Option")
      (hcow : lastIdent cow = "Cow") (hstr : lastIdent str = "str") :
      IsContext (.path option (some
        (.path cow (some (.lifetime "static" :: .path str strArgs? :: cowRest)) :: optionRest)))

theorem TypeExpr.isContext_iff {type : TypeExpr} : type.isContext = true ↔ type.IsContext := by
  constructor
  · intro h
    unfold isContext at h
    split at h
    · rename_i option inner optionRest
      unfold isCowStr at h
      split at h
      · rename_i cow l text cowRest
        unfold isStr at h
        split at h
        · rename_i str strArgs?
          simp only [Bool.and_eq_true, beq_iff_eq] at h
          rcases h with ⟨hoption, ⟨hcow, rfl⟩, hstr⟩
          exact .mk cowRest optionRest hoption hcow hstr
        · simp at h
      · simp at h
    · cases h
  · rintro ⟨cowRest, optionRest, hoption, hcow, hstr⟩
    simp [isContext, isCowStr, isStr, hoption, hcow, hstr]

/-- However the names of a type are qualified, the last identifiers decide. -/
theorem TypeExpr.isContext_paths_iff {option cow str : Path} (hoption : option.Plain)
    (hcow : cow.Plain) (hstr : str.Plain) {l : String} :
    IsContext (.path option.text (some
        [.path cow.text (some [.lifetime l, .path str.text none])])) ↔
      option.last = "Option" ∧ cow.last = "Cow" ∧ l = "static" ∧ str.last = "str" := by
  simp [← isContext_iff, isContext, isCowStr, isStr, Path.lastIdent_text, hoption, hcow, hstr,
    and_assoc]

/-! ## Variants -/

namespace Variant

/-- Whether a variant has a field for a context. -/
def HasContext (v : Variant) : Prop := ∃ f ∈ v.fields, f.name = contextName

instance (v : Variant) : Decidable v.HasContext :=
  inferInstanceAs (Decidable (∃ f ∈ v.fields, f.name = contextName))

/-- Whether a variant has a field for a source. -/
def HasSource (v : Variant) : Prop := ∃ f ∈ v.fields, f.isSource = true

/-- Whether a source has no context beside it. -/
def Orphan (v : Variant) : Prop := v.HasSource ∧ ¬ v.HasContext

/-- What is wrong with the fields of a variant. -/
inductive Breaks (v : Variant) : ExpansionError → Prop
  | unnamed (hshape : v.shape = .unnamed) : Breaks v (.unnamedFields v.name)
  | context {before after : List Field} {f : Field} (hfields : v.fields = before ++ f :: after)
      (hbefore : ∀ g ∈ before, g.name ≠ contextName) (hname : f.name = contextName)
      (htype : ¬ f.type.IsContext) : Breaks v (.contextType v.name)

def Sound (v : Variant) : Prop := ∀ error, ¬ v.Breaks error

/-- The attributes that say when a variant is there. -/
def configuration (v : Variant) : List Attribute := v.attributes.filter (·.named "cfg")

/-- What is known of a variant whose fields are in order. -/
def planned (v : Variant) : VariantPlan :=
  { name := v.name
    configuration := v.configuration
    source? := v.fields.find? Field.isSource
    hasContext := v.HasContext }

theorem fields_of_unnamed {v : Variant} (h : v.shape = .unnamed) : v.fields = [] := by
  simp [fields, h]

theorem Breaks.unique {v : Variant} {a b : ExpansionError} (ha : v.Breaks a) (hb : v.Breaks b) :
    a = b := by
  rcases ha with hshape | ⟨hfields, -, -, -⟩
  · rcases hb with hshape' | ⟨hfields', -, -, -⟩
    · rfl
    · simp [fields_of_unnamed hshape] at hfields'
  · rcases hb with hshape' | ⟨hfields', -, -, -⟩
    · simp [fields_of_unnamed hshape'] at hfields
    · rfl

/-- The field that is looked up for a context is the first of that name. -/
theorem find?_context_iff {fields : List Field} {f : Field} :
    fields.find? (·.name == contextName) = some f ↔
      ∃ before after, fields = before ++ f :: after ∧ (∀ g ∈ before, g.name ≠ contextName) ∧
        f.name = contextName := by
  rw [List.find?_eq_some_iff_append]
  simp only [beq_iff_eq, Bool.not_eq_true', beq_eq_false_iff_ne]
  constructor
  · rintro ⟨hname, before, after, hsplit, hbefore⟩
    exact ⟨before, after, hsplit, hbefore, hname⟩
  · rintro ⟨before, after, hsplit, hbefore, hname⟩
    exact ⟨hname, before, after, hsplit, hbefore⟩

/-- Planning finds what is wrong with the fields, or else all that there is to know. -/
theorem plan_cases (v : Variant) :
    (∃ error, v.plan = .error error ∧ v.Breaks error) ∨ (v.plan = .ok v.planned ∧ v.Sound) := by
  unfold plan
  cases hshape : v.shape with
  | unnamed =>
      exact Or.inl ⟨_, rfl, .unnamed hshape⟩
  | named fields discriminant =>
      have hfields : v.fields = fields := by
        simp [Variant.fields, hshape]
      cases hfind : fields.find? (·.name == contextName) with
      | none =>
          have hnone : ∀ f ∈ fields, ¬ f.name = contextName := by
            simpa using hfind
          have hcontext : ¬ v.HasContext := by
            simpa [HasContext, hfields] using hnone
          refine Or.inr ⟨by simp [hfind, planned, configuration, hfields, hcontext], ?_⟩
          rintro error (hshape' | ⟨hfields', -, hname, -⟩)
          · cases hshape.symm.trans hshape'
          · exact hcontext ⟨_, by simp [hfields'], hname⟩
      | some f =>
          rcases find?_context_iff.1 hfind with ⟨before, after, hsplit, hbefore, hname⟩
          have hcontext : v.HasContext := ⟨f, by simp [hfields, hsplit], hname⟩
          by_cases htype : f.type.isContext = true
          · refine Or.inr ⟨by simp [hfind, htype, planned, configuration, hfields, hcontext], ?_⟩
            rintro error (hshape' | ⟨hfields', hbefore', hname', htype'⟩)
            · cases hshape.symm.trans hshape'
            · -- a list has one first field for a context
              have hsame := find?_context_iff.2 ⟨_, _, hfields', hbefore', hname'⟩
              rw [hfields] at hsame
              cases hfind.symm.trans hsame
              exact htype' (TypeExpr.isContext_iff.1 htype)
          · refine Or.inl ⟨.contextType v.name, by simp [hfind, htype], ?_⟩
            exact .context (hfields.trans hsplit) hbefore hname (mt TypeExpr.isContext_iff.2 htype)

theorem plan_eq_error_iff {v : Variant} {error : ExpansionError} :
    v.plan = .error error ↔ v.Breaks error := by
  rcases plan_cases v with ⟨found, hplan, hbreaks⟩ | ⟨hplan, hsound⟩
  · rw [hplan, Except.error.injEq]
    constructor
    · rintro rfl
      exact hbreaks
    · exact hbreaks.unique
  · simp [hplan, hsound error]

theorem plan_eq_ok_iff {v : Variant} {p : VariantPlan} :
    v.plan = .ok p ↔ v.Sound ∧ p = v.planned := by
  rcases plan_cases v with ⟨found, hplan, hbreaks⟩ | ⟨hplan, hsound⟩
  · have hnot : ¬ v.Sound := fun hsound => hsound found hbreaks
    simp [hplan, hnot]
  · simp [hplan, hsound, eq_comm]

theorem isOrphan_planned_iff {v : Variant} : v.planned.isOrphan = true ↔ v.Orphan := by
  simp [VariantPlan.isOrphan, planned, Orphan, HasSource, List.find?_isSome]

end Variant

/-! ## Declarations -/

/-- Why a declaration is refused. -/
inductive Declaration.Refused : Declaration → ExpansionError → Prop
  | other : Refused .other .notAnEnumeration
  /-- The first variant whose fields are not in order. -/
  | fields {e : Enumeration} {before after : List Variant} {v : Variant} {error : ExpansionError}
      (hvariants : e.variants = before ++ v :: after) (hbefore : ∀ w ∈ before, w.Sound)
      (hbreaks : v.Breaks error) : Refused (.enumeration e) error
  /-- The first source without a context, where all fields are in order. -/
  | orphan {e : Enumeration} {before after : List Variant} {v : Variant}
      (hsound : ∀ w ∈ e.variants, w.Sound) (hvariants : e.variants = before ++ v :: after)
      (hbefore : ∀ w ∈ before, ¬ w.Orphan) (horphan : v.Orphan) :
      Refused (.enumeration e) (.sourceWithoutContext v.name)

/-- The expansion of an enumeration whose variants are all in order. -/
def Enumeration.expansion (e : Enumeration) : Expansion :=
  let plans := e.variants.map Variant.planned
  { derives := e.missingDerives
    item := e
    arms := plans.filterMap VariantPlan.arm?
    conversions := plans.filterMap VariantPlan.conversion?
    internal? := (plans.find? (·.name == internalName)).map (·.configuration) }

namespace Enumeration

variable {e : Enumeration}

theorem mapM_plan_of_sound (h : ∀ v ∈ e.variants, v.Sound) :
    e.variants.mapM Variant.plan = .ok (e.variants.map Variant.planned) :=
  (mapM_eq_ok_iff (fun _ _ => Variant.plan_eq_ok_iff) _ _).2 ⟨h, rfl⟩

theorem find?_isOrphan (e : Enumeration) :
    (e.variants.map Variant.planned).find? VariantPlan.isOrphan =
      (e.variants.find? fun v => v.planned.isOrphan).map Variant.planned := by
  rw [List.find?_map]
  rfl

theorem expand_of_sound (h : ∀ v ∈ e.variants, v.Sound ∧ ¬ v.Orphan) :
    e.expand = .ok e.expansion := by
  have hnone : e.variants.find? (fun v => v.planned.isOrphan) = none := by
    rw [List.find?_eq_none]
    intro v hv horphan
    exact (h v hv).2 (Variant.isOrphan_planned_iff.1 horphan)
  simp only [expand, mapM_plan_of_sound fun v hv => (h v hv).1, find?_isOrphan, hnone, bind,
    Except.bind]
  rfl

theorem expand_of_refused {error : ExpansionError}
    (h : (Declaration.enumeration e).Refused error) : e.expand = .error error := by
  cases h with
  | fields hvariants hbefore hbreaks =>
      have hplans : e.variants.mapM Variant.plan = .error error :=
        mapM_eq_error_iff.2 ⟨_, _, _, hvariants,
          fun w hw => ⟨_, Variant.plan_eq_ok_iff.2 ⟨hbefore w hw, rfl⟩⟩,
          Variant.plan_eq_error_iff.2 hbreaks⟩
      simp only [expand, hplans, bind, Except.bind]
  | @orphan _ before after v hsound hvariants hbefore horphan =>
      have hfirst : e.variants.find? (fun v => v.planned.isOrphan) = some v := by
        refine List.find?_eq_some_iff_append.2
          ⟨Variant.isOrphan_planned_iff.2 horphan, before, after, hvariants, ?_⟩
        intro w hw
        simpa using mt Variant.isOrphan_planned_iff.1 (hbefore w hw)
      simp only [expand, mapM_plan_of_sound hsound, find?_isOrphan, hfirst, bind, Except.bind]
      rfl

/-- Some first variant is to blame, or all of them are in order. -/
theorem refused_or_sound (e : Enumeration) :
    (∃ error, (Declaration.enumeration e).Refused error) ∨
      ∀ v ∈ e.variants, v.Sound ∧ ¬ v.Orphan := by
  -- the two passes in their order: fields of all variants, then sources
  cases hplans : e.variants.mapM Variant.plan with
  | error error =>
      rcases mapM_eq_error_iff.1 hplans with ⟨before, v, after, hvariants, hbefore, hv⟩
      have hsound : ∀ w ∈ before, w.Sound := by
        intro w hw
        rcases hbefore w hw with ⟨p, hp⟩
        exact (Variant.plan_eq_ok_iff.1 hp).1
      exact Or.inl ⟨error, .fields hvariants hsound (Variant.plan_eq_error_iff.1 hv)⟩
  | ok plans =>
      have hsound := ((mapM_eq_ok_iff (fun _ _ => Variant.plan_eq_ok_iff) _ _).1 hplans).1
      cases hfind : e.variants.find? fun v => v.planned.isOrphan with
      | some v =>
          rcases List.find?_eq_some_iff_append.1 hfind with
            ⟨horphan, before, after, hvariants, hbefore⟩
          refine Or.inl ⟨_, .orphan hsound hvariants ?_ (Variant.isOrphan_planned_iff.1 horphan)⟩
          intro w hw horphan'
          simpa [Variant.isOrphan_planned_iff.2 horphan'] using hbefore w hw
      | none =>
          refine Or.inr fun v hv => ⟨hsound v hv, fun horphan => ?_⟩
          exact List.find?_eq_none.1 hfind v hv (Variant.isOrphan_planned_iff.2 horphan)

theorem expand_eq_ok_iff {x : Expansion} :
    e.expand = .ok x ↔ (∀ v ∈ e.variants, v.Sound ∧ ¬ v.Orphan) ∧ x = e.expansion := by
  constructor
  · intro h
    rcases e.refused_or_sound with ⟨error, hrefused⟩ | hsound
    · cases h.symm.trans (expand_of_refused hrefused)
    · exact ⟨hsound, Except.ok.inj (h.symm.trans (expand_of_sound hsound))⟩
  · rintro ⟨hsound, rfl⟩
    exact expand_of_sound hsound

end Enumeration

namespace Declaration

/-- A declaration has no expansion for the one reason that it is refused for. -/
theorem expand_eq_error_iff {d : Declaration} {error : ExpansionError} :
    d.expand = .error error ↔ d.Refused error := by
  cases d with
  | other =>
      constructor
      · rintro ⟨⟩
        exact .other
      · rintro ⟨⟩
        rfl
  | enumeration e =>
      constructor
      · intro h
        rcases e.refused_or_sound with ⟨found, hfound⟩ | hsound
        · cases h.symm.trans (Enumeration.expand_of_refused hfound)
          exact hfound
        · cases h.symm.trans (Enumeration.expand_of_sound hsound)
      · exact Enumeration.expand_of_refused

/-- What is no enumeration is refused, and so is an enumeration with a variant that is not in
order. -/
theorem exists_refused_iff {d : Declaration} :
    (∃ error, d.Refused error) ↔
      ∀ e, d = .enumeration e → ∃ v ∈ e.variants, (∃ error, v.Breaks error) ∨ v.Orphan := by
  constructor
  · rintro ⟨error, hrefused⟩ e rfl
    cases hrefused with
    | fields hvariants _ hbreaks =>
        exact ⟨_, by simp [hvariants], Or.inl ⟨error, hbreaks⟩⟩
    | orphan _ hvariants _ horphan =>
        exact ⟨_, by simp [hvariants], Or.inr horphan⟩
  · intro h
    cases d with
    | other =>
        exact ⟨_, .other⟩
    | enumeration e =>
        rcases e.refused_or_sound with hrefused | hsound
        · exact hrefused
        · rcases h e rfl with ⟨v, hv, ⟨error, hbreaks⟩ | horphan⟩
          · exact absurd hbreaks ((hsound v hv).1 error)
          · exact absurd horphan (hsound v hv).2

end Declaration
end ErrorEnum
end ResourceRouting
