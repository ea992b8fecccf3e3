import ResourceRouting.Proofs.ErrorEnum.Paths
import ResourceRouting.Proofs.ErrorEnum.Rules

/-!
# Generated — what an expansion is made of

The items of an expansion are read off the declaration: the enumeration with what it has to derive
besides, the trait with an arm for each variant with a context, two items for each variant with a
source, and two for the variant that texts are converted to.

* `Enumeration.generated`: the items that a declaration calls for, in their order.
* `Enumeration.derives_iff`: what an enumeration derives already.
* `Declaration.expand_outcome`: a declaration is refused for one reason, or has just these items.
-/

namespace ResourceRouting
namespace ErrorEnum

/-! ## Items of a variant -/

namespace Variant

/-- The arm for a variant in the function that attaches contexts. -/
def arm (v : Variant) : ContextArm := ⟨v.configuration, v.name⟩

/-- What is generated for the first field for a source, if the variant has one. -/
def sourceItems (v : Variant) : List Item :=
  match v.fields.find? Field.isSource with
  | none => []
  | some f =>
      let c : Conversion := ⟨v.configuration, v.name, f.name, f.type⟩
      [.fromSource c, .contextOfSource c]

end Variant

/-! ## Items of an enumeration -/

namespace Enumeration

/-- Whether a list of the enumeration has a path that ends in a name. -/
def Derives (e : Enumeration) (name : String) : Prop :=
  ∃ a ∈ e.attributes, a.named "derive" = true ∧ name ∈ a.listedNames

instance (e : Enumeration) (name : String) : Decidable (e.Derives name) :=
  inferInstanceAs
    (Decidable (∃ a ∈ e.attributes, a.named "derive" = true ∧ name ∈ a.listedNames))

/-- The traits that are derived besides. -/
def addedDerives (e : Enumeration) : List String :=
  (if e.Derives "Debug" then [] else ["Debug"]) ++
    if e.Derives "Error" then [] else ["::thiserror::Error"]

/-- What is generated for the first variant for texts, if there is one. -/
def messageItems (e : Enumeration) : List Item :=
  match e.variants.find? (·.name == internalName) with
  | none => []
  | some v => [.fromMessage v.configuration .borrowed, .fromMessage v.configuration .owned]

/-- All that is generated for an enumeration whose variants are in order. -/
def generated (e : Enumeration) : List Item :=
  [.enumeration e.addedDerives e,
    .contextTrait ((e.variants.filter (·.HasContext)).map Variant.arm)] ++
    (e.variants.filter (·.name ≠ internalName)).flatMap Variant.sourceItems ++
    e.messageItems ++ [.formatContext]

theorem mem_derived_iff {e : Enumeration} {name : String} :
    name ∈ e.derived ↔ e.Derives name := by
  simp [derived, Derives, and_assoc]

/-- What attributes that list paths derive are the last identifiers of the paths. -/
theorem derives_iff {e : Enumeration} {lists : List (List Path)} {name : String}
    (hlists : e.attributes.filter (·.named "derive") =
      lists.map fun paths => .listing "derive" (paths.map Path.text))
    (hplain : ∀ paths ∈ lists, ∀ p ∈ paths, p.Plain) :
    e.Derives name ↔ ∃ paths ∈ lists, ∃ p ∈ paths, p.last = name := by
  have hderived : e.derived = lists.flatMap (·.map Path.last) := by
    rw [derived, hlists, List.flatMap_map]
    exact List.flatMap_congr fun paths hpaths =>
      Attribute.listedNames_listing (hplain paths hpaths) "derive"
  simp [← mem_derived_iff, hderived]

theorem missingDerives_eq (e : Enumeration) : e.missingDerives = e.addedDerives := by
  simp [missingDerives, addedDerives, mem_derived_iff]

theorem arms_expansion (e : Enumeration) :
    e.expansion.arms = (e.variants.filter (·.HasContext)).map Variant.arm := by
  unfold expansion
  -- a variant adds its arm to both lists or to neither
  induction e.variants with
  | nil =>
      rfl
  | cons v rest ih =>
      by_cases hcontext : v.HasContext
      · simpa [VariantPlan.arm?, Variant.planned, Variant.arm, hcontext] using ih
      · simpa [VariantPlan.arm?, Variant.planned, hcontext] using ih

theorem conversions_expansion (e : Enumeration) :
    e.expansion.conversions.flatMap (fun c => [Item.fromSource c, .contextOfSource c]) =
      (e.variants.filter (·.name ≠ internalName)).flatMap Variant.sourceItems := by
  unfold expansion
  -- the variant for texts adds nothing to either, and of the others only those with a source do
  induction e.variants with
  | nil =>
      rfl
  | cons v rest ih =>
      by_cases hinternal : v.name = internalName
      · simpa [VariantPlan.conversion?, Variant.planned, hinternal] using ih
      · cases hsource : v.fields.find? Field.isSource with
        | none =>
            simpa [VariantPlan.conversion?, Variant.planned, Variant.sourceItems, hinternal,
              hsource] using ih
        | some f =>
            simpa [VariantPlan.conversion?, Variant.planned, Variant.sourceItems, hinternal,
              hsource] using ih

theorem internal?_expansion (e : Enumeration) :
    e.expansion.internal? =
      (e.variants.find? (·.name == internalName)).map Variant.configuration := by
  simp [expansion, List.find?_map, Function.comp_def, Variant.planned]

theorem items_expansion (e : Enumeration) : e.expansion.items = e.generated := by
  rw [Expansion.items, arms_expansion, conversions_expansion, internal?_expansion, generated,
    messageItems, ← missingDerives_eq]
  cases e.variants.find? (·.name == internalName) with
  | none => rfl
  | some v => rfl

end Enumeration

/-! ## Outcomes -/

namespace Declaration

/-- What comes of a declaration. It is refused if it is no enumeration or has a variant that is not
in order, and then for a single reason: first the kind of declaration counts, then the first
variant whose fields break the rules, and then the first source without a context. Otherwise all
the items that the enumeration calls for are generated, and nothing else. -/
theorem expand_outcome (d : Declaration) :
    ((∃ error, d.expand = .error error) ↔
      ∀ e, d = .enumeration e → ∃ v ∈ e.variants, (∃ error, v.Breaks error) ∨ v.Orphan) ∧
    (∀ error, d.expand = .error error ↔ d.Refused error) ∧
    ((∃ error, d.expand = .error error) ∨
      ∃ e x, d = .enumeration e ∧ d.expand = .ok x ∧ x.items = e.generated ∧
        x.text = spaced (e.generated.map (Item.text e))) := by
  refine ⟨?_, fun _ => expand_eq_error_iff, ?_⟩
  · simp only [expand_eq_error_iff]
    exact exists_refused_iff
  · cases d with
    | other =>
        exact Or.inl ⟨_, rfl⟩
    | enumeration e =>
        rcases e.refused_or_sound with ⟨error, hrefused⟩ | hsound
        · exact Or.inl ⟨error, expand_eq_error_iff.2 hrefused⟩
        · refine Or.inr ⟨e, e.expansion, rfl, Enumeration.expand_of_sound hsound,
            e.items_expansion, ?_⟩
          rw [Expansion.text, e.items_expansion]
          rfl

/-- An error with a context for each of two platforms, and one whose context has an argument too
many. The trait `Error` that it derives is not the usual one. -/
def platformError : Enumeration :=
  let text (rest : List TypeExpr) : TypeExpr :=
    .path "Option" (some [.path "Cow" (some (.lifetime "static" :: .path "str" none :: rest))])
  { attributes := [.listing "derive" ["derive_more::Error"]]
    head := "PlatformError"
    variants :=
      [{ name := "Io"
         shape := .named
          [{ attributes := [.listing "cfg" ["unix"]], name := "context", type := text [] },
           { attributes := [.listing "cfg" ["windows"]], name := "context",
             type := .path "String" none }] },
       { name := "Parse"
         shape := .named [{ name := "context", type := text [.path "Extra" none] }] }] }

/-- It has an expansion all the same, where nothing but `Debug` is derived besides. Of each variant
only the first field for a context is looked at, of its type only the first arguments, and of a
trait only the last identifier. -/
theorem expand_platformError :
    (∃ v ∈ platformError.variants, ∃ f ∈ v.fields,
      f.name = contextName ∧ f.type.text = "String" ∧ ¬ f.type.IsContext) ∧
    (∃ v ∈ platformError.variants, ∃ f ∈ v.fields,
      f.name = contextName ∧ f.type.text = "Option<Cow<'static, str, Extra>>") ∧
    platformError.attributes.map Attribute.text = ["#[derive(derive_more::Error)]"] ∧
    ∃ x, (enumeration platformError).expand = .ok x ∧ x.derives = ["Debug"] := by
  have hsound : ∃ x, (enumeration platformError).expand = .ok x :=
    isOk_iff_exists.1 (by decide +kernel)
  rcases hsound with ⟨x, hx⟩
  have hderives : (enumeration platformError).expand.toOption.map Expansion.derives =
      some ["Debug"] := by decide +kernel
  refine ⟨⟨_, List.mem_cons_self, _, List.mem_cons_of_mem _ List.mem_cons_self, rfl, rfl, ?_⟩,
    by decide +kernel, by decide +kernel, x, hx, ?_⟩
  · rintro ⟨⟩
  · rw [hx] at hderives
    exact Option.some.inj hderives

end Declaration
end ErrorEnum
end ResourceRouting
