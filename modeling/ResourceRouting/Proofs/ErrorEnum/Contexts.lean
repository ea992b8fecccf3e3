import Mathlib.Data.List.Nodup
import ResourceRouting.ErrorEnum.Build
import ResourceRouting.Proofs.ErrorEnum.Generated

/-!
# Contexts — what becomes of an error with a context

Contexts are attached to an error of an enumeration one after the other, or at once when a source is
converted. The code for the two ways is generated apart, and for each variant on its own.

* `Expansion.contexts_error`: of several contexts the last one is left.
* `Enumeration.attach_of_makes`: a context goes into the field for it and nowhere else.
* `Conversion.convertIn_eq`: a source that is converted with a context is the source converted and
  then given the context.
* `Declaration.contexts_and_sources`: all this for any enumeration that has an expansion, in any
  build where that compiles.
-/

namespace ResourceRouting
namespace ErrorEnum

variable {α β : Type}

/-! ## Fields of an error -/

namespace ErrorValue

variable {error : ErrorValue α}

theorem names_setContext (error : ErrorValue α) (c : String) :
    (error.setContext c).fields.map Prod.fst = error.fields.map Prod.fst := by
  rw [setContext, List.map_map]
  refine List.map_congr_left fun f _ => ?_
  by_cases hname : f.1 = contextName
  · simp [hname]
  · simp [hname]

theorem setContext_setContext (error : ErrorValue α) (c c' : String) :
    (error.setContext c').setContext c = error.setContext c := by
  simp only [setContext, List.map_map]
  congr 1
  refine List.map_congr_left fun f _ => ?_
  by_cases hname : f.1 = contextName
  · simp [hname]
  · simp [hname]

theorem others_setContext (error : ErrorValue α) (c : String) :
    (error.setContext c).others = error.others := by
  rw [others, others, setContext]
  -- a field that is changed is one that is left out
  induction error.fields with
  | nil =>
      rfl
  | cons f rest ih =>
      by_cases hname : f.1 = contextName
      · simpa [hname] using ih
      · simpa [hname] using ih

theorem setContext_eq_self (c : String) (h : contextName ∉ error.fields.map Prod.fst) :
    error.setContext c = error := by
  have hfields : error.fields.map
      (fun f => if f.1 = contextName then (f.1, .context (some c)) else f) = error.fields := by
    refine (List.map_congr_left fun f hf => ?_).trans (List.map_id _)
    have hname : f.1 ≠ contextName := fun hname => h (hname ▸ List.mem_map_of_mem hf)
    rw [if_neg hname, id]
  rw [setContext, hfields]

theorem lookup_setContext (c : String) (h : contextName ∈ error.fields.map Prod.fst) :
    (error.setContext c).fields.lookup contextName = some (.context (some c)) := by
  rcases error with ⟨variant, fields⟩
  -- by the fields, up to the first one for a context
  induction fields with
  | nil =>
      cases h
  | cons f rest ih =>
      rw [setContext, List.map_cons]
      by_cases hname : f.1 = contextName
      · simp [hname]
      · have hrest : contextName ∈ rest.map Prod.fst := by
          rcases List.mem_cons.1 h with hfirst | hrest
          · exact absurd hfirst.symm hname
          · exact hrest
        have hbeq : (contextName == f.1) = false := beq_false_of_ne (Ne.symm hname)
        rw [if_neg hname, List.lookup_cons, hbeq]
        exact ih hrest

theorem contextText_setContext (c : String) (h : contextName ∈ error.fields.map Prod.fst) :
    (error.setContext c).contextText = " (" ++ c ++ ")" := by
  rw [contextText, context?, lookup_setContext c h]
  rfl

end ErrorValue

namespace Variant

variable {v : Variant} {error : ErrorValue α}

theorem Makes.hasContext_iff (h : v.Makes error) :
    contextName ∈ error.fields.map Prod.fst ↔ v.HasContext := by
  rw [h.fields.mem_iff, List.mem_map]
  rfl

theorem Makes.setContext (h : v.Makes error) (c : String) : v.Makes (error.setContext c) where
  variant := h.variant
  fields := by
    rw [ErrorValue.names_setContext]
    exact h.fields
  contexts := by
    intro f hf hname
    rcases List.mem_map.1 hf with ⟨g, hg, rfl⟩
    by_cases hcontext : g.1 = contextName
    · exact ⟨some c, by simp [hcontext]⟩
    · rw [if_neg hcontext] at hname ⊢
      exact h.contexts g hg hname

end Variant

/-! ## Contexts one after the other -/

namespace Expansion

variable (x : Expansion)

/-- The second of two contexts is left. -/
theorem attach_attach (error : ErrorValue α) (c c' : String) :
    x.attach c (x.attach c' error) = x.attach c error := by
  cases harm : x.arms.find? fun arm => arm.variant == error.variant with
  | none =>
      have hsame : x.attach c' error = error := by
        simp only [attach, harm]
      rw [hsame]
  | some arm =>
      have hset (c : String) : x.attach c error = error.setContext c := by
        simp only [attach, harm]
      have hagain : x.attach c (error.setContext c') = (error.setContext c').setContext c := by
        have harm' : x.arms.find? (fun arm => arm.variant == (error.setContext c').variant) =
            some arm := harm
        simp only [attach, harm']
      rw [hset, hset, hagain, ErrorValue.setContext_setContext]

theorem contexts_ok (b : β) (cs : List String) :
    x.contexts (.ok b : Except (ErrorValue α) β) cs = .ok b := by
  induction cs with
  | nil =>
      rfl
  | cons c rest ih =>
      exact ih

/-- Of several contexts the last one is left. -/
theorem contexts_error (error : ErrorValue α) (cs : List String) (c : String) :
    x.contexts (.error error : Except (ErrorValue α) β) (cs ++ [c]) =
      .error (x.attach c error) := by
  -- by the contexts: of the first one nothing is left after the last
  induction cs generalizing error with
  | nil =>
      rfl
  | cons c' rest ih =>
      have hrest := ih (x.attach c' error)
      rw [attach_attach] at hrest
      exact hrest

end Expansion

/-! ## Arms and conversions of a build -/

namespace Enumeration

variable {e : Enumeration} {holds : Attribute → Bool}

theorem mem_arms_configured_iff {arm : ContextArm} :
    arm ∈ (e.expansion.configured holds).arms ↔
      ∃ v ∈ e.variants, v.HasContext ∧ v.configuration.all holds = true ∧ v.arm = arm := by
  simp only [Expansion.configured, arms_expansion, List.mem_filter, List.mem_map,
    decide_eq_true_eq]
  constructor
  · rintro ⟨⟨v, ⟨hv, hcontext⟩, rfl⟩, hholds⟩
    exact ⟨v, hv, hcontext, hholds, rfl⟩
  · rintro ⟨v, hv, hcontext, hholds, rfl⟩
    exact ⟨⟨v, ⟨hv, hcontext⟩, rfl⟩, hholds⟩

/-- A variant that has a field for a context has an arm. -/
theorem exists_arm {v : Variant} (hv : v ∈ e.variants)
    (hpresent : isPresent holds v.attributes = true) (hcontext : v.HasContext) :
    ∃ arm, (e.expansion.configured holds).arms.find? (fun arm => arm.variant == v.name) =
      some arm := by
  have harm : v.arm ∈ (e.expansion.configured holds).arms :=
    mem_arms_configured_iff.2 ⟨v, hv, hcontext, all_of_isPresent hpresent, rfl⟩
  rw [← Option.isSome_iff_exists, List.find?_isSome]
  exact ⟨v.arm, harm, beq_self_eq_true v.name⟩

theorem mem_conversions_of_source {v : Variant} {f : Field} (hv : v ∈ e.variants)
    (hpresent : isPresent holds v.attributes = true) (hname : v.name ≠ internalName)
    (hsource : v.fields.find? Field.isSource = some f) :
    ⟨v.configuration, v.name, f.name, f.type⟩ ∈ (e.expansion.configured holds).conversions := by
  have hconversion : v.planned.conversion? =
      some ⟨v.configuration, v.name, f.name, f.type⟩ := by
    simp [VariantPlan.conversion?, Variant.planned, hname, hsource]
  exact List.mem_filter.2
    ⟨List.mem_filterMap.2 ⟨v.planned, List.mem_map_of_mem hv, hconversion⟩,
      all_of_isPresent hpresent⟩

/-- An error of a variant is changed in the field for a context and nowhere else. -/
theorem attach_of_makes {v : Variant} (hv : v ∈ (e.configured holds).variants)
    {error : ErrorValue α} (hmakes : v.Makes error) (c : String) :
    (e.expansion.configured holds).attach c error = error.setContext c := by
  by_cases hcontext : v.HasContext
  · rcases mem_variants_configured_iff.1 hv with ⟨w, hw, hpresent, rfl⟩
    -- a field that is there in the build is one of the declaration
    have hdeclared : w.HasContext := by
      rcases hcontext with ⟨f, hf, hname⟩
      rw [Variant.fields_configured] at hf
      exact ⟨f, (List.mem_filter.1 hf).1, hname⟩
    rcases exists_arm hw hpresent hdeclared with ⟨arm, harm⟩
    have hvariant : error.variant = w.name := hmakes.variant
    simp only [Expansion.attach, hvariant, harm]
  · -- even an arm for another variant of the name finds no field to change
    have hsame : error.setContext c = error :=
      ErrorValue.setContext_eq_self c (mt hmakes.hasContext_iff.1 hcontext)
    rw [hsame, Expansion.attach]
    split
    · exact hsame
    · rfl

end Enumeration

/-! ## Sources -/

namespace Conversion

variable {k : Conversion}

theorem setContext_ofSource (h : k.field ≠ contextName) (source : α) (c : String) :
    (k.ofSource source).setContext c = k.ofSourceIn source c := by
  simp [ofSource, ofSourceIn, ErrorValue.setContext, h]

/-- A source that is converted with a context is the source converted and then given the context. -/
theorem convertIn_eq {x : Expansion} (hfield : k.field ≠ contextName)
    (harm : ∃ arm, x.arms.find? (fun arm => arm.variant == k.variant) = some arm)
    (q : Except α β) (c : String) : k.convertIn q c = x.context (k.convert q) c := by
  cases q with
  | ok b =>
      rfl
  | error source =>
      rcases harm with ⟨arm, harm⟩
      have harm' : x.arms.find? (fun arm => arm.variant == (k.ofSource source).variant) =
          some arm := harm
      have hattach : x.attach c (k.ofSource source) = k.ofSourceIn source c := by
        rw [← setContext_ofSource hfield]
        simp only [Expansion.attach, harm']
      exact congrArg Except.error hattach.symm

theorem makes_ofSource {v : Variant} (hname : v.name = k.variant)
    (hfield : k.field ≠ contextName)
    (hfields : [k.field, contextName].Perm (v.fields.map Field.name)) (source : α) :
    v.Makes (k.ofSource source) where
  variant := hname.symm
  fields := hfields
  contexts := by
    intro f hf hcontext
    rcases List.mem_pair.1 hf with rfl | rfl
    · exact absurd hcontext hfield
    · exact ⟨none, rfl⟩

end Conversion

namespace Expansion

/-- The conversion from a type in a build: the only one that converts an error of that type, be it
alone or together with a context. -/
structure ConvertsFrom (x : Expansion) (type : TypeExpr) (k : Conversion) : Prop where
  fromSource : Item.fromSource k ∈ x.items
  contextOfSource : Item.contextOfSource k ∈ x.items
  sourceType : k.type = type
  unique : ∀ k', Item.fromSource k' ∈ x.items ∨ Item.contextOfSource k' ∈ x.items →
    k'.type = type → k' = k

theorem fromSource_mem_items_iff {x : Expansion} {k : Conversion} :
    Item.fromSource k ∈ x.items ↔ k ∈ x.conversions := by
  cases hinternal : x.internal? with
  | none => simp [items, hinternal]
  | some configuration => simp [items, hinternal]

theorem contextOfSource_mem_items_iff {x : Expansion} {k : Conversion} :
    Item.contextOfSource k ∈ x.items ↔ k ∈ x.conversions := by
  cases hinternal : x.internal? with
  | none => simp [items, hinternal]
  | some configuration => simp [items, hinternal]

theorem Compiles.convertsFrom {x : Expansion} (h : x.Compiles) {k : Conversion}
    (hk : k ∈ x.conversions) : x.ConvertsFrom k.type k where
  fromSource := fromSource_mem_items_iff.2 hk
  contextOfSource := contextOfSource_mem_items_iff.2 hk
  sourceType := rfl
  unique := by
    intro k' hk' htype
    rw [fromSource_mem_items_iff, contextOfSource_mem_items_iff, or_self] at hk'
    exact List.inj_on_of_nodup_map h.types hk' hk htype

end Expansion

/-! ## All of an enumeration -/

/-- What an error of a variant becomes by a context. It stays an error of the variant, with its
other fields as they were. The field for a context holds the given one, so a display shows that one
and no other; and without such a field nothing changes. -/
structure Variant.Attaches (v : Variant) (error : ErrorValue α) (c : String)
    (error' : ErrorValue α) : Prop where
  makes : v.Makes error'
  names : error'.fields.map Prod.fst = error.fields.map Prod.fst
  others : error'.others = error.others
  context : v.HasContext → error'.fields.lookup contextName = some (.context (some c))
  shown : v.HasContext → ∀ display,
    error'.shown display = display error.variant (" (" ++ c ++ ")") error.others
  unchanged : ¬ v.HasContext → error' = error

theorem Variant.Makes.attaches {v : Variant} {error : ErrorValue α} (h : v.Makes error)
    (c : String) : v.Attaches error c (error.setContext c) where
  makes := h.setContext c
  names := error.names_setContext c
  others := error.others_setContext c
  context := fun hcontext => ErrorValue.lookup_setContext c (h.hasContext_iff.2 hcontext)
  shown := by
    intro hcontext display
    rw [ErrorValue.shown, error.others_setContext,
      ErrorValue.contextText_setContext c (h.hasContext_iff.2 hcontext)]
    rfl
  unchanged := fun hcontext => ErrorValue.setContext_eq_self c (mt h.hasContext_iff.1 hcontext)

namespace Declaration

/-- What contexts do in a build of an expansion that compiles. A result that is no error stays as it
is. An error keeps its variant and its other fields, and where the variant has a field for a context
that field holds the last of the contexts. A variant with a source, the one for texts apart, has one
conversion from the type of its source; that makes errors of the variant, and to convert a result
together with a context is to convert it and then to attach the context. -/
theorem contexts_and_sources {e : Enumeration} {x : Expansion} (holds : Attribute → Bool)
    (hx : (enumeration e).expand = .ok x) (hcompiles : (x.configured holds).Compiles) :
    let built := x.configured holds
    (∀ (b : β) cs, built.contexts (.ok b : Except (ErrorValue α) β) cs = .ok b) ∧
    (∀ v ∈ (e.configured holds).variants, ∀ error : ErrorValue α, v.Makes error → ∀ cs c,
      ∃ error', built.contexts (.error error : Except (ErrorValue α) β) (cs ++ [c]) =
        .error error' ∧ v.Attaches error c error') ∧
    ∀ v ∈ e.variants, isPresent holds v.attributes = true → v.name ≠ internalName →
      ∀ f, v.fields.find? Field.isSource = some f →
        ∃ k, built.ConvertsFrom f.type k ∧ k.variant = v.name ∧ k.field = f.name ∧
          (∃ w ∈ (e.configured holds).variants, w.name = v.name ∧
            ∀ source : α, w.Makes (k.ofSource source)) ∧
          ∀ (q : Except α β) c, k.convertIn q c = built.context (k.convert q) c := by
  rcases Enumeration.expand_eq_ok_iff.1 hx with ⟨hsound, rfl⟩
  refine ⟨fun b cs => Expansion.contexts_ok _ b cs, ?_, ?_⟩
  · intro v hv error hmakes cs c
    refine ⟨error.setContext c, ?_, hmakes.attaches c⟩
    rw [Expansion.contexts_error, Enumeration.attach_of_makes hv hmakes]
  · intro v hv hpresent hname f hsource
    have hk := Enumeration.mem_conversions_of_source hv hpresent hname hsource
    rcases hcompiles.constructed _ hk with ⟨hnodup, w, hw, hwname, hfields⟩
    -- a field that is both the source and the one for a context would be given twice
    have hfield : f.name ≠ contextName := by simpa using hnodup
    -- a source alone would have been refused
    have hcontext : v.HasContext := by
      by_contra hnone
      refine (hsound v hv).2 ⟨⟨f, List.mem_of_find?_eq_some hsource, ?_⟩, hnone⟩
      exact List.find?_some hsource
    refine ⟨_, hcompiles.convertsFrom hk, rfl, rfl,
      ⟨w, hw, hwname, fun source => Conversion.makes_ofSource hwname hfield hfields source⟩, ?_⟩
    exact Conversion.convertIn_eq hfield (Enumeration.exists_arm hv hpresent hcontext)

/-- The type of contexts. -/
def contextType : TypeExpr :=
  .path "Option" (some [.path "Cow" (some [.lifetime "static", .path "str" none])])

def parseVariant : Variant :=
  { name := "Parse"
    shape := .named
      [{ name := contextName, type := contextType },
       { attributes := [⟨"source", ""⟩], name := "cause", type := .path "ParseError" none }] }

/-- An error that is another one on each of two platforms, and on one of them without a context. -/
def storeError : Enumeration :=
  { head := "StoreError"
    variants :=
      [{ attributes := [.listing "cfg" ["unix"]], name := "Io"
         shape := .named
          [{ name := "source", type := .path "std::io::Error" none },
           { name := contextName, type := contextType }] },
       { attributes := [.listing "cfg" ["windows"]], name := "Io"
         shape := .named [{ name := "code", type := .path "u32" none }] },
       parseVariant,
       { name := internalName
         shape := .named
          [{ name := "message", type := .path "String" none },
           { name := contextName, type := contextType }] }] }

/-- The attributes that hold on the first of the platforms. -/
def onUnix (a : Attribute) : Bool := a.args == "(unix)"

/-- A malformed file, with a context from before. -/
def parseFailed : ErrorValue String :=
  ⟨"Parse", [(contextName, .context (some "first line")), ("cause", .payload "no value")]⟩

theorem contexts_and_sources_storeError :
    ∃ x, (enumeration storeError).expand = .ok x ∧ (x.configured onUnix).Compiles ∧
      (parseVariant.Makes parseFailed ∧
        ∃ error', (x.configured onUnix).contexts
            (.error parseFailed : Except (ErrorValue String) Unit) ["reading", "starting"] =
          .error error' ∧ parseVariant.Attaches parseFailed "starting" error') ∧
      ∃ k, (x.configured onUnix).ConvertsFrom (.path "std::io::Error" none) k ∧
        k.variant = "Io" ∧ k.field = "source" ∧
        ∀ (q : Except String Unit) c,
          k.convertIn q c = (x.configured onUnix).context (k.convert q) c := by
  have hok : ∃ x, (enumeration storeError).expand = .ok x :=
    isOk_iff_exists.1 (by decide +kernel)
  rcases hok with ⟨x, hx⟩
  obtain rfl : x = storeError.expansion := (Enumeration.expand_eq_ok_iff.1 hx).2
  have hparse : parseVariant ∈ (storeError.configured onUnix).variants :=
    List.mem_cons_of_mem _ List.mem_cons_self
  have hcompiles : (storeError.expansion.configured onUnix).Compiles := by
    have hconversions : (storeError.expansion.configured onUnix).conversions =
        [⟨[.listing "cfg" ["unix"]], "Io", "source", .path "std::io::Error" none⟩,
          ⟨[], "Parse", "cause", .path "ParseError" none⟩] := rfl
    refine ⟨fun k hk => ?_, by simp [hconversions]⟩
    rw [hconversions] at hk
    rcases List.mem_pair.1 hk with rfl | rfl
    · exact ⟨by decide, _, List.mem_cons_self, rfl, .refl _⟩
    · exact ⟨by decide, parseVariant, hparse, rfl, .swap _ _ _⟩
  rcases contexts_and_sources onUnix hx hcompiles with ⟨-, hcontexts, hsources⟩
  have hmakes : parseVariant.Makes parseFailed := by
    refine ⟨rfl, .refl _, ?_⟩
    intro f hf hname
    rcases List.mem_pair.1 hf with rfl | rfl
    · exact ⟨_, rfl⟩
    · exact absurd hname (by decide)
  rcases hsources _ List.mem_cons_self (by decide +kernel) (by decide) _ rfl with
    ⟨k, hk, hname, hfield, -, hconvert⟩
  exact ⟨_, hx, hcompiles, ⟨hmakes, hcontexts _ hparse _ hmakes ["reading"] "starting"⟩,
    k, hk, hname, hfield, hconvert⟩

end Declaration
end ErrorEnum
end ResourceRouting
