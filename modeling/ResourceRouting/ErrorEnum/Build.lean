import ResourceRouting.ErrorEnum.Value

/-!
# Build — what is left of an expansion when it is compiled

An expansion is made before any attribute for a configuration is looked at. A build decides which of
them hold, and leaves out whatever has one that does not: variants and fields of the enumeration,
and arms and conversions of the expansion, which have the attributes of their variants. What is left
has to compile, and that asks something of the code for the sources.
-/

namespace ResourceRouting
namespace ErrorEnum

/-! ## Configurations -/

/-- Whether an attribute can leave out what it stands at: an attribute for a configuration, or one
that can stand for such an attribute. -/
def Attribute.isConditional (a : Attribute) : Bool := a.named "cfg" || a.named "cfg_attr"

/-- Whether something with these attributes is there, in a build where the conditional ones hold
that are told to. -/
def isPresent (holds : Attribute → Bool) (attributes : List Attribute) : Bool :=
  (attributes.filter Attribute.isConditional).all holds

theorem all_of_isPresent {holds : Attribute → Bool} {attributes : List Attribute}
    (h : isPresent holds attributes = true) :
    (attributes.filter (·.named "cfg")).all holds = true := by
  simp only [isPresent, List.all_filter, List.all_eq_true] at h ⊢
  intro a ha
  have hattribute := h a ha
  by_cases hcfg : a.named "cfg" = true
  · simpa [Attribute.isConditional, hcfg] using hattribute
  · simp [hcfg]

/-- The fields that are there. -/
def Shape.configured (holds : Attribute → Bool) : Shape → Shape
  | .named fields discriminant =>
      .named (fields.filter fun f => isPresent holds f.attributes) discriminant
  | .unnamed => .unnamed

def Variant.configured (holds : Attribute → Bool) (v : Variant) : Variant :=
  { v with shape := v.shape.configured holds }

@[simp]
theorem Variant.name_configured (holds : Attribute → Bool) (v : Variant) :
    (v.configured holds).name = v.name := rfl

@[simp]
theorem Variant.fields_configured (holds : Attribute → Bool) (v : Variant) :
    (v.configured holds).fields = v.fields.filter fun f => isPresent holds f.attributes := by
  rcases v with ⟨attributes, name, ⟨fields, discriminant⟩ | _⟩
  · rfl
  · rfl

/-- The enumeration with the variants that are there. -/
def Enumeration.configured (holds : Attribute → Bool) (e : Enumeration) : Enumeration :=
  { e with
    variants :=
      (e.variants.filter fun v => isPresent holds v.attributes).map (Variant.configured holds) }

theorem Enumeration.mem_variants_configured_iff {holds : Attribute → Bool} {e : Enumeration}
    {v : Variant} :
    v ∈ (e.configured holds).variants ↔
      ∃ w ∈ e.variants, isPresent holds w.attributes = true ∧ w.configured holds = v := by
  simp [configured, and_assoc]

/-- What is left of an expansion in a build. -/
def Expansion.configured (holds : Attribute → Bool) (x : Expansion) : Expansion :=
  { x with
    item := x.item.configured holds
    arms := x.arms.filter fun a => a.configuration.all holds
    conversions := x.conversions.filter fun c => c.configuration.all holds
    internal? := x.internal?.filter fun configuration => configuration.all holds }

/-! ## Compilation -/

/-- What a compiler asks of the conversions of a build. A compiler asks for more, but what becomes
of errors does not depend on the rest. -/
structure Expansion.Compiles (x : Expansion) : Prop where
  /-- An error that is made from a source is given each field of its variant once, and no other. -/
  constructed : ∀ k ∈ x.conversions, [k.field, contextName].Nodup ∧
    ∃ v ∈ x.item.variants, v.name = k.variant ∧
      [k.field, contextName].Perm (v.fields.map Field.name)
  /-- No type is converted in two ways. -/
  types : (x.conversions.map Conversion.type).Nodup

/-! ## Errors of an enumeration -/

/-- Whether a value is an error of a variant: it has the fields of the variant, in some order, and a
context in each field for one. -/
structure Variant.Makes {α : Type} (v : Variant) (error : ErrorValue α) : Prop where
  variant : error.variant = v.name
  fields : (error.fields.map Prod.fst).Perm (v.fields.map Field.name)
  contexts : ∀ f ∈ error.fields, f.1 = contextName → ∃ c?, f.2 = .context c?

namespace ErrorValue

variable {α : Type}

/-- The fields apart from those for a context. -/
def others (error : ErrorValue α) : List (String × FieldValue α) :=
  error.fields.filter fun f => f.1 ≠ contextName

/-- The text of an error by a display that has the context only as it is written in
parentheses. -/
def shown (display : String → String → List (String × FieldValue α) → String)
    (error : ErrorValue α) : String :=
  display error.variant error.contextText error.others

end ErrorValue

/-! ## Results of sources -/

namespace Conversion

variable {α β : Type}

/-- A result with its source converted. -/
def convert (k : Conversion) (r : Except α β) : Except (ErrorValue α) β :=
  r.mapError k.ofSource

/-- A result with its source converted together with a context. -/
def convertIn (k : Conversion) (r : Except α β) (c : String) : Except (ErrorValue α) β :=
  r.mapError fun source => k.ofSourceIn source c

end Conversion
end ErrorEnum
end ResourceRouting
