import ResourceRouting.ErrorEnum.Declaration

/-!
# Expansion — the code that is generated for an error enumeration

For an enumeration whose variants have named fields, a trait is generated that attaches a context
to an error, a conversion for each variant with a source, and two from texts for the variant named
`Internal`. An expansion says what is generated; `Expansion.items` lists the items of the generated
code, and `Expansion.text` is its source text.
-/

namespace ResourceRouting
namespace ErrorEnum

/-! ## Refusals -/

/-- Why a declaration is refused, with the variant that is to blame. -/
inductive ExpansionError
  | notAnEnumeration
  | unnamedFields (variant : String)
  | contextType (variant : String)
  | sourceWithoutContext (variant : String)
  deriving DecidableEq, Repr

def ExpansionError.text : ExpansionError → String
  | notAnEnumeration => "warren_error can only be applied to enums"
  | unnamedFields _ => "warren_error requires named fields so source/context can be wired"
  | contextType _ => "context field must be Option<Cow<'static, str>>"
  | sourceWithoutContext _ =>
      "warren_error requires \x60context: Option<Cow<'static, str>>\x60 next to a source field"

/-! ## Plans -/

/-- What is known of a variant: its configuration attributes, its source field, and whether it has
a context. -/
structure VariantPlan where
  name : String
  configuration : List Attribute := []
  source? : Option Field := none
  hasContext : Bool := false
  deriving Repr

/-- An arm that attaches a context to a variant. -/
structure ContextArm where
  configuration : List Attribute
  variant : String
  deriving DecidableEq, Repr

/-- A conversion of a source into the variant that holds it. -/
structure Conversion where
  configuration : List Attribute
  variant : String
  field : String
  type : TypeExpr
  deriving Repr

structure Expansion where
  derives : List String
  item : Enumeration
  arms : List ContextArm
  conversions : List Conversion
  /-- The configuration attributes of the variant that texts are converted to, if there is one. -/
  internal? : Option (List Attribute)
  deriving Repr

/-- The variant of errors that are known by a text only. -/
def internalName : String := "Internal"

def contextName : String := "context"

namespace Field

/-- Whether a field is the source of an error, by its name or by an attribute. -/
def isSource (f : Field) : Bool :=
  f.name == "source" || f.attributes.any fun a => a.named "source" || a.named "from"

end Field

/-- The plan of a variant. -/
def Variant.plan (v : Variant) : Except ExpansionError VariantPlan :=
  match v.shape with
  | .unnamed => .error (.unnamedFields v.name)
  | .named fields _ =>
      let plan (hasContext : Bool) : VariantPlan :=
        { name := v.name, configuration := v.attributes.filter (·.named "cfg"),
          source? := fields.find? Field.isSource, hasContext }
      match fields.find? (·.name == contextName) with
      | none => .ok (plan false)
      | some f => if f.type.isContext then .ok (plan true) else .error (.contextType v.name)

namespace VariantPlan

/-- Whether a source lacks the context that has to stand beside it. -/
def isOrphan (p : VariantPlan) : Bool := p.source?.isSome && !p.hasContext

def arm? (p : VariantPlan) : Option ContextArm :=
  if p.hasContext then some ⟨p.configuration, p.name⟩ else none

/-- The conversion of the source of a variant; the variant for texts has none. -/
def conversion? (p : VariantPlan) : Option Conversion :=
  if p.name == internalName then none
  else p.source?.map fun f => ⟨p.configuration, p.name, f.name, f.type⟩

end VariantPlan

namespace Enumeration

/-- The traits that the enumeration derives already. -/
def derived (e : Enumeration) : List String :=
  (e.attributes.filter (·.named "derive")).flatMap Attribute.listedNames

/-- The traits that have to be derived besides. -/
def missingDerives (e : Enumeration) : List String :=
  (if e.derived.contains "Debug" then [] else ["Debug"]) ++
    (if e.derived.contains "Error" then [] else ["::thiserror::Error"])

/-- What is generated for an enumeration. Of several reasons to refuse it, the first variant that
cannot be planned counts before any source without a context. -/
def expand (e : Enumeration) : Except ExpansionError Expansion := do
  -- every variant is planned before any source is judged
  let plans ← e.variants.mapM Variant.plan
  if let some p := plans.find? VariantPlan.isOrphan then
    throw (.sourceWithoutContext p.name)
  return {
    derives := e.missingDerives
    item := e
    arms := plans.filterMap VariantPlan.arm?
    conversions := plans.filterMap VariantPlan.conversion?
    internal? := (plans.find? (·.name == internalName)).map (·.configuration) }

/-- The name of the trait that attaches contexts; a raw name loses its mark. -/
def traitName (e : Enumeration) : String :=
  let plain :=
    match e.name.toList with
    | 'r' :: '#' :: rest => String.ofList rest
    | _ => e.name
  plain ++ "Ext"

end Enumeration

/-- What is generated for a declaration. -/
def Declaration.expand : Declaration → Except ExpansionError Expansion
  | enumeration e => e.expand
  | other => .error .notAnEnumeration

/-! ## Generated items -/

/-- The types of texts that errors are converted from. -/
inductive MessageType
  | borrowed
  | owned
  deriving DecidableEq, Repr

/-- What is generated for an enumeration, piece by piece. -/
inductive Item
  /-- The enumeration itself, with traits that it derives besides. -/
  | enumeration (derives : List String) (e : Enumeration)
  /-- The trait that attaches contexts, and its implementation for results of the enumeration. -/
  | contextTrait (arms : List ContextArm)
  | fromSource (c : Conversion)
  /-- The implementation of the trait for results with the type of a source as their error. -/
  | contextOfSource (c : Conversion)
  | fromMessage (configuration : List Attribute) (type : MessageType)
  /-- The function that writes a context in parentheses. -/
  | formatContext
  deriving Repr

namespace Expansion

def items (x : Expansion) : List Item :=
  [.enumeration x.derives x.item, .contextTrait x.arms] ++
    x.conversions.flatMap (fun c => [.fromSource c, .contextOfSource c]) ++
    (match x.internal? with
      | some configuration =>
          [.fromMessage configuration .borrowed, .fromMessage configuration .owned]
      | none => []) ++
    [.formatContext]

end Expansion

/-! ## Source text -/

/-- The type of texts that live forever or are owned. -/
def cowText : String := "::std::borrow::Cow<'static, str>"

def borrowed (s : String) : String := "::std::borrow::Cow::Borrowed(" ++ s ++ ")"

def owned (s : String) : String := "::std::borrow::Cow::Owned(" ++ s ++ ")"

namespace MessageType

def text : MessageType → String
  | borrowed => "&'static str"
  | owned => "String"

/-- The message of an error that is converted from a text. -/
def messageText : MessageType → String
  | borrowed => ErrorEnum.borrowed "message"
  | owned => ErrorEnum.owned "message"

end MessageType

namespace Item

def configurationText (attributes : List Attribute) : String :=
  spaced (attributes.map Attribute.text)

def inlined (signature body : String) : String :=
  spaced ["#[inline]", signature, braced body]

def derivesText (derives : List String) : String :=
  if derives.isEmpty then "" else "#[derive(" ++ listed derives ++ ")]"

def armText (enumName : String) (a : ContextArm) : String :=
  spaced [configurationText a.configuration, enumName ++ "::" ++ a.variant,
    braced (contextName ++ ": slot, .."), "=> *slot = Some(context.into()),"]

/-- The body of the function that attaches a context. -/
def attachText (enumName : String) (arms : List ContextArm) : String :=
  if arms.isEmpty then "let _ = context; self"
  else
    let arms := spaced (arms.map (armText enumName) ++ ["_ =>", braced ""])
    "self.map_err(|mut err| " ++ braced (spaced ["match &mut err", braced arms, "err"]) ++ ")"

def signature (comma answer : String) : String :=
  spaced ["fn context(self, context: impl Into<" ++ cowText ++ ">" ++ comma ++ ")", "->", answer]

def traitText (e : Enumeration) (arms : List ContextArm) : String :=
  let answer := "Result<T, " ++ e.name ++ ">"
  spaced
    ["pub trait", e.traitName ++ "<T>", braced (signature "" answer ++ ";"),
      "#[automatically_derived]", "impl<T>", e.traitName ++ "<T>", "for", answer,
      braced (inlined (signature "" "Self") (attachText e.name arms))]

def fromText (e : Enumeration) (type parameter body : String) : String :=
  spaced
    ["impl From<" ++ type ++ ">", "for", e.name,
      braced (inlined ("fn from(" ++ parameter ++ ": " ++ type ++ ") -> Self") body)]

/-- The error with a source and a context. -/
def variantText (owner : String) (c : Conversion) (context : String) : String :=
  spaced [owner ++ "::" ++ c.variant, braced (listed [c.field, contextName ++ ": " ++ context])]

def resultText (error : String) : String := "::std::result::Result<T, " ++ error ++ ">"

def formatText : String :=
  let body :=
    "context.as_ref().map_or(" ++ borrowed "\"\"" ++ ", |c| " ++
      braced (owned "format!(\" (\x7bc\x7d)\")") ++ ")"
  spaced
    ["#[allow(dead_code)]", "fn format_context(context: &Option<" ++ cowText ++ ">,)", "->",
      cowText, braced body]

/-- The source text of an item that is generated for an enumeration. -/
def text (e : Enumeration) : Item → String
  | enumeration derives item =>
      spaced ["#[allow(non_shorthand_field_patterns)]", derivesText derives, item.text]
  | contextTrait arms => traitText e arms
  | fromSource c =>
      spaced
        [configurationText c.configuration, "#[automatically_derived]",
          fromText e c.type.text c.field (variantText "Self" c "None")]
  | contextOfSource c =>
      spaced
        [configurationText c.configuration,
          "impl<T>", e.traitName ++ "<T>", "for", resultText c.type.text,
          braced (inlined (signature "," (resultText e.name))
            ("self.map_err(|" ++ c.field ++ "| " ++
              variantText e.name c "Some(context.into())" ++ ")"))]
  | fromMessage configuration type =>
      spaced
        [configurationText configuration,
          fromText e type.text "message"
            (spaced ["Self::" ++ internalName,
              braced ("message: " ++ type.messageText ++ ", context: None")])]
  | formatContext => formatText

end Item

/-- The source text of an expansion. -/
def Expansion.text (x : Expansion) : String := spaced (x.items.map (Item.text x.item))

/-- The text without any white space. -/
def squeezed (s : String) : String := String.ofList (s.toList.filter fun c => !Text.isBlank c)

end ErrorEnum
end ResourceRouting
