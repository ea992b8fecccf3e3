import ResourceRouting.Config.Load
import ResourceRouting.Log.Logger
import ResourceRouting.Proofs.ErrorEnum.Contexts

/-!
# Reports — errors of this library as values of error enumerations

The errors of declarations, of loggers and of settings belong to error enumerations whose variants
have one field beside the context. Each is a value of its enumeration, and to give it contexts is
what the code does that is generated for that.

* `Reporting`: errors as values of such an enumeration.
* `Reporting.contexts_value`: contexts given to an error one after the other.
-/

namespace ResourceRouting
namespace ErrorEnum

variable {α β ε : Type}

/-! ## Kinds of reports -/

/-- A variant with one field beside the context. -/
structure ReportKind where
  variant : String
  field : String
  type : TypeExpr

namespace ReportKind

variable {k : ReportKind} {kinds : List ReportKind} {name : String}

def declared (k : ReportKind) : Variant :=
  { name := k.variant
    shape := .named
      [{ name := k.field, type := k.type },
       { name := contextName, type := Declaration.contextType }] }

/-- The error of a kind. -/
def value (k : ReportKind) (a : α) (context? : Option String) : ErrorValue α :=
  ⟨k.variant, [(k.field, .payload a), (contextName, .context context?)]⟩

/-- The enumeration of some kinds. -/
def enumeration (name : String) (kinds : List ReportKind) : Enumeration :=
  { head := name, variants := kinds.map declared }

theorem hasContext_declared (k : ReportKind) : k.declared.HasContext :=
  ⟨_, List.mem_cons_of_mem _ List.mem_cons_self, rfl⟩

theorem sound_declared (h : k.field ≠ contextName) : k.declared.Sound := by
  have hcontext : Declaration.contextType.isContext = true := by decide +kernel
  have hplan : ∃ p, k.declared.plan = .ok p := by
    simp [Variant.plan, declared, h, hcontext]
  rcases hplan with ⟨p, hplan⟩
  exact (Variant.plan_eq_ok_iff.1 hplan).1

theorem makes_value (h : k.field ≠ contextName) (a : α) (context? : Option String) :
    k.declared.Makes (k.value a context?) where
  variant := rfl
  fields := .refl _
  contexts := by
    intro f hf hname
    rcases List.mem_pair.1 hf with rfl | rfl
    · exact absurd hname h
    · exact ⟨context?, rfl⟩

/-- No attribute leaves out a kind, so they are the same in every build. -/
theorem declared_mem_configured (holds : Attribute → Bool) (hk : k ∈ kinds) :
    k.declared ∈ ((enumeration name kinds).configured holds).variants :=
  Enumeration.mem_variants_configured_iff.2 ⟨k.declared, List.mem_map_of_mem hk, rfl, rfl⟩

theorem attach_value (holds : Attribute → Bool) (hk : k ∈ kinds) (h : k.field ≠ contextName)
    (a : α) (context? : Option String) (c : String) :
    ((enumeration name kinds).expansion.configured holds).attach c (k.value a context?) =
      k.value a (some c) := by
  rw [Enumeration.attach_of_makes (declared_mem_configured holds hk) (makes_value h a context?)]
  simp [value, ErrorValue.setContext, h]

end ReportKind

/-! ## Errors as reports -/

/-- Errors that are told apart by kinds of reports, and the way to give them a context. -/
structure Reporting (ε α : Type) where
  name : String
  kinds : List ReportKind
  kind : ε → ReportKind
  payload : ε → α
  context? : ε → Option String
  withContext : ε → String → ε
  field_ne : ∀ k ∈ kinds, k.field ≠ contextName
  kind_mem : ∀ e, kind e ∈ kinds
  kind_withContext : ∀ e c, kind (withContext e c) = kind e
  payload_withContext : ∀ e c, payload (withContext e c) = payload e
  context?_withContext : ∀ e c, context? (withContext e c) = some c

namespace Reporting

variable (r : Reporting ε α)

def enumeration : Enumeration := ReportKind.enumeration r.name r.kinds

/-- The error as a value of the enumeration. -/
def value (e : ε) : ErrorValue α := (r.kind e).value (r.payload e) (r.context? e)

/-- Nothing is wrong with an enumeration of reports. -/
theorem expand_enumeration :
    (Declaration.enumeration r.enumeration).expand = .ok r.enumeration.expansion := by
  refine Enumeration.expand_of_sound fun v hv => ?_
  rcases List.mem_map.1 hv with ⟨k, hk, rfl⟩
  exact ⟨ReportKind.sound_declared (r.field_ne k hk),
    fun horphan => horphan.2 k.hasContext_declared⟩

theorem attach_value (holds : Attribute → Bool) (e : ε) (c : String) :
    (r.enumeration.expansion.configured holds).attach c (r.value e) =
      r.value (r.withContext e c) := by
  rw [value, value, r.kind_withContext, r.payload_withContext, r.context?_withContext]
  exact ReportKind.attach_value holds (r.kind_mem e) (r.field_ne _ (r.kind_mem e)) _ _ c

/-- The contexts that an error is given are those that the generated code attaches. -/
theorem contexts_value (holds : Attribute → Bool) (e : ε) (cs : List String) :
    ∃ x, (Declaration.enumeration r.enumeration).expand = .ok x ∧
      (x.configured holds).contexts (.error (r.value e) : Except (ErrorValue α) β) cs =
        .error (r.value (cs.foldl r.withContext e)) := by
  refine ⟨_, r.expand_enumeration, ?_⟩
  induction cs generalizing e with
  | nil =>
      rfl
  | cons c rest ih =>
      have hfirst : (r.enumeration.expansion.configured holds).context
          (.error (r.value e) : Except (ErrorValue α) β) c =
          .error (r.value (r.withContext e c)) := congrArg Except.error (r.attach_value holds e c)
      rw [Expansion.contexts, List.foldl_cons, hfirst]
      exact ih (r.withContext e c)

end Reporting

/-- The type of texts that are messages. -/
def textType : TypeExpr := .path "Cow" (some [.lifetime "static", .path "str" none])

end ErrorEnum

open ErrorEnum (Reporting textType)

/-! ## Declarations -/

namespace DeclarationError

def reportKind (kind : Kind) : ErrorEnum.ReportKind := ⟨kind.name, "message", textType⟩

def reporting : Reporting DeclarationError String where
  name := "DeclarationError"
  kinds := Kind.all.map reportKind
  kind e := reportKind e.kind
  payload := message
  context? := context?
  withContext := withContext
  field_ne := by
    intro k hk
    rcases List.mem_map.1 hk with ⟨kind, -, rfl⟩
    exact (by decide : "message" ≠ ErrorEnum.contextName)
  kind_mem e := List.mem_map_of_mem (by cases e.kind <;> decide)
  kind_withContext _ _ := rfl
  payload_withContext _ _ := rfl
  context?_withContext _ _ := rfl

/-- A text is converted into an error of the kind for such. -/
theorem value_ofMessage (message : String) :
    reporting.enumeration.expansion.ofText? message = some (reporting.value (ofMessage message)) :=
  rfl

end DeclarationError

/-! ## Loggers -/

namespace Log
namespace LoggerError

/-- Two kinds of errors have a source, and the others a message. -/
def reportKind : Kind → ErrorEnum.ReportKind
  | .appender => ⟨Kind.appender.name, "source", .path "InitError" none⟩
  | .subscriber => ⟨Kind.subscriber.name, "source", .path "TryInitError" none⟩
  | .invalidConfiguration => ⟨Kind.invalidConfiguration.name, "message", textType⟩
  | .internal => ⟨Kind.internal.name, "message", textType⟩

def reporting : Reporting LoggerError String where
  name := "LoggerError"
  kinds := [Kind.appender, .subscriber, .invalidConfiguration, .internal].map reportKind
  kind e := reportKind e.kind
  payload := message
  context? := context?
  withContext := withContext
  field_ne := by
    intro k hk
    rcases List.mem_map.1 hk with ⟨kind, -, rfl⟩
    cases kind <;> decide
  kind_mem e := List.mem_map_of_mem (by cases e.kind <;> decide)
  kind_withContext _ _ := rfl
  payload_withContext _ _ := rfl
  context?_withContext _ _ := rfl

theorem value_ofMessage (message : String) :
    reporting.enumeration.expansion.ofText? message = some (reporting.value (ofMessage message)) :=
  rfl

end LoggerError
end Log

/-! ## Settings -/

namespace Config
namespace LoadError

def reporting : Reporting LoadError Source where
  name := "ConfigError"
  kinds := [⟨"Config", "source", .path "config::ConfigError" none⟩]
  kind _ := ⟨"Config", "source", .path "config::ConfigError" none⟩
  payload := source
  context? := context?
  withContext := withContext
  field_ne := by
    intro k hk
    rcases List.mem_singleton.1 hk with rfl
    decide
  kind_mem _ := List.mem_singleton_self _
  kind_withContext _ _ := rfl
  payload_withContext _ _ := rfl
  context?_withContext _ _ := rfl

/-- The error of a source is the source converted, and with a context it is converted so at once. -/
theorem value_ofSource (source : Source) (c : String) :
    ∃ k, reporting.enumeration.expansion.conversions = [k] ∧
      k.ofSource source = reporting.value (ofSource source) ∧
      k.ofSourceIn source c = reporting.value ((ofSource source).withContext c) :=
  ⟨_, rfl, rfl, rfl⟩

end LoadError
end Config
end ResourceRouting
