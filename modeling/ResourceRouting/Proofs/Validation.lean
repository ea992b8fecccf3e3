import Mathlib.Tactic.Tauto
import ResourceRouting.Proofs.Declared.Operation
import ResourceRouting.Proofs.Lists
import ResourceRouting.Proofs.OctetOrder
import ResourceRouting.Validation

/-!
# Validation — which inputs declared parameters let pass

Inputs are checked against parameters, and parameters are made by a constructor and clauses after
it. `Parameter.Declaration` keeps these, and what it asks of inputs is read off them: presence if
the last clause about presence says so, and one of the values that were ever given, if any were.

* `validate_eq_ok_iff`, `validate_eq_error_iff`: what passes, and what the first reason is.
* `Parameter.Declaration.allowed_parameter`: the values of a parameter, each at its first mention.
* `validate_declared`: both of a list of declarations.
-/

namespace ResourceRouting

/-! ## The first reason -/

variable {inputs : Inputs} {params : List Parameter}

/-- The reason to refuse inputs: the first parameter that is missing, or else the first one whose
value is not allowed. -/
inductive Rejects (inputs : Inputs) (params : List Parameter) : ValidationError → Prop
  | missing {p : Parameter} (hfirst : IsFirst (fun q => q.lacks inputs = true) params p) :
      Rejects inputs params (.missing p.name inputs.keys)
  | notAllowed {p : Parameter} {value : String} (hpresent : ∀ q ∈ params, q.lacks inputs = false)
      (hfirst : IsFirst (fun q => (q.offence? inputs).isSome = true) params p)
      (hvalue : p.offence? inputs = some value) :
      Rejects inputs params (.notAllowed p.name value p.allowed)

/-- Validation finds a reason, or else no parameter refuses the inputs. -/
theorem validate_cases (inputs : Inputs) (params : List Parameter) :
    (∃ error, validate inputs params = .error error ∧ Rejects inputs params error) ∨
      (validate inputs params = .ok () ∧
        ∀ p ∈ params, p.lacks inputs = false ∧ p.offence? inputs = none) := by
  unfold validate
  -- the two passes in their order: presence of all parameters, then their values
  cases hlacking : params.find? (·.lacks inputs) with
  | some p =>
      exact Or.inl ⟨_, rfl, .missing (find?_eq_some_iff_isFirst.1 hlacking)⟩
  | none =>
      have hpresent : ∀ q ∈ params, q.lacks inputs = false := by
        simpa using List.find?_eq_none.1 hlacking
      cases hoffending : params.findSome? fun p =>
          (p.offence? inputs).map fun value => (p, value) with
      | some found =>
          rcases findSome?_eq_some_iff_isFirst.1 hoffending with ⟨p, hfirst, hp⟩
          rcases Option.map_eq_some_iff.1 hp with ⟨value, hvalue, rfl⟩
          have hfirst' : IsFirst (fun q => (q.offence? inputs).isSome = true) params p :=
            (isFirst_congr fun q => by rw [Option.isSome_map]).1 hfirst
          exact Or.inl ⟨_, rfl, .notAllowed hpresent hfirst' hvalue⟩
      | none =>
          refine Or.inr ⟨rfl, fun p hp => ⟨hpresent p hp, ?_⟩⟩
          simpa using List.findSome?_eq_none_iff.1 hoffending p hp

theorem validate_of_rejects {error : ValidationError} (h : Rejects inputs params error) :
    validate inputs params = .error error := by
  cases h with
  | missing hfirst =>
      rw [validate, find?_eq_some_iff_isFirst.2 hfirst]
  | @notAllowed p value hpresent hfirst hvalue =>
      have hnone : params.find? (·.lacks inputs) = none := by
        simpa using hpresent
      have hfind : (params.findSome? fun p => (p.offence? inputs).map fun value => (p, value)) =
          some (p, value) := by
        refine findSome?_eq_some_iff_isFirst.2 ⟨p, ?_, by rw [hvalue]; rfl⟩
        exact (isFirst_congr fun r => by rw [Option.isSome_map]).2 hfirst
      rw [validate, hnone]
      simp only [hfind]

theorem validate_eq_error_iff {error : ValidationError} :
    validate inputs params = .error error ↔ Rejects inputs params error := by
  constructor
  · intro h
    rcases validate_cases inputs params with ⟨found, hfound, hrejects⟩ | ⟨hok, -⟩
    · rw [h] at hfound
      cases hfound
      exact hrejects
    · rw [h] at hok
      cases hok
  · exact validate_of_rejects

/-- Inputs pass if no parameter refuses them, in whatever order the parameters come. -/
theorem validate_eq_ok_iff :
    validate inputs params = .ok () ↔
      ∀ p ∈ params, p.lacks inputs = false ∧ p.offence? inputs = none := by
  rcases validate_cases inputs params with ⟨error, herror, hrejects⟩ | ⟨hok, hpasses⟩
  · rw [herror]
    refine iff_of_false (by simp) ?_
    intro hpasses
    cases hrejects with
    | missing hfirst =>
        simpa [(hpasses _ hfirst.mem).1] using hfirst.holds
    | notAllowed _ hfirst hvalue =>
        simp [(hpasses _ hfirst.mem).2] at hvalue
  · exact iff_of_true hok hpasses

/-! ## What clauses say -/

namespace Parameter

/-- What a clause says about presence. -/
@[simp]
def Clause.presence? : Clause → Option Bool
  | .required => some true
  | .optional => some false
  | _ => none

/-- The values that a clause gives. -/
@[simp]
def Clause.given : Clause → List String
  | .values items => items
  | _ => []

theorem name_foldl_apply (p : Parameter) (clauses : List Clause) :
    (clauses.foldl apply p).name = p.name := by
  induction clauses generalizing p with
  | nil =>
      rfl
  | cons clause rest ih =>
      rw [List.foldl_cons, ih]
      cases clause <;> rfl

theorem required_foldl_apply (p : Parameter) (clauses : List Clause) :
    (clauses.foldl apply p).required = (lastSaid? Clause.presence? clauses).getD p.required := by
  induction clauses generalizing p with
  | nil =>
      rfl
  | cons clause rest ih =>
      rw [List.foldl_cons, ih, lastSaid?_cons]
      cases lastSaid? Clause.presence? rest with
      | none => cases clause <;> rfl
      | some said => rfl

theorem allowed_foldl_apply (p : Parameter) (clauses : List Clause) :
    (clauses.foldl apply p).allowed = (clauses.flatMap Clause.given).foldl addValue p.allowed := by
  induction clauses generalizing p with
  | nil =>
      rfl
  | cons clause rest ih =>
      rw [List.foldl_cons, ih, List.flatMap_cons, List.foldl_append]
      cases clause <;> rfl

/-- Adding values one by one leaves each at its first mention. -/
theorem foldl_addValue (seen items : List String) :
    items.foldl addValue seen.eraseDups = (seen ++ items).eraseDups := by
  induction items generalizing seen with
  | nil =>
      rw [List.foldl_nil, List.append_nil]
  | cons item rest ih =>
      have hstep : addValue seen.eraseDups item = (seen ++ [item]).eraseDups := by
        rw [eraseDups_concat, addValue]
        simp
      rw [List.foldl_cons, hstep, ih, List.append_assoc, List.singleton_append]

/-! ## Declared parameters -/

/-- The constructors of parameters: of a kind, or of values to choose from. -/
inductive Beginning
  | ofKind (kind : Kind)
  | enumeration (values : List String)

/-- A parameter as it is declared. -/
structure Declaration where
  name : String
  beginning : Beginning
  clauses : List Clause

def Beginning.parameter (name : String) : Beginning → Parameter
  | ofKind kind => declare name kind []
  | enumeration values => .enumeration name values

def Beginning.given : Beginning → List String
  | ofKind _ => []
  | enumeration values => values

namespace Declaration

/-- What the constructor makes, with the clauses applied to it. -/
def parameter (d : Declaration) : Parameter :=
  d.clauses.foldl apply (d.beginning.parameter d.name)

/-- The values that were ever given. -/
def given (d : Declaration) : List String := d.beginning.given ++ d.clauses.flatMap Clause.given

/-- The last clause about presence asks for it. -/
def Requires (d : Declaration) : Prop := lastSaid? Clause.presence? d.clauses = some true

theorem name_parameter (d : Declaration) : d.parameter.name = d.name := by
  rw [parameter, name_foldl_apply]
  cases d.beginning <;> rfl

theorem required_parameter (d : Declaration) : d.parameter.required = true ↔ d.Requires := by
  have hbeginning : (d.beginning.parameter d.name).required = false := by
    cases d.beginning <;> rfl
  rw [parameter, required_foldl_apply, hbeginning, Requires]
  cases lastSaid? Clause.presence? d.clauses with
  | none => simp
  | some said => simp

theorem allowed_parameter (d : Declaration) : d.parameter.allowed = d.given.eraseDups := by
  have hbeginning : (d.beginning.parameter d.name).allowed = d.beginning.given.eraseDups := by
    cases d.beginning with
    | ofKind kind => rfl
    | enumeration values => exact foldl_addValue [] values
  rw [parameter, allowed_foldl_apply, hbeginning, foldl_addValue, given]

example : (Declaration.mk "arch" (.enumeration ["1", "2"])
    [.required, .values ["3", "2"], .optional]).parameter.allowed = ["1", "2", "3"] := by decide

/-! ## What declarations ask of inputs -/

/-- The parameter is required and the inputs have none of its name. -/
def Lacks (d : Declaration) (inputs : Inputs) : Prop := d.Requires ∧ d.name ∉ inputs

/-- The inputs have a value of the name that is none of those given, and some were given. -/
def Offends (d : Declaration) (inputs : Inputs) : Prop :=
  d.given ≠ [] ∧ ∃ value, inputs[d.name]? = some value ∧ value ∉ d.given

theorem lacks_parameter {d : Declaration} {inputs : Inputs} :
    d.parameter.lacks inputs = true ↔ d.Lacks inputs := by
  rw [Parameter.lacks, Bool.and_eq_true, required_parameter, name_parameter, Lacks,
    Bool.not_eq_true', ← Bool.not_eq_true, Std.ExtTreeMap.contains_iff_mem]

theorem allows_parameter {d : Declaration} {value : String} :
    d.parameter.allows value = false ↔ d.given ≠ [] ∧ value ∉ d.given := by
  have hempty : d.given.eraseDups = [] ↔ d.given = [] := by
    simp only [List.eq_nil_iff_forall_not_mem, List.mem_eraseDups]
  simp [allows, isEnum, allowed_parameter, hempty]

theorem offence?_parameter {d : Declaration} {inputs : Inputs} {value : String} :
    d.parameter.offence? inputs = some value ↔
      inputs[d.name]? = some value ∧ d.given ≠ [] ∧ value ∉ d.given := by
  rw [offence?, name_parameter, Option.filter_eq_some_iff, ← allows_parameter]
  simp

theorem isSome_offence?_parameter {d : Declaration} {inputs : Inputs} :
    (d.parameter.offence? inputs).isSome = true ↔ d.Offends inputs := by
  rw [Option.isSome_iff_exists, Offends]
  simp only [offence?_parameter]
  tauto

/-- The reason to refuse inputs, told by what was declared. -/
inductive Refuses (inputs : Inputs) (decls : List Declaration) : ValidationError → Prop
  | missing {d : Declaration} (hfirst : IsFirst (fun e => e.Lacks inputs) decls d) :
      Refuses inputs decls (.missing d.name inputs.keys)
  | notAllowed {d : Declaration} {value : String} (hpresent : ∀ e ∈ decls, ¬ e.Lacks inputs)
      (hfirst : IsFirst (fun e => e.Offends inputs) decls d)
      (hvalue : inputs[d.name]? = some value) :
      Refuses inputs decls (.notAllowed d.name value d.given.eraseDups)

theorem rejects_iff_refuses {inputs : Inputs} {decls : List Declaration}
    {error : ValidationError} :
    Rejects inputs (decls.map parameter) error ↔ Refuses inputs decls error := by
  have hlacks : ∀ d : Declaration, d.parameter.lacks inputs = true ↔ d.Lacks inputs :=
    fun _ => lacks_parameter
  have hoffends : ∀ d : Declaration,
      (d.parameter.offence? inputs).isSome = true ↔ d.Offends inputs :=
    fun _ => isSome_offence?_parameter
  have hpresent : (∀ p ∈ decls.map parameter, p.lacks inputs = false) ↔
      ∀ d ∈ decls, ¬ d.Lacks inputs := by
    simp [← hlacks]
  constructor
  · intro h
    cases h with
    | missing hfirst =>
        rcases isFirst_map_iff.1 hfirst with ⟨d, hd, rfl⟩
        rw [name_parameter]
        exact .missing ((isFirst_congr hlacks).1 hd)
    | notAllowed hnone hfirst hvalue =>
        rcases isFirst_map_iff.1 hfirst with ⟨d, hd, rfl⟩
        rw [name_parameter, allowed_parameter]
        exact .notAllowed (hpresent.1 hnone) ((isFirst_congr hoffends).1 hd)
          (offence?_parameter.1 hvalue).1
  · intro h
    cases h with
    | @missing d hfirst =>
        have hmissing := Rejects.missing
          (isFirst_map_iff.2 ⟨d, (isFirst_congr hlacks).2 hfirst, rfl⟩)
        rw [name_parameter] at hmissing
        exact hmissing
    | @notAllowed d value hnone hfirst hvalue =>
        rcases hfirst.holds with ⟨hgiven, other, hother, hnot⟩
        rw [hvalue] at hother
        cases hother
        have hnotAllowed := Rejects.notAllowed (hpresent.2 hnone)
          (isFirst_map_iff.2 ⟨d, (isFirst_congr hoffends).2 hfirst, rfl⟩)
          (offence?_parameter.2 ⟨hvalue, hgiven, hnot⟩)
        rw [name_parameter, allowed_parameter] at hnotAllowed
        exact hnotAllowed

end Declaration

end Parameter

open Parameter (Declaration)

theorem validate_declared_eq_ok_iff {decls : List Declaration} :
    validate inputs (decls.map Declaration.parameter) = .ok () ↔
      (∀ d ∈ decls, d.Requires → d.name ∈ inputs) ∧
        ∀ d ∈ decls, d.given ≠ [] → ∀ value, inputs[d.name]? = some value → value ∈ d.given := by
  have hpasses : ∀ d : Declaration,
      (d.parameter.lacks inputs = false ∧ d.parameter.offence? inputs = none) ↔
        (d.Requires → d.name ∈ inputs) ∧
          (d.given ≠ [] → ∀ value, inputs[d.name]? = some value → value ∈ d.given) := by
    intro d
    rw [← Bool.not_eq_true, Declaration.lacks_parameter, Declaration.Lacks, not_and, not_not,
      Option.eq_none_iff_forall_not_mem]
    refine and_congr_right fun _ => ?_
    simp only [Option.mem_def, Declaration.offence?_parameter, not_and, not_not]
    exact ⟨fun h hgiven value hvalue => h value hvalue hgiven,
      fun h value hvalue hgiven => h hgiven value hvalue⟩
  rw [validate_eq_ok_iff, List.forall_mem_map]
  simp only [hpasses]
  exact forall₂_and

/-- Validation of declared parameters. Inputs pass exactly if every required parameter is among
them, and every parameter that was given values, if it is among them, has one of these. Otherwise
the reason is the first required parameter that is missing, with the names of all inputs in
ascending order of octets, or if there is none the first parameter with a value that was not
given, with the given values each at its first mention. So it is that no order of the parameters
makes inputs pass that another one does not. -/
theorem validate_declared (inputs : Inputs) (decls : List Declaration) :
    (validate inputs (decls.map Declaration.parameter) = .ok () ↔
      (∀ d ∈ decls, d.Requires → d.name ∈ inputs) ∧
        ∀ d ∈ decls, d.given ≠ [] → ∀ value, inputs[d.name]? = some value → value ∈ d.given) ∧
    (∀ error, validate inputs (decls.map Declaration.parameter) = .error error ↔
      Declaration.Refuses inputs decls error) ∧
    (inputs.keys.Pairwise (fun a b => Text.octets a < Text.octets b) ∧
      ∀ name, name ∈ inputs.keys ↔ name ∈ inputs) ∧
    ∀ decls' : List Declaration, decls'.Perm decls →
      (validate inputs (decls'.map Declaration.parameter) = .ok () ↔
        validate inputs (decls.map Declaration.parameter) = .ok ()) := by
  refine ⟨validate_declared_eq_ok_iff, ?_, ⟨Text.pairwise_octets_keys inputs, ?_⟩, ?_⟩
  · intro error
    rw [validate_eq_error_iff, Declaration.rejects_iff_refuses]
  · intro name
    exact Std.ExtTreeMap.mem_keys
  · intro decls' hperm
    rw [validate_declared_eq_ok_iff, validate_declared_eq_ok_iff]
    simp only [hperm.mem_iff]

end ResourceRouting
