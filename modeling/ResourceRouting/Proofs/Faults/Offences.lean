import ResourceRouting.Proofs.Lineage

/-!
# Offences — what clauses do wrong, in the order in which it is done

A clause offends if it repeats a name, gives a collection a body or is a feature call that the
registry refuses, and which of them it does is settled by the clauses before it. What is written
into a declaration that repeats a name is never looked at.

* `faultsAt`: of a log of faults those that are about one declaration.
* `ApiClause.offencesAll`: all offences of an application, in the order in which they are made.
-/

namespace ResourceRouting

variable {σ : Type}

/-! ## Faults by what they are about -/

/-- The faults that are about one declaration. -/
def faultsAt (site : Site) (log : List (Site × Fault)) : List Fault :=
  log.filterMap fun e => if e.1 = site then some e.2 else none

/-- Faults that are all about one declaration. -/
def about (site : Site) (faults : List Fault) : List (Site × Fault) := faults.map (Prod.mk site)

@[simp]
theorem faultsAt_append (site : Site) (log log' : List (Site × Fault)) :
    faultsAt site (log ++ log') = faultsAt site log ++ faultsAt site log' :=
  List.filterMap_append

@[simp]
theorem faultsAt_about (site : Site) (faults : List Fault) :
    faultsAt site (about site faults) = faults := by
  simp [faultsAt, about, List.filterMap_map]

theorem mem_faultsAt_iff {site : Site} {log : List (Site × Fault)} {fault : Fault} :
    fault ∈ faultsAt site log ↔ (site, fault) ∈ log := by
  simp only [faultsAt, List.mem_filterMap, Option.ite_none_right_eq_some, Option.some.injEq]
  constructor
  · rintro ⟨e, he, rfl, rfl⟩
    exact he
  · intro h
    exact ⟨_, h, rfl, rfl⟩

theorem faultsAt_eq_nil {site : Site} {log : List (Site × Fault)} (h : ∀ e ∈ log, e.1 ≠ site) :
    faultsAt site log = [] := by
  rw [faultsAt, List.filterMap_eq_nil_iff]
  exact fun e he => if_neg (h e he)

theorem eq_nil_iff_faultsAt {log : List (Site × Fault)} :
    log = [] ↔ ∀ site, faultsAt site log = [] := by
  constructor
  · rintro rfl site
    rfl
  · intro h
    rw [List.eq_nil_iff_forall_not_mem]
    intro e he
    have hmem : e.2 ∈ faultsAt e.1 log := mem_faultsAt_iff.2 he
    rw [h] at hmem
    cases hmem

theorem fst_of_mem_about {site : Site} {faults : List Fault} {e : Site × Fault}
    (h : e ∈ about site faults) : e.1 = site := by
  rcases List.mem_map.1 h with ⟨fault, -, rfl⟩
  rfl

theorem faultsAt_about_of_ne {site other : Site} (h : other ≠ site) (faults : List Fault) :
    faultsAt site (about other faults) = [] :=
  faultsAt_eq_nil fun _ he => (fst_of_mem_about he).trans_ne h

/-- What is about one declaration may come before or after what is not about it. -/
theorem faultsAt_about_append_comm {site : Site} {log : List (Site × Fault)}
    (hlog : ∀ e ∈ log, e.1 ≠ site) (faults : List Fault) (other : Site) :
    faultsAt other (about site faults ++ log) = faultsAt other (log ++ about site faults) := by
  rw [faultsAt_append, faultsAt_append]
  by_cases hother : other = site
  · rw [hother, faultsAt_eq_nil hlog, List.append_nil, List.nil_append]
  · rw [faultsAt_about_of_ne (Ne.symm hother), List.append_nil, List.nil_append]

/-! ## Parameters -/

/-- The names that were there before, each time they come again. -/
def repeats (before : List String) : List String → List String
  | [] => []
  | name :: rest => (if name ∈ before then [name] else []) ++ repeats (before ++ [name]) rest

theorem repeats_append (before names others : List String) :
    repeats before (names ++ others) =
      repeats before names ++ repeats (before ++ names) others := by
  induction names generalizing before with
  | nil =>
      rw [List.nil_append, repeats, List.nil_append, List.append_nil]
  | cons name rest ih =>
      rw [List.cons_append, repeats, ih, repeats, List.append_assoc, List.append_assoc]
      rfl

/-- What is wrong with the body of an operation: its parameters that have the name of an earlier
one. -/
def OperationClause.offences (operation : String) (body : List (OperationClause σ)) : List Fault :=
  (repeats [] ((body.flatMap declaredParams).map Parameter.name)).map
    (.repeatedParameter operation)

/-! ## Collections -/

namespace CollectionClause

/-- The name of the operation that a clause declares. -/
def operationName? : CollectionClause σ → Option String
  | .operation name _ | .action name _ => some name
  | _ => none

/-- The name of the subcollection that a clause declares. -/
def childName? : CollectionClause σ → Option String
  | .collection name _ => some name
  | _ => none

mutual

/-- What is wrong with a clause of the collection that has a name and a lineage above it, after
the clauses before. The body of a declaration that repeats a name is never looked at. -/
def offences (above : List String) (name : String) (before : List (CollectionClause σ)) :
    CollectionClause σ → List (Site × Fault)
  | .operation o body | .action o body =>
      if o ∈ before.filterMap operationName? then
        about (.collection (above ++ [name])) [.repeatedOperation name o]
      else about (.operation (above ++ [name]) o) (OperationClause.offences o body)
  | .collection child body =>
      if child ∈ before.filterMap childName? then
        about (.collection (above ++ [name])) [.repeatedChild name child]
      else offencesAll (above ++ [name]) child [] body
  | .control => about (.collection (above ++ [name])) [.strayControl name]
  | .description _ | .withId _ | .noMember => []

def offencesAll (above : List String) (name : String) (before : List (CollectionClause σ)) :
    List (CollectionClause σ) → List (Site × Fault)
  | [] => []
  | clause :: rest =>
      offences above name before clause ++ offencesAll above name (before ++ [clause]) rest

end

end CollectionClause

/-! ## Applications -/

namespace ApiClause

/-- What is wrong with a clause of an application after the clauses before: a feature that the
registry so far refuses, a root collection that repeats a name, or else whatever is wrong within
it. -/
def offences (app : String) (before : List (ApiClause σ)) : ApiClause σ → List (Site × Fault)
  | .feature name target body =>
      about .application (failure? (((before.filterMap featureCall?).foldl
        FeatureRegistry.declareOrKeep {}).declare name target body)).toList
  | .collection name body =>
      if name ∈ (before.filterMap collectionCall?).map Prod.fst then
        about .application [.repeatedRoot app name]
      else CollectionClause.offencesAll [] name [] body
  | .routing _ | .hooks _ | .featureCheck _ | .capabilityCheck _ => []

def offencesAfter (app : String) (before : List (ApiClause σ)) :
    List (ApiClause σ) → List (Site × Fault)
  | [] => []
  | clause :: rest => offences app before clause ++ offencesAfter app (before ++ [clause]) rest

/-- All offences of an application, in the order in which they are made. -/
def offencesAll (app : String) (clauses : List (ApiClause σ)) : List (Site × Fault) :=
  offencesAfter app [] clauses

end ApiClause
end ResourceRouting
