import ResourceRouting.Operation
import Mathlib.Data.List.Nodup

/-!
# Operation — what the clauses of an operation declare

The declaration of an operation is gathered clause by clause, and a parameter that repeats a name
is left out of it. `OperationDecl.extended` reads the same clauses with every parameter taken in
and, where clauses override each other, the last one counting.

* `OperationDecl.faults_foldl_apply_iff`: gathering records a fault exactly when a name repeats.
* `OperationDecl.foldl_apply_eq_extended`: gathering without a fault leaves nothing out.
-/

namespace ResourceRouting

/-! ## What clauses say -/

/-- What the last clause says that says anything. -/
def lastSaid? {α β : Type} (said : α → Option β) (clauses : List α) : Option β :=
  clauses.reverse.findSome? said

@[simp]
theorem lastSaid?_nil {α β : Type} (said : α → Option β) : lastSaid? said [] = none := rfl

@[simp]
theorem lastSaid?_cons {α β : Type} (said : α → Option β) (clause : α) (rest : List α) :
    lastSaid? said (clause :: rest) = (lastSaid? said rest).or (said clause) := by
  simp [lastSaid?]

/-- An entry may follow others of distinct names exactly if its name is none of theirs. -/
theorem nodup_map_concat_iff {α : Type} {name : α → String} {entries : List α} {entry : α} :
    ((entries ++ [entry]).map name).Nodup ↔
      name entry ∉ entries.map name ∧ (entries.map name).Nodup := by
  rw [List.map_append, List.map_singleton, ← List.concat_eq_append, List.nodup_concat]

namespace OperationClause

variable {σ : Type}

@[simp]
def description? : OperationClause σ → Option String
  | .description text => some text
  | _ => none

@[simp]
def method? : OperationClause σ → Option Method
  | .method m => some m
  | _ => none

@[simp]
def isCollectionLevel : OperationClause σ → Bool
  | .collectionLevel => true
  | _ => false

@[simp]
def declaredParams : OperationClause σ → List Parameter
  | .param p => [p]
  | .params ps => ps
  | _ => []

@[simp]
def capability? : OperationClause σ → Option String
  | .capability name => some name
  | _ => none

@[simp]
def gate? : OperationClause σ → Option (Gate σ)
  | .gate g => some g
  | _ => none

@[simp]
def control? : OperationClause σ → Option (Control σ)
  | .control body => some body
  | _ => none

end OperationClause

namespace OperationDecl

variable {σ : Type}

/-- The declaration with every clause of a body taken in. -/
def extended (d : OperationDecl σ) (body : List (OperationClause σ)) : OperationDecl σ :=
  { d with
    description? := (lastSaid? OperationClause.description? body).or d.description?
    method? := (lastSaid? OperationClause.method? body).or d.method?
    collectionLevel := d.collectionLevel || body.any OperationClause.isCollectionLevel
    params := d.params ++ body.flatMap OperationClause.declaredParams
    capability? := (lastSaid? OperationClause.capability? body).or d.capability?
    gate := (lastSaid? OperationClause.gate? body).getD d.gate
    control? := (lastSaid? OperationClause.control? body).or d.control? }

def DistinctParams (d : OperationDecl σ) : Prop := (d.params.map Parameter.name).Nodup

/-! ## Parameters -/

theorem addParam_of_fresh {d : OperationDecl σ} {p : Parameter}
    (h : p.name ∉ d.params.map Parameter.name) :
    d.addParam p = { d with params := d.params ++ [p] } := by
  have hany : ¬ (d.params.any fun q => q.name == p.name) = true := by
    simpa using h
  simp [addParam, hany]

theorem addParam_of_repeated {d : OperationDecl σ} {p : Parameter}
    (h : p.name ∈ d.params.map Parameter.name) :
    d.addParam p = { d with faults := d.faults ++ [.repeatedParameter d.name p.name] } := by
  have hany : (d.params.any fun q => q.name == p.name) = true := by
    simpa using h
  rw [addParam, if_pos hany]

theorem faults_addParam_of_repeated {d : OperationDecl σ} {p : Parameter}
    (h : p.name ∈ d.params.map Parameter.name) : (d.addParam p).faults ≠ [] := by
  simp [addParam_of_repeated h]

theorem faults_foldl_addParam_ne_nil {d : OperationDecl σ} (h : d.faults ≠ [])
    (ps : List Parameter) : (ps.foldl addParam d).faults ≠ [] := by
  induction ps generalizing d with
  | nil =>
      exact h
  | cons p rest ih =>
      -- a step either records one fault more or changes no fault
      refine ih ?_
      unfold addParam
      split
      · simp
      · exact h

theorem foldl_addParam_of_distinct {d : OperationDecl σ} {ps : List Parameter}
    (h : ((d.params ++ ps).map Parameter.name).Nodup) :
    ps.foldl addParam d = { d with params := d.params ++ ps } := by
  induction ps generalizing d with
  | nil =>
      simp
  | cons p rest ih =>
      have hfresh : p.name ∉ d.params.map Parameter.name := by
        rw [List.map_append, List.map_cons] at h
        intro hmem
        exact (List.nodup_append.1 h).2.2 _ hmem _ List.mem_cons_self rfl
      rw [List.foldl_cons, addParam_of_fresh hfresh, ih (by simpa using h)]
      simp

theorem distinct_of_faults_foldl_addParam {d : OperationDecl σ} {ps : List Parameter}
    (hd : d.DistinctParams) (h : (ps.foldl addParam d).faults = []) :
    ((d.params ++ ps).map Parameter.name).Nodup := by
  induction ps generalizing d with
  | nil =>
      simpa [DistinctParams] using hd
  | cons p rest ih =>
      by_cases hmem : p.name ∈ d.params.map Parameter.name
      · exact absurd h (faults_foldl_addParam_ne_nil (faults_addParam_of_repeated hmem) rest)
      · rw [List.foldl_cons, addParam_of_fresh hmem] at h
        have hd' : ({ d with params := d.params ++ [p] } : OperationDecl σ).DistinctParams := by
          unfold DistinctParams
          exact nodup_map_concat_iff.2 ⟨hmem, hd⟩
        simpa using ih hd' h

/-! ## Bodies -/

theorem extended_nil (d : OperationDecl σ) : d.extended [] = d := by
  simp [extended]

theorem extended_cons (d : OperationDecl σ) (clause : OperationClause σ)
    (rest : List (OperationClause σ)) :
    d.extended (clause :: rest) = (d.extended [clause]).extended rest := by
  cases clause <;> simp [extended]

/-- The declaration with all that a clause says taken in, its parameters apart. -/
def besidesParams (d : OperationDecl σ) (clause : OperationClause σ) : OperationDecl σ :=
  { d.extended [clause] with params := d.params }

theorem apply_eq_foldl_addParam (d : OperationDecl σ) (clause : OperationClause σ) :
    d.apply clause = clause.declaredParams.foldl addParam (d.besidesParams clause) := by
  cases clause <;> simp [apply, besidesParams, extended]

theorem params_extended (d : OperationDecl σ) (body : List (OperationClause σ)) :
    (d.extended body).params = d.params ++ body.flatMap OperationClause.declaredParams := rfl

theorem apply_eq_extended {d : OperationDecl σ} {clause : OperationClause σ}
    (h : (d.extended [clause]).DistinctParams) : d.apply clause = d.extended [clause] := by
  have hp : (((d.besidesParams clause).params ++ clause.declaredParams).map
      Parameter.name).Nodup := by
    simpa [DistinctParams, params_extended, besidesParams] using h
  rw [apply_eq_foldl_addParam, foldl_addParam_of_distinct hp]
  simp [besidesParams, extended]

theorem distinctParams_of_faults_apply {d : OperationDecl σ} {clause : OperationClause σ}
    (hd : d.DistinctParams) (h : (d.apply clause).faults = []) :
    (d.extended [clause]).DistinctParams := by
  rw [apply_eq_foldl_addParam] at h
  have hp := distinct_of_faults_foldl_addParam (d := d.besidesParams clause) hd h
  simpa [DistinctParams, params_extended, besidesParams] using hp

theorem faults_foldl_apply_ne_nil {d : OperationDecl σ} (h : d.faults ≠ [])
    (body : List (OperationClause σ)) : (body.foldl apply d).faults ≠ [] := by
  induction body generalizing d with
  | nil =>
      exact h
  | cons clause rest ih =>
      refine ih ?_
      rw [apply_eq_foldl_addParam]
      exact faults_foldl_addParam_ne_nil (d := d.besidesParams clause) h _

theorem DistinctParams.first {d : OperationDecl σ} {clause : OperationClause σ}
    {rest : List (OperationClause σ)} (h : (d.extended (clause :: rest)).DistinctParams) :
    (d.extended [clause]).DistinctParams := by
  rw [extended_cons] at h
  unfold DistinctParams at h
  rw [params_extended, List.map_append] at h
  exact (List.nodup_append.1 h).1

/-- Gathering leaves nothing out of a body whose parameters have distinct names. -/
theorem foldl_apply_eq_extended {d : OperationDecl σ} {body : List (OperationClause σ)}
    (h : (d.extended body).DistinctParams) : body.foldl apply d = d.extended body := by
  induction body generalizing d with
  | nil =>
      exact (extended_nil d).symm
  | cons clause rest ih =>
      have hrest : ((d.extended [clause]).extended rest).DistinctParams := by
        rw [← extended_cons]
        exact h
      rw [List.foldl_cons, apply_eq_extended h.first, ih hrest, ← extended_cons]

theorem distinctParams_of_faults_foldl_apply {d : OperationDecl σ}
    {body : List (OperationClause σ)} (hd : d.DistinctParams)
    (h : (body.foldl apply d).faults = []) : (d.extended body).DistinctParams := by
  induction body generalizing d with
  | nil =>
      rw [extended_nil]
      exact hd
  | cons clause rest ih =>
      -- what the first clause records would still be there at the end
      have hclause : (d.apply clause).faults = [] := by
        by_contra hne
        exact faults_foldl_apply_ne_nil hne rest h
      have hfirst := distinctParams_of_faults_apply hd hclause
      rw [List.foldl_cons, apply_eq_extended hfirst] at h
      rw [extended_cons]
      exact ih hfirst h

/-- A body is gathered without a fault exactly when its parameters have distinct names. -/
theorem faults_foldl_apply_iff {d : OperationDecl σ} {body : List (OperationClause σ)}
    (hd : d.DistinctParams) (hf : d.faults = []) :
    (body.foldl apply d).faults = [] ↔ (d.extended body).DistinctParams := by
  constructor
  · exact distinctParams_of_faults_foldl_apply hd
  · intro h
    rw [foldl_apply_eq_extended h]
    exact hf

end OperationDecl
end ResourceRouting
