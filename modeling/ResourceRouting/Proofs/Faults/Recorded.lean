import ResourceRouting.Proofs.Faults.Offences

/-!
# Recorded — which faults are recorded where

Gathering hands every offence to the declaration that it is about, and each declaration keeps its
own. So it does not keep the order in which offences about several declarations are made, but it
keeps the order of those that are about one and the same.

* `CollectionDecl.recorded`, `ApiDecl.recorded`: the faults that were recorded, declaration by
  declaration.
* `ApiDecl.faultsAt_recorded_ofClauses`: they are the offences of the clauses, for every declaration
  in the order in which they are made.
* `ApiDecl.offencesAll_eq_nil_iff`: clauses that do not offend are well declared.
-/

namespace ResourceRouting

variable {σ : Type}

/-! ## Operations -/

namespace OperationDecl

theorem name_addParam (d : OperationDecl σ) (p : Parameter) : (d.addParam p).name = d.name := by
  unfold addParam
  split <;> rfl

theorem name_foldl_addParam (d : OperationDecl σ) (ps : List Parameter) :
    (ps.foldl addParam d).name = d.name := by
  induction ps generalizing d with
  | nil => rfl
  | cons p rest ih => rw [List.foldl_cons, ih, name_addParam]

theorem mem_params_addParam_iff {d : OperationDecl σ} {p : Parameter} {name : String} :
    name ∈ (d.addParam p).params.map Parameter.name ↔
      name ∈ d.params.map Parameter.name ++ [p.name] := by
  by_cases hmem : p.name ∈ d.params.map Parameter.name
  · rw [addParam_of_repeated hmem]
    exact (mem_concat_iff_of_mem hmem).symm
  · rw [addParam_of_fresh hmem, List.map_append, List.map_singleton]

theorem faults_addParam (d : OperationDecl σ) (p : Parameter) :
    (d.addParam p).faults = d.faults ++ (if p.name ∈ d.params.map Parameter.name then
      [.repeatedParameter d.name p.name] else []) := by
  by_cases hmem : p.name ∈ d.params.map Parameter.name
  · rw [addParam_of_repeated hmem, if_pos hmem]
  · rw [addParam_of_fresh hmem, if_neg hmem, List.append_nil]

/-- Parameters one after the other record a fault for each that repeats a name. -/
theorem faults_foldl_addParam {d : OperationDecl σ} {before : List String}
    (hbefore : ∀ name, name ∈ d.params.map Parameter.name ↔ name ∈ before) (ps : List Parameter) :
    (ps.foldl addParam d).faults =
        d.faults ++ (repeats before (ps.map Parameter.name)).map (.repeatedParameter d.name) ∧
      ∀ name, name ∈ (ps.foldl addParam d).params.map Parameter.name ↔
        name ∈ before ++ ps.map Parameter.name := by
  -- a parameter that was left out has the name of one that is there, so the names are all known
  induction ps generalizing d before with
  | nil =>
      simpa [repeats] using hbefore
  | cons p rest ih =>
      have hnext : ∀ name, name ∈ (d.addParam p).params.map Parameter.name ↔
          name ∈ before ++ [p.name] := by
        intro name
        rw [mem_params_addParam_iff, List.mem_append, List.mem_append, hbefore]
      rcases ih hnext with ⟨hfaults, hnames⟩
      refine ⟨?_, ?_⟩
      · rw [List.foldl_cons, hfaults, faults_addParam, name_addParam, List.map_cons, repeats,
          List.map_append, List.append_assoc]
        simp only [hbefore]
        split <;> rfl
      · intro name
        rw [List.foldl_cons, hnames, List.map_cons, List.append_assoc, List.singleton_append]

theorem faults_foldl_apply {d : OperationDecl σ} {before : List String}
    (hbefore : ∀ name, name ∈ d.params.map Parameter.name ↔ name ∈ before)
    (body : List (OperationClause σ)) :
    (body.foldl apply d).name = d.name ∧
      (body.foldl apply d).faults = d.faults ++
        (repeats before ((body.flatMap OperationClause.declaredParams).map Parameter.name)).map
          (.repeatedParameter d.name) := by
  induction body generalizing d before with
  | nil =>
      simp [repeats]
  | cons clause rest ih =>
      have hclause := faults_foldl_addParam (d := d.besidesParams clause) hbefore
        clause.declaredParams
      have hname : (d.apply clause).name = d.name := by
        rw [apply_eq_foldl_addParam, name_foldl_addParam]
        rfl
      rw [← apply_eq_foldl_addParam] at hclause
      rcases ih hclause.2 with ⟨hrestName, hrestFaults⟩
      refine ⟨hrestName.trans hname, ?_⟩
      rw [List.foldl_cons, hrestFaults, hclause.1, hname, List.flatMap_cons, List.map_append,
        repeats_append, List.map_append, ← List.append_assoc]
      rfl

/-- A gathered operation has the faults of its body. -/
theorem faults_gathered (start : OperationDecl σ) (hparams : start.params = [])
    (hfaults : start.faults = []) (body : List (OperationClause σ)) :
    (body.foldl apply start).name = start.name ∧
      (body.foldl apply start).faults = OperationClause.offences start.name body := by
  have hbefore : ∀ name, name ∈ start.params.map Parameter.name ↔ name ∈ ([] : List String) := by
    simp [hparams]
  have hbody := faults_foldl_apply hbefore body
  rw [hfaults, List.nil_append] at hbody
  exact hbody

end OperationDecl

/-! ## Collections -/

/-- The faults that a collection recorded, and those of its operations after them. -/
def CollectionHead.recorded (above : List String) (h : CollectionHead σ) : List (Site × Fault) :=
  about (.collection (above ++ [h.name])) h.faults ++
    h.operations.flatMap fun o => about (.operation (above ++ [h.name]) o.name) o.faults

namespace CollectionDecl

mutual

/-- The faults that were recorded in a collection and all below it, under a lineage. -/
def recorded (above : List String) : CollectionDecl σ → List (Site × Fault)
  | ⟨head, children⟩ => head.recorded above ++ recordedAll (above ++ [head.name]) children

def recordedAll (above : List String) : List (CollectionDecl σ) → List (Site × Fault)
  | [] => []
  | d :: rest => recorded above d ++ recordedAll above rest

end

theorem recordedAll_eq_flatMap (above : List String) (ds : List (CollectionDecl σ)) :
    recordedAll above ds = ds.flatMap (recorded above) := by
  induction ds with
  | nil => rfl
  | cons d rest ih => rw [recordedAll, ih, List.flatMap_cons]

theorem recorded_eq (above : List String) (d : CollectionDecl σ) :
    d.recorded above = d.head.recorded above ++ recordedAll (above ++ [d.name]) d.children := by
  rcases d with ⟨head, children⟩
  rw [recorded]
  rfl

/-- Nothing is recorded where there is no fault at any depth. -/
theorem recorded_eq_nil_iff {d : CollectionDecl σ} :
    ∀ above, d.recorded above = [] ↔ d.Faultless := by
  induction d using CollectionDecl.induction with
  | step head children ih =>
      intro above
      have hhead : head.recorded above = [] ↔ head.Faultless := by
        simp [CollectionHead.recorded, CollectionHead.Faultless, about]
      have hchildren : recordedAll (above ++ [head.name]) children = [] ↔
          ∀ c ∈ children, c.Faultless := by
        rw [recordedAll_eq_flatMap, List.flatMap_eq_nil_iff]
        exact forall₂_congr fun c hc => ih c hc (above ++ [head.name])
      rw [recorded, List.append_eq_nil_iff, hhead, hchildren, faultless_iff]

/-- What is recorded below a lineage is about declarations that go on from it. -/
theorem length_lt_of_mem_recorded {d : CollectionDecl σ} :
    ∀ above, ∀ e ∈ d.recorded above, above.length < e.1.lineage.length := by
  induction d using CollectionDecl.induction with
  | step head children ih =>
      intro above e he
      rw [recorded, CollectionHead.recorded, recordedAll_eq_flatMap] at he
      simp only [List.mem_append, about, List.mem_map, List.mem_flatMap] at he
      rcases he with (⟨fault, -, rfl⟩ | ⟨o, -, fault, -, rfl⟩) | ⟨child, hchild, hbelow⟩
      · simp [Site.lineage]
      · simp [Site.lineage]
      · have hlength := ih child hchild (above ++ [head.name]) e hbelow
        rw [List.length_append, List.length_singleton] at hlength
        omega

theorem ne_of_mem_recordedAll {above : List String} {ds : List (CollectionDecl σ)} {site : Site}
    (hsite : site.lineage.length ≤ above.length) : ∀ e ∈ recordedAll above ds, e.1 ≠ site := by
  rw [recordedAll_eq_flatMap]
  intro e he heq
  rcases List.mem_flatMap.1 he with ⟨d, -, hmem⟩
  have hlength := length_lt_of_mem_recorded above e hmem
  rw [heq] at hlength
  omega

/-- The operations and the subcollections of a collection are those that the clauses declare,
whatever was left out because it repeats a name. -/
structure Follows (d : CollectionDecl σ) (before : List (CollectionClause σ)) : Prop where
  operations : ∀ name, name ∈ d.head.operations.map OperationDecl.name ↔
    name ∈ before.filterMap CollectionClause.operationName?
  children : ∀ name, name ∈ d.children.map CollectionDecl.name ↔
    name ∈ before.filterMap CollectionClause.childName?

theorem follows_empty (name : String) : Follows (⟨{ name }, []⟩ : CollectionDecl σ) [] :=
  ⟨fun _ => Iff.rfl, fun _ => Iff.rfl⟩

theorem recorded_empty (above : List String) (name : String) :
    recorded above (⟨{ name }, []⟩ : CollectionDecl σ) = [] := rfl

/-! ### One clause -/

theorem faultsAt_recordFault (d : CollectionDecl σ) (fault : Fault) (above : List String)
    (site : Site) :
    faultsAt site ((d.recordFault fault).recorded above) =
      faultsAt site (d.recorded above ++
        about (.collection (above ++ [d.name])) [fault]) := by
  -- the fault comes before those of the operations and of what is below, which are about others
  have hlater : ∀ e ∈ (d.head.operations.flatMap fun o =>
      about (.operation (above ++ [d.head.name]) o.name) o.faults) ++
        recordedAll (above ++ [d.head.name]) d.children,
      e.1 ≠ .collection (above ++ [d.head.name]) := by
    rw [List.forall_mem_append]
    refine ⟨?_, ne_of_mem_recordedAll (Nat.le_refl _)⟩
    intro e he
    rcases List.mem_flatMap.1 he with ⟨o, -, ho⟩
    rw [fst_of_mem_about ho]
    exact Site.noConfusion
  have hcomm := faultsAt_about_append_comm hlater [fault] site
  rw [recorded_eq, recorded_eq, CollectionHead.recorded, CollectionHead.recorded]
  simp only [recordFault, name, about, List.map_append, List.append_assoc, faultsAt_append]
    at hcomm ⊢
  rw [hcomm]

/-- An operation of a new name brings its faults with it. -/
theorem faultsAt_addOperation (d : CollectionDecl σ) (o : OperationDecl σ) (above : List String)
    (site : Site) :
    faultsAt site ((d.addOperation o).recorded above) =
      faultsAt site (d.recorded above ++
        if o.name ∈ d.head.operations.map OperationDecl.name then
          about (.collection (above ++ [d.name])) [.repeatedOperation d.name o.name]
        else about (.operation (above ++ [d.name]) o.name) o.faults) := by
  by_cases hmem : o.name ∈ d.head.operations.map OperationDecl.name
  · rw [if_pos hmem, addOperation_of_repeated hmem, faultsAt_recordFault]
  · have hlater : ∀ e ∈ recordedAll (above ++ [d.head.name]) d.children,
        e.1 ≠ .operation (above ++ [d.head.name]) o.name :=
      ne_of_mem_recordedAll (Nat.le_refl _)
    have hcomm := faultsAt_about_append_comm hlater o.faults site
    rw [if_neg hmem, addOperation_of_fresh hmem, recorded_eq, recorded_eq,
      CollectionHead.recorded, CollectionHead.recorded]
    simp only [name, List.flatMap_append, List.flatMap_singleton, List.append_assoc,
      faultsAt_append] at hcomm ⊢
    rw [hcomm]

/-- A subcollection of a new name brings with it what was recorded in it. -/
theorem faultsAt_addChild (d c : CollectionDecl σ) (above : List String) (site : Site) :
    faultsAt site ((d.addChild c).recorded above) =
      faultsAt site (d.recorded above ++
        if c.name ∈ d.children.map name then
          about (.collection (above ++ [d.name])) [.repeatedChild d.name c.name]
        else c.recorded (above ++ [d.name])) := by
  by_cases hmem : c.name ∈ d.children.map name
  · rw [if_pos hmem, addChild_of_repeated hmem, faultsAt_recordFault]
  · rw [if_neg hmem, addChild_of_fresh hmem, recorded_eq, recorded_eq, recordedAll_eq_flatMap,
      recordedAll_eq_flatMap, List.flatMap_append, List.flatMap_singleton, List.append_assoc]
    rfl

/-! ### Names -/

theorem mem_operations_addOperation_iff {d : CollectionDecl σ} {o : OperationDecl σ}
    {name : String} :
    name ∈ (d.addOperation o).head.operations.map OperationDecl.name ↔
      name ∈ d.head.operations.map OperationDecl.name ++ [o.name] := by
  by_cases hmem : o.name ∈ d.head.operations.map OperationDecl.name
  · rw [addOperation_of_repeated hmem]
    exact (mem_concat_iff_of_mem hmem).symm
  · rw [addOperation_of_fresh hmem, List.map_append, List.map_singleton]

theorem mem_children_addChild_iff {d c : CollectionDecl σ} {name : String} :
    name ∈ (d.addChild c).children.map CollectionDecl.name ↔
      name ∈ d.children.map CollectionDecl.name ++ [c.name] := by
  by_cases hmem : c.name ∈ d.children.map CollectionDecl.name
  · rw [addChild_of_repeated hmem]
    exact (mem_concat_iff_of_mem hmem).symm
  · rw [addChild_of_fresh hmem, List.map_append, List.map_singleton]

theorem children_addOperation (d : CollectionDecl σ) (o : OperationDecl σ) :
    (d.addOperation o).children = d.children := by
  unfold addOperation
  split <;> rfl

theorem operations_addChild (d c : CollectionDecl σ) :
    (d.addChild c).head.operations = d.head.operations := by
  unfold addChild
  split <;> rfl

section Follows

variable {d : CollectionDecl σ} {before : List (CollectionClause σ)} (h : d.Follows before)
include h

theorem Follows.silent {clause : CollectionClause σ} {d' : CollectionDecl σ}
    (hoperations : d'.head.operations = d.head.operations) (hchildren : d'.children = d.children)
    (hoperation : clause.operationName? = none) (hchild : clause.childName? = none) :
    d'.Follows (before ++ [clause]) := by
  refine ⟨?_, ?_⟩
  · simpa [hoperations, hoperation, List.filterMap_cons] using h.operations
  · simpa [hchildren, hchild, List.filterMap_cons] using h.children

theorem Follows.addOperation {o : OperationDecl σ} {clause : CollectionClause σ}
    (hoperation : clause.operationName? = some o.name) (hchild : clause.childName? = none) :
    (d.addOperation o).Follows (before ++ [clause]) := by
  refine ⟨fun name => ?_, fun name => ?_⟩
  · rw [mem_operations_addOperation_iff, List.mem_append, h.operations]
    simp [hoperation]
  · rw [children_addOperation, h.children]
    simp [hchild]

theorem Follows.addChild {c : CollectionDecl σ} {clause : CollectionClause σ}
    (hoperation : clause.operationName? = none) (hchild : clause.childName? = some c.name) :
    (d.addChild c).Follows (before ++ [clause]) := by
  refine ⟨fun name => ?_, fun name => ?_⟩
  · rw [operations_addChild, h.operations]
    simp [hoperation]
  · rw [mem_children_addChild_iff, List.mem_append, h.children]
    simp [hchild]

theorem Follows.apply (clause : CollectionClause σ) :
    (d.apply clause).Follows (before ++ [clause]) := by
  cases clause with
  | operation o body =>
      have hname := (OperationDecl.faults_gathered { name := o } rfl rfl body).1
      exact h.addOperation (congrArg some hname.symm) rfl
  | action o body =>
      have hname := (OperationDecl.faults_gathered
        { name := o, customMethod? := some .post } rfl rfl body).1
      exact h.addOperation (congrArg some hname.symm) rfl
  | collection child body =>
      rw [CollectionDecl.apply]
      exact h.addChild rfl (congrArg some (name_ofClauses child body).symm)
  | _ =>
      exact h.silent rfl rfl rfl rfl

/-- A gathered operation brings the offences of its body with it. -/
theorem Follows.faultsAt_addOperation {start : OperationDecl σ} (hparams : start.params = [])
    (hfaults : start.faults = []) (body : List (OperationClause σ)) (above : List String)
    (site : Site) :
    faultsAt site ((d.addOperation (body.foldl OperationDecl.apply start)).recorded above) =
      faultsAt site (d.recorded above ++
        if start.name ∈ before.filterMap CollectionClause.operationName? then
          about (.collection (above ++ [d.name])) [.repeatedOperation d.name start.name]
        else
          about (.operation (above ++ [d.name]) start.name)
            (OperationClause.offences start.name body)) := by
  rcases OperationDecl.faults_gathered start hparams hfaults body with ⟨hname, hbody⟩
  rw [CollectionDecl.faultsAt_addOperation, hname, hbody]
  simp only [h.operations]

end Follows

/-! ### All clauses -/

-- by the clauses; a subcollection brings what was recorded in it only if its name is new, which the
-- clauses before it tell
mutual

/-- Taking a clause in records its offences, each with the declaration that it is about. -/
theorem faultsAt_recorded_apply : ∀ (clause : CollectionClause σ) {d : CollectionDecl σ}
    {before : List (CollectionClause σ)}, d.Follows before → ∀ (above : List String) (site : Site),
      faultsAt site ((d.apply clause).recorded above) =
        faultsAt site (d.recorded above ++ clause.offences above d.name before)
  | .description _, d, _, _, above, site => by
      rw [recorded_eq, recorded_eq, CollectionClause.offences, List.append_nil]
      rfl
  | .withId _, d, _, _, above, site => by
      rw [recorded_eq, recorded_eq, CollectionClause.offences, List.append_nil]
      rfl
  | .noMember, d, _, _, above, site => by
      rw [recorded_eq, recorded_eq, CollectionClause.offences, List.append_nil]
      rfl
  | .operation _ body, _, _, h, above, site => by
      rw [apply, OperationDecl.operation, h.faultsAt_addOperation rfl rfl,
        CollectionClause.offences]
  | .action _ body, _, _, h, above, site => by
      rw [apply, OperationDecl.action, h.faultsAt_addOperation rfl rfl,
        CollectionClause.offences]
  | .collection child body, d, before, h, above, site => by
      have hbody := faultsAt_recorded_applyAll body (follows_empty child) (above ++ [d.name])
      have hname : (applyAll ⟨{ name := child }, []⟩ body).name = child := name_ofClauses child body
      simp only [recorded_empty, List.nil_append] at hbody
      rw [apply, faultsAt_addChild, hname, CollectionClause.offences, faultsAt_append,
        faultsAt_append]
      simp only [h.children]
      split
      · rfl
      · rw [hbody]
        rfl
  | .control, d, _, _, above, site => by
      rw [apply, faultsAt_recordFault, CollectionClause.offences]

theorem faultsAt_recorded_applyAll : ∀ (body : List (CollectionClause σ)) {d : CollectionDecl σ}
    {before : List (CollectionClause σ)}, d.Follows before → ∀ (above : List String) (site : Site),
      faultsAt site ((d.applyAll body).recorded above) =
        faultsAt site (d.recorded above ++ CollectionClause.offencesAll above d.name before body)
  | [], d, _, _, above, site => by
      rw [applyAll, CollectionClause.offencesAll, List.append_nil]
  | clause :: rest, d, before, h, above, site => by
      have hclause := faultsAt_recorded_apply clause h above site
      rw [applyAll, faultsAt_recorded_applyAll rest (h.apply clause) above site, name_apply,
        CollectionClause.offencesAll, faultsAt_append, hclause, faultsAt_append, faultsAt_append,
        faultsAt_append, List.append_assoc]

end

end CollectionDecl

/-! ## Applications -/

namespace ApiDecl

/-- The faults that an application recorded itself, and then those of its collections. -/
def recorded (d : ApiDecl σ) : List (Site × Fault) :=
  about .application d.faults ++ CollectionDecl.recordedAll [] d.collections

/-- The features are those of the clauses, and the root collections have the names that the
clauses declare. -/
structure Follows (d : ApiDecl σ) (before : List (ApiClause σ)) : Prop where
  features : d.features =
    (before.filterMap ApiClause.featureCall?).foldl FeatureRegistry.declareOrKeep {}
  roots : ∀ name, name ∈ d.collections.map CollectionDecl.name ↔
    name ∈ (before.filterMap ApiClause.collectionCall?).map Prod.fst

theorem faultsAt_recordFault (d : ApiDecl σ) (fault : Fault) (site : Site) :
    faultsAt site (d.recordFault fault).recorded =
      faultsAt site (d.recorded ++ about .application [fault]) := by
  have hlater : ∀ e ∈ CollectionDecl.recordedAll [] d.collections, e.1 ≠ .application :=
    CollectionDecl.ne_of_mem_recordedAll (Nat.le_refl _)
  have hcomm := faultsAt_about_append_comm hlater [fault] site
  simp only [recorded, recordFault, about, List.map_append, List.append_assoc, faultsAt_append]
    at hcomm ⊢
  rw [hcomm]

theorem faultsAt_addFeature (d : ApiDecl σ) (name target : String) (body : List FeatureClause)
    (site : Site) :
    faultsAt site (d.addFeature name target body).recorded =
      faultsAt site (d.recorded ++
        about .application (failure? (d.features.declare name target body)).toList) := by
  unfold addFeature
  cases d.features.declare name target body with
  | ok features => rw [failure?, Option.toList_none, about, List.map_nil, List.append_nil]; rfl
  | error fault => exact faultsAt_recordFault d fault site

theorem faultsAt_addCollection (d : ApiDecl σ) (c : CollectionDecl σ) (site : Site) :
    faultsAt site (d.addCollection c).recorded =
      faultsAt site (d.recorded ++
        if c.name ∈ d.collections.map CollectionDecl.name then
          about .application [.repeatedRoot d.name c.name]
        else c.recorded []) := by
  by_cases hmem : c.name ∈ d.collections.map CollectionDecl.name
  · rw [if_pos hmem, addCollection_of_repeated hmem, faultsAt_recordFault]
  · rw [if_neg hmem, addCollection_of_fresh hmem, recorded, recorded,
      CollectionDecl.recordedAll_eq_flatMap, CollectionDecl.recordedAll_eq_flatMap,
      List.flatMap_append, List.flatMap_singleton, List.append_assoc]

theorem mem_roots_addCollection_iff {d : ApiDecl σ} {c : CollectionDecl σ} {name : String} :
    name ∈ (d.addCollection c).collections.map CollectionDecl.name ↔
      name ∈ d.collections.map CollectionDecl.name ++ [c.name] := by
  by_cases hmem : c.name ∈ d.collections.map CollectionDecl.name
  · rw [addCollection_of_repeated hmem]
    exact (mem_concat_iff_of_mem hmem).symm
  · rw [addCollection_of_fresh hmem, List.map_append, List.map_singleton]

section Follows

variable {d : ApiDecl σ} {before : List (ApiClause σ)} (h : d.Follows before)
include h

theorem Follows.apply (clause : ApiClause σ) : (d.apply clause).Follows (before ++ [clause]) := by
  cases clause with
  | feature name target body =>
      refine ⟨?_, fun other => ?_⟩
      · rw [ApiDecl.apply, features_addFeature, h.features]
        simp
      · rw [ApiDecl.apply, collections_addFeature, h.roots]
        simp
  | collection name body =>
      refine ⟨?_, fun other => ?_⟩
      · rw [ApiDecl.apply, (settings_addCollection d _).2.2.2, h.features]
        simp [List.filterMap_cons]
      · rw [ApiDecl.apply, mem_roots_addCollection_iff, List.mem_append, h.roots,
          CollectionDecl.name_ofClauses]
        simp
  | _ =>
      refine ⟨?_, fun other => ?_⟩
      · simpa [ApiDecl.apply, List.filterMap_cons] using h.features
      · simpa [ApiDecl.apply, List.filterMap_cons] using h.roots other

theorem Follows.faultsAt_apply (clause : ApiClause σ) (site : Site) :
    faultsAt site (d.apply clause).recorded =
      faultsAt site (d.recorded ++ clause.offences d.name before) := by
  cases clause with
  | feature name target body =>
      rw [ApiDecl.apply, faultsAt_addFeature, h.features, ApiClause.offences]
  | collection name body =>
      have hbody := CollectionDecl.faultsAt_recorded_applyAll body
        (CollectionDecl.follows_empty name) [] site
      rw [CollectionDecl.recorded_empty, List.nil_append] at hbody
      rw [ApiDecl.apply, faultsAt_addCollection, CollectionDecl.name_ofClauses,
        ApiClause.offences, faultsAt_append, faultsAt_append]
      simp only [h.roots]
      split
      · rfl
      · rw [CollectionDecl.ofClauses, hbody]
        rfl
  | _ =>
      rw [ApiClause.offences, List.append_nil]
      rfl

end Follows

theorem faultsAt_foldl_apply {clauses : List (ApiClause σ)} {d : ApiDecl σ}
    {before : List (ApiClause σ)} (h : d.Follows before) (site : Site) :
    faultsAt site (clauses.foldl apply d).recorded =
      faultsAt site (d.recorded ++ ApiClause.offencesAfter d.name before clauses) := by
  -- by the clauses; what is gathered so far follows those before
  induction clauses generalizing d before with
  | nil =>
      rw [ApiClause.offencesAfter, List.append_nil]
      rfl
  | cons clause rest ih =>
      rw [List.foldl_cons, ih (h.apply clause), name_apply, ApiClause.offencesAfter,
        faultsAt_append, h.faultsAt_apply clause, faultsAt_append, faultsAt_append,
        faultsAt_append, List.append_assoc]

/-- Gathering keeps every offence with the declaration that it is about, and there in the order in
which they are made. -/
theorem faultsAt_recorded_ofClauses (name : String) (clauses : List (ApiClause σ)) (site : Site) :
    faultsAt site (ofClauses name clauses).recorded =
      faultsAt site (ApiClause.offencesAll name clauses) :=
  faultsAt_foldl_apply ⟨rfl, fun _ => Iff.rfl⟩ site

/-- No clause offends exactly when all are well declared, at every depth. -/
theorem offencesAll_eq_nil_iff {name : String} {clauses : List (ApiClause σ)} :
    ApiClause.offencesAll name clauses = [] ↔ WellDeclared clauses := by
  have hrecorded : (ofClauses name clauses).recorded = [] ↔ (ofClauses name clauses).Faultless := by
    have hcollections : CollectionDecl.recordedAll [] (ofClauses name clauses).collections = [] ↔
        ∀ c ∈ (ofClauses name clauses).collections, c.Faultless := by
      rw [CollectionDecl.recordedAll_eq_flatMap, List.flatMap_eq_nil_iff]
      exact forall₂_congr fun c _ => CollectionDecl.recorded_eq_nil_iff []
    rw [recorded, List.append_eq_nil_iff, hcollections, about, List.map_eq_nil_iff, Faultless]
  have hdeclared : (ofClauses name clauses).Faultless ↔ WellDeclared clauses :=
    faultless_ofClauses_iff
  rw [← hdeclared, ← hrecorded, eq_nil_iff_faultsAt, eq_nil_iff_faultsAt]
  simp only [faultsAt_recorded_ofClauses]

end ApiDecl
end ResourceRouting
