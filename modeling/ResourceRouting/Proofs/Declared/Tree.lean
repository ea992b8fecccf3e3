import ResourceRouting.Collection
import ResourceRouting.Proofs.Declared.Operation

/-!
# Tree — what the clauses of a collection declare

`CollectionDecl.extended` reads the clauses of a collection with every operation and every
subcollection taken in, also those that gathering leaves out because their names repeat.

* `CollectionDecl.Sound`: names are distinct within every collection of a tree.
* `CollectionDecl.faultless_ofClauses_iff`: gathering records no fault at any depth exactly when
  the declared tree is sound and no collection has a body of its own.
* `CollectionDecl.ofClauses_eq_declared`: what is gathered is then the declared tree.
-/

namespace ResourceRouting

/-! ## What one clause says -/

namespace CollectionClause

variable {σ : Type}

@[simp]
def description? : CollectionClause σ → Option String
  | .description text => some text
  | _ => none

@[simp]
def withId? : CollectionClause σ → Option String
  | .withId id => some id
  | _ => none

@[simp]
def isNoMember : CollectionClause σ → Bool
  | .noMember => true
  | _ => false

/-- The operation that a clause declares, with all of its parameters. -/
@[simp]
def operation? : CollectionClause σ → Option (OperationDecl σ)
  | .operation name body => some (OperationDecl.extended { name } body)
  | .action name body => some (OperationDecl.extended { name, customMethod? := some .post } body)
  | _ => none

mutual

/-- The bodies of the collections that a clause declares, at every depth. -/
def bodies : CollectionClause σ → List (List (CollectionClause σ))
  | .collection _ body => body :: bodiesAll body
  | _ => []

def bodiesAll : List (CollectionClause σ) → List (List (CollectionClause σ))
  | [] => []
  | clause :: rest => bodies clause ++ bodiesAll rest

end

/-- No collection that the clauses belong to or declare has a body of its own. -/
def ControlFree (body : List (CollectionClause σ)) : Prop :=
  .control ∉ body ∧ ∀ b ∈ bodiesAll body, .control ∉ b

end CollectionClause

/-! ## Declared trees -/

/-- The head with every clause of a body taken in. -/
def CollectionHead.extended {σ : Type} (h : CollectionHead σ)
    (body : List (CollectionClause σ)) : CollectionHead σ :=
  { h with
    description? := (lastSaid? CollectionClause.description? body).or h.description?
    idParam := (lastSaid? CollectionClause.withId? body).getD h.idParam
    customId := h.customId || body.any fun clause => clause.withId?.isSome
    noMember := h.noMember || body.any CollectionClause.isNoMember
    operations := h.operations ++ body.filterMap CollectionClause.operation? }

def CollectionHead.Faultless {σ : Type} (h : CollectionHead σ) : Prop :=
  h.faults = [] ∧ ∀ o ∈ h.operations, o.faults = []

namespace CollectionClause

variable {σ : Type}

mutual

/-- The subcollection that a clause declares, with all below it. -/
@[simp]
def child? : CollectionClause σ → Option (CollectionDecl σ)
  | .collection name body => some ⟨CollectionHead.extended { name } body, children body⟩
  | _ => none

@[simp]
def children : List (CollectionClause σ) → List (CollectionDecl σ)
  | [] => []
  | clause :: rest => (child? clause).toList ++ children rest

end

end CollectionClause

namespace CollectionDecl

variable {σ : Type}

/-- The declaration with every clause of a body taken in. -/
def extended (d : CollectionDecl σ) (body : List (CollectionClause σ)) : CollectionDecl σ :=
  ⟨d.head.extended body, d.children ++ CollectionClause.children body⟩

def declared (name : String) (body : List (CollectionClause σ)) : CollectionDecl σ :=
  extended ⟨{ name }, []⟩ body

mutual

/-- The declaration and all below it, each before its subcollections. -/
def walk : CollectionDecl σ → List (CollectionDecl σ)
  | ⟨head, children⟩ => ⟨head, children⟩ :: walkAll children

def walkAll : List (CollectionDecl σ) → List (CollectionDecl σ)
  | [] => []
  | d :: rest => walk d ++ walkAll rest

end

/-- Within the collection all names are distinct that have to be. -/
structure DistinctNames (d : CollectionDecl σ) : Prop where
  operations : (d.head.operations.map OperationDecl.name).Nodup
  children : (d.children.map name).Nodup
  params : ∀ o ∈ d.head.operations, o.DistinctParams

def Sound (d : CollectionDecl σ) : Prop := ∀ e ∈ d.walk, e.DistinctNames

/-- No fault was recorded at any depth. -/
def Faultless (d : CollectionDecl σ) : Prop := ∀ e ∈ d.walk, e.head.Faultless

/-! ## Walking -/

/-- What a declaration takes over from those below it holds of every declaration. -/
@[elab_as_elim]
theorem induction {motive : CollectionDecl σ → Prop}
    (step : ∀ head children, (∀ d ∈ children, motive d) → motive ⟨head, children⟩) :
    ∀ d, motive d
  | ⟨head, children⟩ => step head children fun d _ => induction step d

theorem walkAll_eq_flatMap (ds : List (CollectionDecl σ)) : walkAll ds = ds.flatMap walk := by
  induction ds with
  | nil => rfl
  | cons d rest ih => rw [walkAll, ih, List.flatMap_cons]

theorem forall_mem_walk_iff {d : CollectionDecl σ} {P : CollectionDecl σ → Prop} :
    (∀ e ∈ d.walk, P e) ↔ P d ∧ ∀ c ∈ d.children, ∀ e ∈ c.walk, P e := by
  rcases d with ⟨head, children⟩
  rw [walk, walkAll_eq_flatMap]
  simp only [List.forall_mem_cons, List.mem_flatMap]
  constructor
  · rintro ⟨h, hall⟩
    exact ⟨h, fun c hc e he => hall e ⟨c, hc, he⟩⟩
  · rintro ⟨h, hall⟩
    refine ⟨h, ?_⟩
    rintro e ⟨c, hc, he⟩
    exact hall c hc e he

theorem faultless_iff {d : CollectionDecl σ} :
    d.Faultless ↔ d.head.Faultless ∧ ∀ c ∈ d.children, c.Faultless :=
  forall_mem_walk_iff

theorem sound_iff {d : CollectionDecl σ} :
    d.Sound ↔ d.DistinctNames ∧ ∀ c ∈ d.children, c.Sound :=
  forall_mem_walk_iff

/-! ## Taking clauses in one after the other -/

theorem extended_nil (d : CollectionDecl σ) : d.extended [] = d := by
  rcases d with ⟨head, children⟩
  cases head
  simp [extended, CollectionHead.extended]

theorem extended_description (d : CollectionDecl σ) (text : String) :
    d.extended [.description text] =
      { d with head := { d.head with description? := some text } } := by
  simp [extended, CollectionHead.extended, List.filterMap_cons]

theorem extended_withId (d : CollectionDecl σ) (id : String) :
    d.extended [.withId id] =
      { d with head := { d.head with idParam := id, customId := true } } := by
  simp [extended, CollectionHead.extended, List.filterMap_cons]

theorem extended_noMember (d : CollectionDecl σ) :
    d.extended [.noMember] = { d with head := { d.head with noMember := true } } := by
  simp [extended, CollectionHead.extended, List.filterMap_cons]

theorem extended_operation {clause : CollectionClause σ} {o : OperationDecl σ}
    (h : clause.operation? = some o) (d : CollectionDecl σ) :
    d.extended [clause] =
      { d with head := { d.head with operations := d.head.operations ++ [o] } } := by
  cases clause <;> simp_all [extended, CollectionHead.extended]

theorem extended_collection (d : CollectionDecl σ) (name : String)
    (body : List (CollectionClause σ)) :
    d.extended [.collection name body] =
      { d with children := d.children ++ [declared name body] } := by
  rcases d with ⟨head, children⟩
  cases head
  simp [extended, CollectionHead.extended, declared, List.filterMap_cons]

theorem extended_cons (d : CollectionDecl σ) (clause : CollectionClause σ)
    (rest : List (CollectionClause σ)) :
    d.extended (clause :: rest) = (d.extended [clause]).extended rest := by
  cases clause <;> simp [extended, CollectionHead.extended, List.filterMap_cons]

theorem operations_extended (d : CollectionDecl σ) (body : List (CollectionClause σ)) :
    (d.extended body).head.operations =
      d.head.operations ++ body.filterMap CollectionClause.operation? := rfl

theorem children_extended (d : CollectionDecl σ) (body : List (CollectionClause σ)) :
    (d.extended body).children = d.children ++ CollectionClause.children body := rfl

/-- Names that are distinct after a body were distinct before it. -/
theorem Sound.before {d : CollectionDecl σ} {body : List (CollectionClause σ)}
    (h : (d.extended body).Sound) : d.Sound := by
  rcases sound_iff.1 h with ⟨hnames, hchildren⟩
  refine sound_iff.2 ⟨⟨?_, ?_, ?_⟩, ?_⟩
  · have hops := hnames.operations
    rw [operations_extended, List.map_append] at hops
    exact (List.nodup_append.1 hops).1
  · have hch := hnames.children
    rw [children_extended, List.map_append] at hch
    exact (List.nodup_append.1 hch).1
  · intro o ho
    exact hnames.params o (List.mem_append_left _ ho)
  · intro c hc
    exact hchildren c (List.mem_append_left _ hc)

theorem Sound.first {d : CollectionDecl σ} {clause : CollectionClause σ}
    {rest : List (CollectionClause σ)} (h : (d.extended (clause :: rest)).Sound) :
    (d.extended [clause]).Sound := by
  rw [extended_cons] at h
  exact h.before

end CollectionDecl

namespace CollectionClause

variable {σ : Type}

theorem controlFree_cons_iff {clause : CollectionClause σ} {rest : List (CollectionClause σ)} :
    ControlFree (clause :: rest) ↔ ControlFree [clause] ∧ ControlFree rest := by
  simp only [ControlFree, bodiesAll, List.append_nil, List.forall_mem_append,
    List.mem_cons, List.not_mem_nil, or_false, not_or]
  constructor
  · rintro ⟨⟨hclause, hrest⟩, hbodies, hall⟩
    exact ⟨⟨hclause, hbodies⟩, hrest, hall⟩
  · rintro ⟨⟨hclause, hbodies⟩, hrest, hall⟩
    exact ⟨⟨hclause, hrest⟩, hbodies, hall⟩

theorem controlFree_collection_iff {name : String} {body : List (CollectionClause σ)} :
    ControlFree [.collection name body] ↔ ControlFree body := by
  simp [ControlFree, bodiesAll, bodies]

theorem controlFree_singleton {clause : CollectionClause σ} (hclause : clause ≠ .control)
    (hbodies : clause.bodies = []) : ControlFree [clause] := by
  refine ⟨?_, ?_⟩
  · rw [List.mem_singleton]
    exact hclause.symm
  · simp [bodiesAll, hbodies]

theorem not_controlFree_control : ¬ ControlFree [(.control : CollectionClause σ)] := by
  simp [ControlFree]

end CollectionClause

/-! ## Gathering without a fault -/

namespace CollectionDecl

variable {σ : Type}

theorem addOperation_of_fresh {d : CollectionDecl σ} {o : OperationDecl σ}
    (h : o.name ∉ d.head.operations.map OperationDecl.name) :
    d.addOperation o =
      { d with head := { d.head with operations := d.head.operations ++ [o] } } := by
  have hany : ¬ (d.head.operations.any fun p => p.name == o.name) = true := by
    simpa using h
  simp [addOperation, hany]

theorem addOperation_of_repeated {d : CollectionDecl σ} {o : OperationDecl σ}
    (h : o.name ∈ d.head.operations.map OperationDecl.name) :
    d.addOperation o = d.recordFault (.repeatedOperation d.name o.name) := by
  have hany : (d.head.operations.any fun p => p.name == o.name) = true := by
    simpa using h
  rw [addOperation, if_pos hany]

theorem faults_addOperation_of_repeated {d : CollectionDecl σ} {o : OperationDecl σ}
    (h : o.name ∈ d.head.operations.map OperationDecl.name) :
    (d.addOperation o).head.faults ≠ [] := by
  simp [addOperation_of_repeated h, recordFault]

theorem addChild_of_fresh {d c : CollectionDecl σ} (h : c.name ∉ d.children.map name) :
    d.addChild c = { d with children := d.children ++ [c] } := by
  have hany : ¬ (d.children.any fun e => e.name == c.name) = true := by
    simpa using h
  simp [addChild, hany]

theorem addChild_of_repeated {d c : CollectionDecl σ} (h : c.name ∈ d.children.map name) :
    d.addChild c = d.recordFault (.repeatedChild d.name c.name) := by
  have hany : (d.children.any fun e => e.name == c.name) = true := by
    simpa using h
  rw [addChild, if_pos hany]

theorem faults_addChild_of_repeated {d c : CollectionDecl σ} (h : c.name ∈ d.children.map name) :
    (d.addChild c).head.faults ≠ [] := by
  simp [addChild_of_repeated h, recordFault]

/-- Gathering takes an operation in whole if its name and those of its parameters are new. -/
theorem addOperation_eq_extended {d : CollectionDecl σ} {start : OperationDecl σ}
    {body : List (OperationClause σ)} {clause : CollectionClause σ}
    (hclause : clause.operation? = some (start.extended body))
    (h : (d.extended [clause]).Sound) :
    d.addOperation (body.foldl OperationDecl.apply start) = d.extended [clause] := by
  rw [extended_operation hclause] at h ⊢
  have hroot := (sound_iff.1 h).1
  have hparams : (start.extended body).DistinctParams := hroot.params _ (by simp)
  rw [OperationDecl.foldl_apply_eq_extended hparams]
  exact addOperation_of_fresh (nodup_map_concat_iff.1 hroot.operations).1

mutual

theorem apply_eq_extended : ∀ (clause : CollectionClause σ) {d : CollectionDecl σ},
    (d.extended [clause]).Sound → CollectionClause.ControlFree [clause] →
      d.apply clause = d.extended [clause]
  | .description text, d, _, _ => (extended_description d text).symm
  | .withId id, d, _, _ => (extended_withId d id).symm
  | .noMember, d, _, _ => (extended_noMember d).symm
  | .operation _ _, _, h, _ => addOperation_eq_extended rfl h
  | .action _ _, _, h, _ => addOperation_eq_extended rfl h
  | .collection name body, d, h, hc => by
      -- the subcollection is gathered first, from nothing, and then taken in under its name
      rw [extended_collection] at h ⊢
      rcases sound_iff.1 h with ⟨hroot, hsound⟩
      have hchild : (declared name body).Sound := hsound _ (by simp)
      have hbody : applyAll ⟨{ name }, []⟩ body = declared name body :=
        applyAll_eq_extended body hchild (CollectionClause.controlFree_collection_iff.1 hc)
      rw [apply, hbody]
      exact addChild_of_fresh (nodup_map_concat_iff.1 hroot.children).1
  | .control, _, _, hc => absurd hc CollectionClause.not_controlFree_control

theorem applyAll_eq_extended : ∀ (body : List (CollectionClause σ)) {d : CollectionDecl σ},
    (d.extended body).Sound → CollectionClause.ControlFree body →
      d.applyAll body = d.extended body
  | [], d, _, _ => (extended_nil d).symm
  | clause :: rest, d, h, hc => by
      rcases CollectionClause.controlFree_cons_iff.1 hc with ⟨hclause, hrest⟩
      have hnext : ((d.extended [clause]).extended rest).Sound := by
        rw [← extended_cons]
        exact h
      rw [applyAll, apply_eq_extended clause h.first hclause,
        applyAll_eq_extended rest hnext hrest, ← extended_cons]

end

/-! ## Faults are never lost -/

/-- A declaration is faultless if it grew into one that is. -/
theorem Faultless.of_grown {d d' : CollectionDecl σ} (h : d'.Faultless)
    (hfaults : d'.head.faults = [] → d.head.faults = [])
    (hops : d.head.operations ⊆ d'.head.operations) (hchildren : d.children ⊆ d'.children) :
    d.Faultless := by
  rcases faultless_iff.1 h with ⟨⟨hhead, hparams⟩, hsub⟩
  exact faultless_iff.2 ⟨⟨hfaults hhead, fun o ho => hparams o (hops ho)⟩,
    fun c hc => hsub c (hchildren hc)⟩

theorem faultless_of_addOperation {d : CollectionDecl σ} {o : OperationDecl σ}
    (h : (d.addOperation o).Faultless) :
    d.Faultless ∧ o.faults = [] ∧ o.name ∉ d.head.operations.map OperationDecl.name := by
  by_cases hmem : o.name ∈ d.head.operations.map OperationDecl.name
  · exact absurd (faultless_iff.1 h).1.1 (faults_addOperation_of_repeated hmem)
  · rw [addOperation_of_fresh hmem] at h
    have ho : o.faults = [] := (faultless_iff.1 h).1.2 o (by simp)
    refine ⟨h.of_grown id ?_ (List.Subset.refl _), ho, hmem⟩
    exact List.subset_append_left _ _

theorem faultless_of_addChild {d c : CollectionDecl σ} (h : (d.addChild c).Faultless) :
    d.Faultless ∧ c.Faultless ∧ c.name ∉ d.children.map name := by
  by_cases hmem : c.name ∈ d.children.map name
  · exact absurd (faultless_iff.1 h).1.1 (faults_addChild_of_repeated hmem)
  · rw [addChild_of_fresh hmem] at h
    have hc : c.Faultless := (faultless_iff.1 h).2 c (by simp)
    refine ⟨h.of_grown id (List.Subset.refl _) ?_, hc, hmem⟩
    exact List.subset_append_left _ _

theorem not_faultless_recordFault (d : CollectionDecl σ) (fault : Fault) :
    ¬ (d.recordFault fault).Faultless := by
  intro h
  have hfaults : (d.recordFault fault).head.faults = [] := (faultless_iff.1 h).1.1
  simp [recordFault] at hfaults

theorem faultless_of_apply {d : CollectionDecl σ} {clause : CollectionClause σ}
    (h : (d.apply clause).Faultless) : d.Faultless := by
  cases clause with
  | description text =>
      exact h.of_grown id (List.Subset.refl _) (List.Subset.refl _)
  | withId id' =>
      exact h.of_grown id (List.Subset.refl _) (List.Subset.refl _)
  | noMember =>
      exact h.of_grown id (List.Subset.refl _) (List.Subset.refl _)
  | operation name body =>
      exact (faultless_of_addOperation h).1
  | action name body =>
      exact (faultless_of_addOperation h).1
  | collection name body =>
      rw [apply] at h
      exact (faultless_of_addChild h).1
  | control =>
      exact absurd h (not_faultless_recordFault d _)

theorem faultless_of_applyAll {d : CollectionDecl σ} {body : List (CollectionClause σ)}
    (h : (d.applyAll body).Faultless) : d.Faultless := by
  induction body generalizing d with
  | nil =>
      exact h
  | cons clause rest ih =>
      rw [applyAll] at h
      exact faultless_of_apply (ih h)

theorem sound_of_addOperation {d : CollectionDecl σ} {start : OperationDecl σ}
    {body : List (OperationClause σ)} {clause : CollectionClause σ}
    (hclause : clause.operation? = some (start.extended body)) (hstart : start.DistinctParams)
    (hd : d.Sound) (h : (d.addOperation (body.foldl OperationDecl.apply start)).Faultless) :
    (d.extended [clause]).Sound := by
  rcases faultless_of_addOperation h with ⟨-, ho, hfresh⟩
  have hparams := OperationDecl.distinctParams_of_faults_foldl_apply hstart ho
  rw [OperationDecl.foldl_apply_eq_extended hparams] at hfresh
  rcases sound_iff.1 hd with ⟨hroot, hsub⟩
  rw [extended_operation hclause]
  refine sound_iff.2 ⟨⟨?_, hroot.children, ?_⟩, hsub⟩
  · exact nodup_map_concat_iff.2 ⟨hfresh, hroot.operations⟩
  · intro o hmem
    rcases List.mem_append.1 hmem with hold | hnew
    · exact hroot.params o hold
    · rw [List.mem_singleton.1 hnew]
      exact hparams

/-- Soundness depends on the operations and subcollections only. -/
theorem Sound.of_same {d d' : CollectionDecl σ} (h : d.Sound)
    (hops : d'.head.operations = d.head.operations) (hchildren : d'.children = d.children) :
    d'.Sound := by
  rcases sound_iff.1 h with ⟨hroot, hsub⟩
  refine sound_iff.2 ⟨⟨?_, ?_, ?_⟩, ?_⟩
  · rw [hops]
    exact hroot.operations
  · rw [hchildren]
    exact hroot.children
  · rw [hops]
    exact hroot.params
  · rw [hchildren]
    exact hsub

theorem sound_empty (name : String) : (⟨{ name }, []⟩ : CollectionDecl σ).Sound :=
  sound_iff.2 ⟨⟨List.nodup_nil, List.nodup_nil, by simp⟩, by simp⟩

mutual

theorem sound_of_apply : ∀ (clause : CollectionClause σ) {d : CollectionDecl σ}, d.Sound →
    (d.apply clause).Faultless →
      (d.extended [clause]).Sound ∧ CollectionClause.ControlFree [clause]
  | .description text, d, hd, _ => by
      rw [extended_description]
      exact ⟨hd.of_same rfl rfl, CollectionClause.controlFree_singleton (by simp) rfl⟩
  | .withId id, d, hd, _ => by
      rw [extended_withId]
      exact ⟨hd.of_same rfl rfl, CollectionClause.controlFree_singleton (by simp) rfl⟩
  | .noMember, d, hd, _ => by
      rw [extended_noMember]
      exact ⟨hd.of_same rfl rfl, CollectionClause.controlFree_singleton (by simp) rfl⟩
  | .operation _ _, _, hd, h =>
      ⟨sound_of_addOperation rfl List.nodup_nil hd h,
        CollectionClause.controlFree_singleton (by simp) rfl⟩
  | .action _ _, _, hd, h =>
      ⟨sound_of_addOperation rfl List.nodup_nil hd h,
        CollectionClause.controlFree_singleton (by simp) rfl⟩
  | .collection name body, d, hd, h => by
      rw [apply] at h
      rcases faultless_of_addChild h with ⟨-, hchild, hfresh⟩
      rcases sound_of_applyAll body (sound_empty name) hchild with ⟨hsound, hfree⟩
      rw [applyAll_eq_extended body hsound hfree] at hfresh
      rcases sound_iff.1 hd with ⟨hroot, hsub⟩
      rw [extended_collection, CollectionClause.controlFree_collection_iff]
      refine ⟨sound_iff.2 ⟨⟨hroot.operations, ?_, hroot.params⟩, ?_⟩, hfree⟩
      · exact nodup_map_concat_iff.2 ⟨hfresh, hroot.children⟩
      · intro c hc
        rcases List.mem_append.1 hc with hold | hnew
        · exact hsub c hold
        · rw [List.mem_singleton.1 hnew]
          exact hsound
  | .control, d, _, h => absurd h (not_faultless_recordFault d _)

theorem sound_of_applyAll : ∀ (body : List (CollectionClause σ)) {d : CollectionDecl σ}, d.Sound →
    (d.applyAll body).Faultless →
      (d.extended body).Sound ∧ CollectionClause.ControlFree body
  | [], d, hd, _ => by
      rw [extended_nil]
      exact ⟨hd, by simp [CollectionClause.ControlFree, CollectionClause.bodiesAll]⟩
  | clause :: rest, d, hd, h => by
      rw [applyAll] at h
      -- no fault is lost on the way, so there was none after the first clause
      rcases sound_of_apply clause hd (faultless_of_applyAll h) with ⟨hsound, hfree⟩
      rw [apply_eq_extended clause hsound hfree] at h
      rcases sound_of_applyAll rest hsound h with ⟨hrest, hfreeRest⟩
      rw [extended_cons, CollectionClause.controlFree_cons_iff]
      exact ⟨hrest, hfree, hfreeRest⟩

end

/-! ## Declared trees have no faults -/

theorem faults_of_operation? {clause : CollectionClause σ} {o : OperationDecl σ}
    (h : clause.operation? = some o) : o.faults = [] := by
  cases clause <;> simp at h <;> rw [← h] <;> rfl

mutual

theorem faultless_of_child? : ∀ (clause : CollectionClause σ) {c : CollectionDecl σ},
    clause.child? = some c → c.Faultless
  | .collection name body, c, h => by
      rw [CollectionClause.child?, Option.some.injEq] at h
      rw [← h]
      refine faultless_iff.2 ⟨⟨rfl, ?_⟩, fun e he => faultless_of_children body he⟩
      intro o ho
      have hmem : o ∈ body.filterMap CollectionClause.operation? := ho
      rcases List.mem_filterMap.1 hmem with ⟨clause, -, hclause⟩
      exact faults_of_operation? hclause
  | .description _, _, h => by simp at h
  | .withId _, _, h => by simp at h
  | .noMember, _, h => by simp at h
  | .operation _ _, _, h => by simp at h
  | .action _ _, _, h => by simp at h
  | .control, _, h => by simp at h

theorem faultless_of_children : ∀ (body : List (CollectionClause σ)) {c : CollectionDecl σ},
    c ∈ CollectionClause.children body → c.Faultless
  | clause :: rest, c, h => by
      rw [CollectionClause.children] at h
      rcases List.mem_append.1 h with hclause | hrest
      · exact faultless_of_child? clause (Option.mem_toList.1 hclause)
      · exact faultless_of_children rest hrest

end

theorem faultless_declared (name : String) (body : List (CollectionClause σ)) :
    (declared name body).Faultless := by
  refine faultless_of_child? (.collection name body) ?_
  simp [declared, extended]

theorem ofClauses_eq_declared {name : String} {body : List (CollectionClause σ)}
    (h : (declared name body).Sound) (hc : CollectionClause.ControlFree body) :
    ofClauses name body = declared name body :=
  applyAll_eq_extended body h hc

/-- Gathering records no fault exactly when names are distinct and no collection has a body. -/
theorem faultless_ofClauses_iff {name : String} {body : List (CollectionClause σ)} :
    (ofClauses name body).Faultless ↔
      (declared name body).Sound ∧ CollectionClause.ControlFree body := by
  constructor
  · exact sound_of_applyAll body (sound_empty name)
  · rintro ⟨h, hc⟩
    rw [ofClauses_eq_declared h hc]
    exact faultless_declared name body

theorem name_apply (d : CollectionDecl σ) (clause : CollectionClause σ) :
    (d.apply clause).name = d.name := by
  cases clause with
  | operation name body =>
      rw [apply, addOperation]
      split <;> rfl
  | action name body =>
      rw [apply, addOperation]
      split <;> rfl
  | collection name body =>
      rw [apply, addChild]
      split <;> rfl
  | _ =>
      rfl

theorem name_applyAll (d : CollectionDecl σ) (body : List (CollectionClause σ)) :
    (d.applyAll body).name = d.name := by
  induction body generalizing d with
  | nil =>
      rfl
  | cons clause rest ih =>
      rw [applyAll, ih, name_apply]

theorem name_ofClauses (name : String) (body : List (CollectionClause σ)) :
    (ofClauses name body).name = name :=
  name_applyAll _ body

end CollectionDecl
end ResourceRouting
