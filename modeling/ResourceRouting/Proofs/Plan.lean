import ResourceRouting.Proofs.Compilation

/-!
# Plan — the bindings of an application, read off its declaration

A route table is built by a walk that hands a growing table from binding to binding and stops at
the first clash. `ApiDecl.plan` is the list of bindings that the declared tree calls for, with no
table handed on: collection by collection in preorder, and the index at the end.

* `Table.Adds`: a step of building appends certain bindings or fails, and fails only if they clash
  with each other or with those before.
* `Api.build_eq_ok_iff`: an application is built exactly when its clauses are well declared, no
  path repeats a placeholder and no two planned bindings clash; its bindings are then the plan.
-/

namespace ResourceRouting

/-! ## Planned bindings -/

namespace Table

variable {σ : Type}

/-- The binding of an auxiliary kind, if that kind is switched on. -/
def auxiliary (routing : Routing) (kind : Auxiliary) (method : Method) (path : String)
    (endpoint : Endpoint σ) : Table σ :=
  if routing.allows kind then [{ method, path, endpoint }] else []

/-- No two entries share both method and shape. -/
def Distinct (t : Table σ) : Prop :=
  t.Pairwise fun a b => ¬ (a.method = b.method ∧ Path.shape a.path = Path.shape b.path)

end Table

/-- The binding of an operation, and after it those that describe the operation. -/
def Operation.bindings {σ : Type} (routing : Routing) (node : CollectionNode σ)
    (o : Operation σ) : Table σ :=
  [⟨o.method, o.path, .operation o⟩] ++
    Table.auxiliary routing .head .head o.auxPath .head ++
    Table.auxiliary routing .options .options o.auxPath (.options o.allow) ++
    Table.auxiliary routing .docs .get (Path.join (Path.join node.docsPath "operations") o.name)
      (.operationDocs o)

/-- The bindings of a collection, those of its subcollections apart. -/
def Collection.ownBindings {σ : Type} (routing : Routing) (c : Collection σ) : Table σ :=
  Table.auxiliary routing .head .head c.node.path .head ++
    Table.auxiliary routing .options .options c.node.path (.options c.allow) ++
    Table.auxiliary routing .docs .get c.node.docsPath (.collectionDocs c) ++
    (c.node.operations.filter fun o => o.gate.isRegistered).flatMap
      (Operation.bindings routing c.node)

/-- The bindings of all collections in preorder, and the index after them. -/
def Table.plan {σ : Type} (app : String) (routing : Routing) (collections : List (Collection σ)) :
    Table σ :=
  (Collection.walkAll collections).flatMap (Collection.ownBindings routing) ++
    Table.auxiliary routing .index .get (routing.route "docs")
      (.index (.ofCollections app collections))

namespace ApiDecl

variable {σ : Type}

def tree (d : ApiDecl σ) : List (Collection σ) :=
  CollectionDecl.settledAll d.context none d.collections

def plan (d : ApiDecl σ) : Table σ := Table.plan d.name d.routing d.tree

end ApiDecl

/-! ## Steps that append bindings -/

namespace Table

variable {σ : Type}

theorem Distinct.left {t bs : Table σ} (h : Distinct (t ++ bs)) : Distinct t :=
  (List.pairwise_append.1 h).1

/-- In a table without clashes an entry is told by its method and its shape. -/
theorem Distinct.eq_of_mem {t : Table σ} (h : Distinct t) {a b : Binding σ} (ha : a ∈ t)
    (hb : b ∈ t) (hmethod : a.method = b.method) (hshape : Path.shape a.path = Path.shape b.path) :
    a = b := by
  by_contra hne
  rcases List.append_of_mem ha with ⟨before, after, rfl⟩
  rcases List.pairwise_append.1 h with ⟨-, hrest, hbefore⟩
  rcases List.mem_append.1 hb with hmem | hmem
  · exact hbefore b hmem a List.mem_cons_self ⟨hmethod.symm, hshape.symm⟩
  · rcases List.mem_cons.1 hmem with rfl | hmem
    · exact hne rfl
    · exact (List.pairwise_cons.1 hrest).1 b hmem ⟨hmethod, hshape⟩

/-- The step appends `bs` to any table without clashes, and fails exactly if that makes one. -/
def Adds (step : Table σ → Except Fault (Table σ)) (bs : Table σ) : Prop :=
  ∀ t t', Distinct t → (step t = .ok t' ↔ Distinct (t ++ bs) ∧ t' = t ++ bs)

theorem adds_nothing : Adds (fun t : Table σ => .ok t) [] := by
  intro t t' ht
  simp [ht, eq_comm]

theorem Adds.andThen {f g : Table σ → Except Fault (Table σ)} {bs cs : Table σ}
    (hf : Adds f bs) (hg : Adds g cs) : Adds (fun t => f t >>= g) (bs ++ cs) := by
  intro t t' ht
  rw [bind_eq_ok_iff, ← List.append_assoc]
  -- the second step starts from a table without clashes, because the first one left it so
  constructor
  · rintro ⟨u, hu, ht'⟩
    rcases (hf t u ht).1 hu with ⟨hdistinct, rfl⟩
    exact (hg _ _ hdistinct).1 ht'
  · rintro ⟨hdistinct, rfl⟩
    have hbs : Distinct (t ++ bs) := hdistinct.left
    exact ⟨t ++ bs, (hf t _ ht).2 ⟨hbs, rfl⟩, (hg _ _ hbs).2 ⟨hdistinct, rfl⟩⟩

theorem Adds.foldlM {α : Type} {f : Table σ → α → Except Fault (Table σ)} {bs : α → Table σ}
    (h : ∀ a, Adds (fun t => f t a) (bs a)) (l : List α) :
    Adds (fun t => l.foldlM f t) (l.flatMap bs) := by
  induction l with
  | nil =>
      exact adds_nothing
  | cons a rest ih =>
      simp only [List.foldlM_cons, List.flatMap_cons]
      exact (h a).andThen ih

/-! ## The steps of building -/

theorem any_clashes_iff {t : Table σ} {b : Binding σ} (ht : Distinct t) :
    t.any b.clashes = true ↔ ¬ Distinct (t ++ [b]) := by
  have happend : Distinct (t ++ [b]) ↔
      ∀ a ∈ t, ¬ (a.method = b.method ∧ Path.shape a.path = Path.shape b.path) := by
    simp only [Distinct, List.pairwise_append, List.mem_singleton, forall_eq]
    exact ⟨fun h => h.2.2, fun h => ⟨ht, List.pairwise_singleton _ b, h⟩⟩
  rw [happend, List.any_eq_true]
  simp only [Binding.clashes, Bool.and_eq_true, beq_iff_eq, not_forall, not_not, exists_prop]
  constructor
  · rintro ⟨a, ha, hmethod, hshape⟩
    exact ⟨a, ha, hmethod.symm, hshape.symm⟩
  · rintro ⟨a, ha, hmethod, hshape⟩
    exact ⟨a, ha, hmethod.symm, hshape.symm⟩

theorem adds_bind (method : Method) (path : String) (endpoint : Endpoint σ) :
    Adds (fun t => t.bind method path endpoint) [⟨method, path, endpoint⟩] := by
  intro t t' ht
  have hclash := any_clashes_iff (b := ⟨method, path, endpoint⟩) ht
  unfold bind
  by_cases hdistinct : Distinct (t ++ [⟨method, path, endpoint⟩])
  · have hnone := mt hclash.1 (not_not.2 hdistinct)
    simp [hnone, hdistinct, eq_comm]
  · simp [hclash.2 hdistinct, hdistinct]

theorem adds_bindAuxiliary (routing : Routing) (kind : Auxiliary) (method : Method)
    (path : String) (endpoint : Endpoint σ) :
    Adds (fun t => t.bindAuxiliary routing kind method path endpoint)
      (auxiliary routing kind method path endpoint) := by
  unfold bindAuxiliary auxiliary
  by_cases hallowed : routing.allows kind = true
  · simp only [hallowed, if_true]
    exact adds_bind method path endpoint
  · simp only [hallowed]
    exact adds_nothing

theorem adds_addOperation (routing : Routing) (node : CollectionNode σ) (o : Operation σ) :
    Adds (fun t => addOperation routing node t o)
      (if o.gate.isRegistered then o.bindings routing node else []) := by
  unfold addOperation
  by_cases hregistered : o.gate.isRegistered = true
  · simp only [hregistered, if_true, Operation.bindings, List.append_assoc]
    exact (adds_bind _ _ _).andThen <| (adds_bindAuxiliary _ _ _ _ _).andThen <|
      (adds_bindAuxiliary _ _ _ _ _).andThen (adds_bindAuxiliary _ _ _ _ _)
  · simp only [hregistered]
    exact adds_nothing

/-- Operations that are never open are passed over. -/
theorem adds_operations (routing : Routing) (node : CollectionNode σ) :
    Adds (fun t => node.operations.foldlM (addOperation routing node) t)
      ((node.operations.filter fun o => o.gate.isRegistered).flatMap
        (Operation.bindings routing node)) := by
  -- the walk skips what the plan filters out beforehand
  have hskip : (node.operations.filter fun o => o.gate.isRegistered).flatMap
      (Operation.bindings routing node) =
        node.operations.flatMap fun o =>
          if o.gate.isRegistered then o.bindings routing node else [] := by
    induction node.operations with
    | nil =>
        rfl
    | cons o rest ih =>
        by_cases hregistered : o.gate.isRegistered = true
        · simp [hregistered, ih]
        · simp [hregistered, ih]
  rw [hskip]
  exact Adds.foldlM (fun o => adds_addOperation routing node o) node.operations

mutual

theorem adds_addCollection (routing : Routing) : ∀ c : Collection σ,
    Adds (fun t => addCollection routing t c) (c.walk.flatMap (Collection.ownBindings routing))
  | ⟨node, children⟩ => by
      simp only [addCollection, Collection.walk_mk, List.flatMap_cons, Collection.ownBindings,
        List.append_assoc]
      exact (adds_bindAuxiliary _ _ _ _ _).andThen <| (adds_bindAuxiliary _ _ _ _ _).andThen <|
        (adds_bindAuxiliary _ _ _ _ _).andThen <| (adds_operations routing node).andThen <|
          adds_addCollections routing children

theorem adds_addCollections (routing : Routing) : ∀ cs : List (Collection σ),
    Adds (fun t => addCollections routing t cs)
      ((Collection.walkAll cs).flatMap (Collection.ownBindings routing))
  | [] => by
      simp only [addCollections, Collection.walkAll, List.flatMap_nil]
      exact adds_nothing
  | c :: rest => by
      simp only [addCollections, Collection.walkAll_cons, List.flatMap_append]
      exact (adds_addCollection routing c).andThen (adds_addCollections routing rest)

end

/-- The table of compiled collections is their plan, unless two planned bindings clash. -/
theorem ofCollections_eq_ok_iff {app : String} {routing : Routing}
    {collections : List (Collection σ)} {t : Table σ} :
    ofCollections app routing collections = .ok t ↔
      Distinct (plan app routing collections) ∧ t = plan app routing collections := by
  have hadds := (adds_addCollections routing collections).andThen
    (adds_bindAuxiliary routing .index .get (routing.route "docs")
      (.index (.ofCollections app collections)))
  exact hadds [] t List.Pairwise.nil

end Table

/-! ## Building -/

theorem ApiDecl.compile_eq_ok_iff {σ : Type} {d : ApiDecl σ} {api : Api σ} :
    d.compile = .ok api ↔
      (d.Faultless ∧ (∀ c ∈ Collection.walkAll d.tree, c.node.DistinctPlaceholders) ∧
        d.plan.Distinct) ∧ api = d.assembled d.tree d.plan := by
  unfold compile Faultless
  cases d.faults with
  | cons fault rest =>
      simp
  | nil =>
      simp only [bind_eq_ok_iff, CollectionDecl.compileAll_eq_ok_iff,
        Table.ofCollections_eq_ok_iff, true_and]
      constructor
      · rintro ⟨cs, ⟨⟨hfaultless, hpaths⟩, rfl⟩, t, ⟨hdistinct, rfl⟩, hapi⟩
        exact ⟨⟨hfaultless, hpaths, hdistinct⟩, (Except.ok.inj hapi).symm⟩
      · rintro ⟨⟨hfaultless, hpaths, hdistinct⟩, rfl⟩
        exact ⟨_, ⟨⟨hfaultless, hpaths⟩, rfl⟩, _, ⟨hdistinct, rfl⟩, rfl⟩

namespace Api

variable {σ : Type}

theorem build_eq_ok_iff {name : String} {clauses : List (ApiClause σ)} {api : Api σ} :
    build name clauses = .ok api ↔
      (ApiDecl.WellDeclared clauses ∧
        (∀ c ∈ Collection.walkAll (ApiDecl.declared name clauses).tree,
          c.node.DistinctPlaceholders) ∧
        (ApiDecl.declared name clauses).plan.Distinct) ∧
      api = (ApiDecl.declared name clauses).assembled (ApiDecl.declared name clauses).tree
        (ApiDecl.declared name clauses).plan := by
  rw [build, ApiDecl.compile_eq_ok_iff, ApiDecl.faultless_ofClauses_iff]
  constructor
  · rintro ⟨⟨hdeclared, hrest⟩, hapi⟩
    rw [ApiDecl.ofClauses_eq_declared hdeclared] at hrest hapi
    exact ⟨⟨hdeclared, hrest⟩, hapi⟩
  · rintro ⟨⟨hdeclared, hrest⟩, hapi⟩
    rw [ApiDecl.ofClauses_eq_declared hdeclared]
    exact ⟨⟨hdeclared, hrest⟩, hapi⟩

theorem bindings_of_build {name : String} {clauses : List (ApiClause σ)} {api : Api σ}
    (h : build name clauses = .ok api) :
    api.bindings = (ApiDecl.declared name clauses).plan := by
  rw [(build_eq_ok_iff.1 h).2]
  rfl

theorem distinct_bindings_of_build {name : String} {clauses : List (ApiClause σ)} {api : Api σ}
    (h : build name clauses = .ok api) : api.bindings.Distinct := by
  rw [bindings_of_build h]
  exact (build_eq_ok_iff.1 h).1.2.2

/-- A built application binds what its declaration calls for, in that order and nothing else, and
no two of its bindings share both method and shape. -/
theorem bindings_eq_plan_of_build {name : String} {clauses : List (ApiClause σ)} {api : Api σ}
    (h : build name clauses = .ok api) :
    api.bindings = (ApiDecl.declared name clauses).plan ∧ api.bindings.Distinct :=
  ⟨bindings_of_build h, distinct_bindings_of_build h⟩

/-- A site of pages; one of their operations stands beside the placeholder, and one is never
open. -/
def pages : List (ApiClause Unit) :=
  [.collection "pages" [.operation "show" [.description "One page"],
    .operation "recent" [.description "The last pages", .collectionLevel],
    .action "draft" [.description "Not yet", .gate .never]]]

theorem exists_build_pages : ∃ api : Api Unit, build "site" pages = .ok api :=
  isOk_iff_exists.1 (by decide +kernel)

theorem bindings_eq_plan_pages :
    ∃ api : Api Unit, build "site" pages = .ok api ∧
      api.bindings.map (fun b => (b.method, b.path)) =
        [(.head, "/pages"), (.options, "/pages"), (.get, "/docs/pages"), (.get, "/pages/:id"),
         (.head, "/pages/show"), (.options, "/pages/show"),
         (.get, "/docs/pages/operations/show"), (.get, "/pages/recent"),
         (.head, "/pages/recent"), (.options, "/pages/recent"),
         (.get, "/docs/pages/operations/recent"), (.get, "/docs")] ∧
      api.bindings = (ApiDecl.declared "site" pages).plan ∧ api.bindings.Distinct := by
  have hbuild : ∃ api : Api Unit, build "site" pages = .ok api :=
    isOk_iff_exists.1 (by decide +kernel)
  rcases hbuild with ⟨api, h⟩
  have hplan := bindings_eq_plan_of_build h
  refine ⟨api, h, ?_, hplan⟩
  rw [hplan.1]
  decide +kernel

/-- An application is built exactly when every clause is well declared at every depth, no path
relative to the root repeats a placeholder and no two planned bindings clash. -/
theorem build_isOk_iff (name : String) (clauses : List (ApiClause σ)) :
    (∃ api, build name clauses = .ok api) ↔
      ApiDecl.WellDeclared clauses ∧
        (∀ c ∈ Collection.walkAll (ApiDecl.declared name clauses).tree,
          c.node.DistinctPlaceholders) ∧
        (ApiDecl.declared name clauses).plan.Distinct := by
  constructor
  · rintro ⟨api, h⟩
    exact (build_eq_ok_iff.1 h).1
  · intro h
    exact ⟨_, build_eq_ok_iff.2 ⟨h, rfl⟩⟩

end Api
end ResourceRouting
