import ResourceRouting.Proofs.Paths.Rooted
import ResourceRouting.Proofs.Variation.Features

/-!
# Disabled — operations that are never open

An operation whose gate is `never` is declared and compiled like any other, and is then left out of
the table. To declare it or not makes no difference to a request: only documents tell.

* `CollectionClause.Without`: a body without one of its operations that are never open, at any
  depth.
* `CollectionDecl.settleAlike_of_without`: what a tree is compiled to without the operation.
* `Api.build_without`: an application without it is built, and searched with the same results.
-/

namespace ResourceRouting

variable {σ : Type}

/-! ## Leaving an operation out -/

/-- The second body is the first one without the declaration of an operation that is never open,
in the collection itself or in one below it. -/
inductive CollectionClause.Without : List (CollectionClause σ) → List (CollectionClause σ) → Prop
  | here (before : List (CollectionClause σ)) {clause : CollectionClause σ}
      (after : List (CollectionClause σ)) {o : OperationDecl σ}
      (hclause : clause.operation? = some o) (hgate : o.gate = .never) :
      Without (before ++ clause :: after) (before ++ after)
  | inside (before : List (CollectionClause σ)) (name : String)
      {body body' : List (CollectionClause σ)} (after : List (CollectionClause σ))
      (hbody : Without body body') :
      Without (before ++ .collection name body :: after)
        (before ++ .collection name body' :: after)

/-- The second clauses are the first ones without such an operation. -/
inductive ApiClause.Without : List (ApiClause σ) → List (ApiClause σ) → Prop
  | within (before : List (ApiClause σ)) (name : String)
      {body body' : List (CollectionClause σ)} (after : List (ApiClause σ))
      (hbody : CollectionClause.Without body body') :
      Without (before ++ .collection name body :: after)
        (before ++ .collection name body' :: after)

/-- The second collection is the first one without operations that are never open. -/
inductive CollectionNode.Without (node : CollectionNode σ) : CollectionNode σ → Prop
  | mk (operations : List (Operation σ)) (hsublist : operations.Sublist node.operations)
      (hregistered : operations.filter (fun o => o.gate.isRegistered) =
        node.operations.filter fun o => o.gate.isRegistered) :
      Without node { node with operations }

theorem CollectionNode.Without.refl (node : CollectionNode σ) : node.Without node :=
  .mk node.operations (List.Sublist.refl _) rfl

/-! ## Clauses -/

/-- A clause that says nothing does not change what is said last. -/
theorem lastSaid?_of_silent {α β : Type} {said : α → Option β} {clause : α}
    (h : said clause = none) (before after : List α) :
    lastSaid? said (before ++ clause :: after) = lastSaid? said (before ++ after) := by
  simp [lastSaid?, List.findSome?_append, h]

namespace CollectionClause

theorem children_append (before after : List (CollectionClause σ)) :
    children (before ++ after) = children before ++ children after := by
  induction before with
  | nil =>
      rfl
  | cons clause rest ih =>
      simp [ih]

theorem children_cons_collection (name : String) (body after : List (CollectionClause σ)) :
    children (.collection name body :: after) =
      CollectionDecl.declared name body :: children after := by
  simp [CollectionDecl.declared, CollectionDecl.extended]

/-- The declaration of an operation declares no subcollection. -/
theorem children_cons_operation {clause : CollectionClause σ} {o : OperationDecl σ}
    (h : clause.operation? = some o) (after : List (CollectionClause σ)) :
    children (clause :: after) = children after := by
  cases clause with
  | operation name body => rfl
  | action name body => rfl
  | _ => cases h

theorem controlFree_append_iff {before after : List (CollectionClause σ)} :
    ControlFree (before ++ after) ↔ ControlFree before ∧ ControlFree after := by
  induction before with
  | nil =>
      simp [ControlFree, bodiesAll]
  | cons clause rest ih =>
      rw [List.cons_append, controlFree_cons_iff, ih, @controlFree_cons_iff _ _ rest, and_assoc]

theorem Without.controlFree {body body' : List (CollectionClause σ)} (h : Without body body') :
    ControlFree body → ControlFree body' := by
  induction h with
  | here before after hclause hgate =>
      rw [controlFree_append_iff, controlFree_append_iff, controlFree_cons_iff]
      rintro ⟨hbefore, -, hafter⟩
      exact ⟨hbefore, hafter⟩
  | inside before name after hbody ih =>
      simp only [controlFree_append_iff, @controlFree_cons_iff _ _ after,
        controlFree_collection_iff]
      rintro ⟨hbefore, hinner, hafter⟩
      exact ⟨hbefore, ih hinner, hafter⟩

end CollectionClause

namespace CollectionDecl

theorem name_declared (name : String) (body : List (CollectionClause σ)) :
    (declared name body).name = name := rfl

theorem declared_eq (name : String) (body : List (CollectionClause σ)) :
    declared name body =
      ⟨CollectionHead.extended { name } body, CollectionClause.children body⟩ := by
  simp [declared, extended]

theorem children_declared (name : String) (body : List (CollectionClause σ)) :
    (declared name body).children = CollectionClause.children body := by
  rw [declared_eq]

theorem operations_declared (name : String) (body : List (CollectionClause σ)) :
    (declared name body).head.operations = body.filterMap CollectionClause.operation? := rfl

/-- Distinct names stay distinct when operations are left out. -/
theorem DistinctNames.of_sublist {d d' : CollectionDecl σ} (h : d.DistinctNames)
    (hoperations : d'.head.operations.Sublist d.head.operations)
    (hchildren : d'.children.map name = d.children.map name) : d'.DistinctNames := by
  refine ⟨h.operations.sublist (hoperations.map _), ?_, fun o ho => h.params o ?_⟩
  · rw [hchildren]
    exact h.children
  · exact hoperations.subset ho

theorem sound_of_without {body body' : List (CollectionClause σ)}
    (h : CollectionClause.Without body body') {name : String} :
    (declared name body).Sound → (declared name body').Sound := by
  -- by the depth of the operation: at each level the names of the subcollections are the same
  induction h generalizing name with
  | here before after hclause hgate =>
      rw [sound_iff, sound_iff, children_declared, children_declared,
        CollectionClause.children_append, CollectionClause.children_append,
        CollectionClause.children_cons_operation hclause]
      rintro ⟨hnames, hbelow⟩
      refine ⟨hnames.of_sublist ?_ ?_, hbelow⟩
      · exact ((List.sublist_cons_self _ after).append_left before).filterMap _
      · simp only [children_declared, CollectionClause.children_append,
          CollectionClause.children_cons_operation hclause]
  | inside before inner after hbody ih =>
      rw [sound_iff, sound_iff, children_declared, children_declared,
        CollectionClause.children_append, CollectionClause.children_append,
        CollectionClause.children_cons_collection, CollectionClause.children_cons_collection]
      simp only [List.forall_mem_append, List.forall_mem_cons]
      rintro ⟨hnames, hbefore, hinner, hafter⟩
      refine ⟨hnames.of_sublist ?_ ?_, hbefore, ih hinner, hafter⟩
      · simp [operations_declared, List.filterMap_cons]
      · simp only [children_declared, CollectionClause.children_append,
          CollectionClause.children_cons_collection, List.map_append, List.map_cons, name_declared]

end CollectionDecl

/-! ## Trees -/

namespace CollectionHead

/-- A clause for an operation or a subcollection says nothing else of its collection. -/
theorem extended_of_silent (head : CollectionHead σ) {clause : CollectionClause σ}
    (hdescription : clause.description? = none) (hid : clause.withId? = none)
    (hmember : clause.isNoMember = false) (before after : List (CollectionClause σ)) :
    head.extended (before ++ clause :: after) =
      { head.extended (before ++ after) with
        operations := head.operations ++
          (before ++ clause :: after).filterMap CollectionClause.operation? } := by
  simp only [extended, lastSaid?_of_silent hdescription, lastSaid?_of_silent hid,
    List.any_append, List.any_cons, hid, hmember, Option.isSome_none, Bool.false_or]

theorem extended_withOperations (head : CollectionHead σ) {clause : CollectionClause σ}
    {o : OperationDecl σ} (h : clause.operation? = some o)
    (before after : List (CollectionClause σ)) :
    head.extended (before ++ after) =
      { head.extended (before ++ clause :: after) with
        operations := head.operations ++
          (before ++ after).filterMap CollectionClause.operation? } := by
  cases clause with
  | operation name body => rw [head.extended_of_silent rfl rfl rfl]; rfl
  | action name body => rw [head.extended_of_silent rfl rfl rfl]; rfl
  | _ => cases h

theorem extended_collection (head : CollectionHead σ) (before : List (CollectionClause σ))
    (name : String) (body body' after : List (CollectionClause σ)) :
    head.extended (before ++ .collection name body :: after) =
      head.extended (before ++ .collection name body' :: after) := by
  rw [head.extended_of_silent rfl rfl rfl, head.extended_of_silent rfl rfl rfl]
  simp [List.filterMap_cons]

variable (ctx : CompileContext σ) (parent? : Option (CollectionNode σ)) (head : CollectionHead σ)

/-- A parent without operations that are never open leads to the same collections. -/
theorem settled_of_without {parent? parent'? : Option (CollectionNode σ)}
    (h : Option.Rel CollectionNode.Without parent? parent'?) :
    head.settled ctx parent'? = head.settled ctx parent? := by
  cases h with
  | none =>
      rfl
  | some hparent =>
      cases hparent
      rfl

theorem relative_withOperations (operations : List (OperationDecl σ)) :
    relative parent? { head with operations } = head.relative parent? := rfl

theorem owner_withOperations (operations : List (OperationDecl σ)) :
    owner ctx parent? { head with operations } = head.owner ctx parent? := rfl

/-- The operations of a collection settle nothing else of it. -/
theorem settled_withOperations (operations : List (OperationDecl σ)) :
    settled ctx parent? { head with operations } =
      { head.settled ctx parent? with
        operations := operations.map
          (OperationDecl.settled (head.owner ctx parent?) ctx.hooks) } := by
  simp only [settled, owner_withOperations, node, relative_withOperations]
  rfl

theorem without_settled {operations : List (OperationDecl σ)}
    (hsublist : operations.Sublist head.operations)
    (hregistered : operations.filter (fun d => d.gate.isRegistered) =
      head.operations.filter fun d => d.gate.isRegistered) :
    (head.settled ctx parent?).Without (settled ctx parent? { head with operations }) := by
  have hoperations : (head.settled ctx parent?).operations =
      head.operations.map (OperationDecl.settled (head.owner ctx parent?) ctx.hooks) := rfl
  -- an operation is compiled with the gate that it is declared with
  have hgate : ∀ ds : List (OperationDecl σ),
      (ds.map (OperationDecl.settled (head.owner ctx parent?) ctx.hooks)).filter
        (fun o => o.gate.isRegistered) =
          (ds.filter fun d => d.gate.isRegistered).map
            (OperationDecl.settled (head.owner ctx parent?) ctx.hooks) :=
    fun ds => List.filter_map
  rw [settled_withOperations ctx parent? head operations]
  generalize head.settled ctx parent? = node at hoperations ⊢
  refine .mk _ ?_ ?_
  · rw [hoperations]
    exact hsublist.map _
  · rw [hoperations, hgate, hgate, hregistered]

end CollectionHead

namespace CollectionDecl

variable (ctx : CompileContext σ)

/-- Both declarations are compiled to the same collections, one by one and without operations that
are never open, below parents that are the same in that sense. -/
def SettleAlike (ds ds' : List (CollectionDecl σ)) : Prop :=
  ∀ parent? parent'?, Option.Rel CollectionNode.Without parent? parent'? →
    List.Forall₂ (fun c c' => c.node.Without c'.node)
      (Collection.walkAll (settledAll ctx parent? ds))
      (Collection.walkAll (settledAll ctx parent'? ds'))

variable {ctx} {ds ds' es es' : List (CollectionDecl σ)}

theorem SettleAlike.nil : SettleAlike ctx [] ([] : List (CollectionDecl σ)) := by
  intro parent? parent'? _
  rw [settledAll, settledAll, Collection.walkAll]
  exact .nil

theorem SettleAlike.cons {head head' : CollectionHead σ}
    (hhead : ∀ parent? : Option (CollectionNode σ),
      (head.settled ctx parent?).Without (head'.settled ctx parent?))
    (hchildren : SettleAlike ctx ds ds') (hrest : SettleAlike ctx es es') :
    SettleAlike ctx (⟨head, ds⟩ :: es) (⟨head', ds'⟩ :: es') := by
  intro parent? parent'? hparent
  have hnode : (head.settled ctx parent?).Without (head'.settled ctx parent'?) := by
    rw [head'.settled_of_without ctx hparent]
    exact hhead parent?
  simp only [settledAll, settled, Collection.walkAll_cons, Collection.walk_mk]
  refine List.rel_append ?_ (hrest _ _ hparent)
  exact .cons hnode (hchildren _ _ (.some hnode))

theorem SettleAlike.refl : ∀ ds : List (CollectionDecl σ), SettleAlike ctx ds ds
  | [] => .nil
  | ⟨_, children⟩ :: rest => .cons (fun _ => .refl _) (.refl children) (.refl rest)

/-- One of several collections differs. -/
theorem SettleAlike.between {d d' : CollectionDecl σ} {after : List (CollectionDecl σ)}
    (h : SettleAlike ctx (d :: after) (d' :: after)) (before : List (CollectionDecl σ)) :
    SettleAlike ctx (before ++ d :: after) (before ++ d' :: after) := by
  induction before with
  | nil =>
      exact h
  | cons c rest ih =>
      rcases c with ⟨head, children⟩
      exact .cons (fun _ => .refl _) (.refl children) ih

theorem settleAlike_of_without {body body' : List (CollectionClause σ)}
    (h : CollectionClause.Without body body') {name : String} (rest : List (CollectionDecl σ)) :
    SettleAlike ctx (declared name body :: rest) (declared name body' :: rest) := by
  -- where the operation is declared the head differs, and above that only the children do
  induction h generalizing name rest with
  | @here before clause after o hclause hgate =>
      have hclosed : o.gate.isRegistered = false := by
        rw [hgate]
        rfl
      have hregistered : ((before ++ after).filterMap CollectionClause.operation?).filter
          (fun d => d.gate.isRegistered) =
            ((before ++ clause :: after).filterMap CollectionClause.operation?).filter
              fun d => d.gate.isRegistered := by
        simp [List.filterMap_cons_some hclause, hclosed]
      have hsublist : ((before ++ after).filterMap CollectionClause.operation?).Sublist
          ((before ++ clause :: after).filterMap CollectionClause.operation?) :=
        ((List.sublist_cons_self _ after).append_left before).filterMap _
      have hhead := CollectionHead.extended_withOperations { name } hclause before after
      rw [declared_eq, declared_eq, hhead, CollectionClause.children_append,
        CollectionClause.children_append, CollectionClause.children_cons_operation hclause]
      refine .cons (fun parent? => ?_) (.refl _) (.refl rest)
      exact CollectionHead.without_settled ctx parent? _ hsublist hregistered
  | inside before inner after hbody ih =>
      rw [declared_eq, declared_eq, CollectionHead.extended_collection,
        CollectionClause.children_append, CollectionClause.children_append,
        CollectionClause.children_cons_collection, CollectionClause.children_cons_collection]
      exact .cons (fun _ => .refl _) ((ih _).between _) (.refl rest)

end CollectionDecl

/-! ## Tables -/

/-- The operation that an endpoint runs. -/
def Endpoint.operation? : Endpoint σ → Option (Operation σ)
  | .operation o => some o
  | _ => none

theorem Endpoint.operation?_eq_some_iff {e : Endpoint σ} {o : Operation σ} :
    e.operation? = some o ↔ e = .operation o := by
  cases e <;> simp [operation?]

/-- The methods that an endpoint names. -/
def Endpoint.allow? : Endpoint σ → Option String
  | .options allow => some allow
  | _ => none

/-- The bindings agree, and their endpoints run one operation or name the same methods, if any:
only documents may differ. -/
structure Binding.AgreesButDocs (b b' : Binding σ) : Prop extends b.Agrees b' where
  operation : b.endpoint.operation? = b'.endpoint.operation?
  allow : b.endpoint.allow? = b'.endpoint.allow?

theorem Binding.AgreesButDocs.refl (b : Binding σ) : b.AgreesButDocs b :=
  ⟨⟨rfl, rfl, rfl⟩, rfl, rfl⟩

namespace Table

variable (routing : Routing)

theorem agreesButDocs_auxiliary (kind : Auxiliary) (method : Method) (path : String)
    {endpoint endpoint' : Endpoint σ}
    (h : Binding.AgreesButDocs ⟨method, path, endpoint⟩ ⟨method, path, endpoint'⟩) :
    List.Forall₂ Binding.AgreesButDocs (auxiliary routing kind method path endpoint)
      (auxiliary routing kind method path endpoint') := by
  unfold auxiliary
  split
  · exact .cons h .nil
  · exact .nil

end Table

/-- The bindings of a collection see only the operations that may be open. -/
theorem CollectionNode.Without.ownBindings (routing : Routing) {c c' : Collection σ}
    (h : c.node.Without c'.node) :
    List.Forall₂ Binding.AgreesButDocs (c.ownBindings routing) (c'.ownBindings routing) := by
  rcases c with ⟨node, children⟩
  rcases c' with ⟨node', children'⟩
  rcases h with ⟨operations, -, hregistered⟩
  have hallow : Collection.allow ⟨{ node with operations }, children'⟩ =
      Collection.allow ⟨node, children⟩ := by
    simp only [Collection.allow, Collection.methods, hregistered]
  have hoperations : (operations.filter fun o => o.gate.isRegistered).flatMap
      (Operation.bindings routing { node with operations }) =
        (node.operations.filter fun o => o.gate.isRegistered).flatMap
          (Operation.bindings routing node) := by
    rw [hregistered]
    rfl
  -- documents list all operations, so the bindings of documents agree in all but these
  rw [Collection.ownBindings, Collection.ownBindings, hallow, hoperations]
  refine List.rel_append (List.rel_append (List.rel_append ?_ ?_) ?_) ?_
  · exact Table.agreesButDocs_auxiliary routing _ _ _ (.refl _)
  · exact Table.agreesButDocs_auxiliary routing _ _ _ (.refl _)
  · exact Table.agreesButDocs_auxiliary routing _ _ _ ⟨⟨rfl, rfl, rfl⟩, rfl, rfl⟩
  · exact List.forall₂_same.2 fun b _ => .refl b

theorem Table.agreesButDocs_plan {cs cs' : List (Collection σ)}
    (h : List.Forall₂ (fun c c' => c.node.Without c'.node) (Collection.walkAll cs)
      (Collection.walkAll cs')) (app : String) (routing : Routing) :
    List.Forall₂ Binding.AgreesButDocs (plan app routing cs) (plan app routing cs') := by
  have hcollections := List.rel_flatMap h fun c c' (hc : c.node.Without c'.node) =>
    hc.ownBindings routing
  exact List.rel_append hcollections
    (agreesButDocs_auxiliary routing _ _ _ ⟨⟨rfl, rfl, rfl⟩, rfl, rfl⟩)

/-- Paths that repeat no placeholder are still there, and there are no others. -/
theorem CollectionNode.Without.distinctPlaceholders {node node' : CollectionNode σ}
    (h : node.Without node') (hdistinct : node.DistinctPlaceholders) :
    node'.DistinctPlaceholders := by
  rcases h with ⟨operations, hsublist, -⟩
  exact ⟨hdistinct.1, fun o ho => hdistinct.2 o (hsublist.subset ho)⟩

/-! ## Searches -/

namespace Api

/-- An application with the methods and the paths of a table, and nothing else. -/
def skeleton (t : Table σ) : Api Unit :=
  { name := ""
    routing := {}
    hooks := {}
    features := {}
    collections := []
    bindings := t.map fun b => ⟨b.method, b.path, .head⟩ }

theorem selects_skeleton_iff {api : Api σ} (hdistinct : api.bindings.Distinct) (method : Method)
    (path : String) (i : Nat) (captures : Inputs) :
    (skeleton api.bindings).Selects method path i captures ↔
      api.Selects method path i captures := by
  have hbindings : (skeleton api.bindings).bindings =
      api.bindings.map fun b => ⟨b.method, b.path, .head⟩ := rfl
  refine selects_along_iff hbindings (fun _ _ => rfl) (fun _ _ => rfl) ?_ method i captures
  intro a ha b hb heq
  rcases Binding.mk.inj heq with ⟨hmethod, hpath, -⟩
  exact hdistinct.eq_of_mem ha hb hmethod (congrArg Path.shape hpath)

/-- Tables that agree in methods and paths are searched alike. -/
theorem selects_iff_of_agrees {api api' : Api σ}
    (h : List.Forall₂ Binding.Agrees api.bindings api'.bindings)
    (hdistinct : api.bindings.Distinct) (method : Method) (path : String) (i : Nat)
    (captures : Inputs) :
    api.Selects method path i captures ↔ api'.Selects method path i captures := by
  -- a search looks at methods and paths only, and in these the tables are equal
  have hskeleton : skeleton api.bindings = skeleton api'.bindings := by
    have hbindings : api.bindings.map (fun b => (⟨b.method, b.path, .head⟩ : Binding Unit)) =
        api'.bindings.map fun b => ⟨b.method, b.path, .head⟩ := by
      rw [← List.forall₂_eq_eq_eq, List.forall₂_map_left_iff, List.forall₂_map_right_iff]
      exact h.imp fun b b' hb => by rw [hb.method, hb.path]
    rw [skeleton, hbindings]
    rfl
  rw [← selects_skeleton_iff hdistinct, hskeleton,
    selects_skeleton_iff ((Table.distinct_iff_of_agrees h).1 hdistinct)]

end Api

/-! ## Applications -/

namespace ApiDecl

/-- A clause for a collection declares this collection and nothing else. -/
theorem declared_collection (app : String) (before : List (ApiClause σ)) (name : String)
    (body : List (CollectionClause σ)) (after : List (ApiClause σ)) :
    declared app (before ++ .collection name body :: after) =
      { declared app (before ++ after) with
        collections :=
          (declared app before).collections ++ CollectionDecl.declared name body ::
            (declared app after).collections } := by
  have hsilent : ∀ {β : Type} (said : ApiClause σ → Option β),
      said (.collection name body) = none →
        lastSaid? said (before ++ .collection name body :: after) =
          lastSaid? said (before ++ after) :=
    fun said h => lastSaid?_of_silent h before after
  simp only [declared, hsilent ApiClause.routing? rfl, hsilent ApiClause.featureCheck?? rfl,
    hsilent ApiClause.capabilityCheck?? rfl]
  simp [List.filterMap_cons]

theorem wellDeclared_of_without {clauses clauses' : List (ApiClause σ)}
    (h : ApiClause.Without clauses clauses') (hdeclared : WellDeclared clauses) :
    WellDeclared clauses' := by
  rcases h with ⟨before, name, after, hbody⟩
  rcases hdeclared with ⟨hfeatures, hroots, hsound, hfree⟩
  simp only [List.filterMap_append, List.filterMap_cons, ApiClause.collectionCall?,
    List.forall_mem_append, List.forall_mem_cons] at hroots hsound hfree
  refine ⟨?_, ?_, ?_, ?_⟩
  · simpa [featureTargets, List.filterMap_cons] using hfeatures
  · simpa [List.filterMap_cons] using hroots
  · simp only [List.filterMap_append, List.filterMap_cons, ApiClause.collectionCall?,
      List.forall_mem_append, List.forall_mem_cons]
    exact ⟨hsound.1, CollectionDecl.sound_of_without hbody hsound.2.1, hsound.2.2⟩
  · simp only [List.filterMap_append, List.filterMap_cons, ApiClause.collectionCall?,
      List.forall_mem_append, List.forall_mem_cons]
    exact ⟨hfree.1, hbody.controlFree hfree.2.1, hfree.2.2⟩

theorem routing_of_without (app : String) {clauses clauses' : List (ApiClause σ)}
    (h : ApiClause.Without clauses clauses') :
    (declared app clauses').routing = (declared app clauses).routing := by
  rcases h with ⟨before, name, after, hbody⟩
  rw [declared_collection, declared_collection]

/-- The trees are the same but for operations that are never open. -/
theorem without_tree (app : String) {clauses clauses' : List (ApiClause σ)}
    (h : ApiClause.Without clauses clauses') :
    List.Forall₂ (fun c c' => c.node.Without c'.node)
      (Collection.walkAll (declared app clauses).tree)
      (Collection.walkAll (declared app clauses').tree) := by
  rcases h with ⟨before, name, after, hbody⟩
  rw [declared_collection, declared_collection]
  exact (CollectionDecl.settleAlike_of_without hbody _).between _ none none .none

end ApiDecl

namespace Api

/-- A declaration of an operation that is never open leaves no trace in the table. Where clauses
are built, they are built without it too. Both tables agree binding by binding in method, path and
kind, in the operation that is run and in the methods that are named, so a search for any path
selects the bindings at one position, with the same captures. -/
theorem build_without {name : String} {clauses clauses' : List (ApiClause σ)} {api : Api σ}
    (hwithout : ApiClause.Without clauses clauses') (hbuild : build name clauses = .ok api) :
    ∃ api', build name clauses' = .ok api' ∧
      List.Forall₂ Binding.AgreesButDocs api.bindings api'.bindings ∧
      ∀ method path i captures,
        api.Selects method path i captures ↔ api'.Selects method path i captures := by
  rcases build_eq_ok_iff.1 hbuild with ⟨⟨hdeclared, hplaceholders, hdistinct⟩, rfl⟩
  have htree := ApiDecl.without_tree name hwithout
  have hplan : List.Forall₂ Binding.AgreesButDocs (ApiDecl.declared name clauses).plan
      (ApiDecl.declared name clauses').plan := by
    rw [ApiDecl.plan, ApiDecl.plan, ApiDecl.routing_of_without name hwithout]
    exact Table.agreesButDocs_plan htree name _
  have hagrees := hplan.imp fun _ _ hb => hb.toAgrees
  have hplaceholders' := forall_mem_of_forall₂ (fun (c c' : Collection σ)
    (h : c.node.Without c'.node) => h.distinctPlaceholders) htree hplaceholders
  refine ⟨_, build_eq_ok_iff.2 ⟨⟨ApiDecl.wellDeclared_of_without hwithout hdeclared,
    hplaceholders', (Table.distinct_iff_of_agrees hagrees).1 hdistinct⟩, rfl⟩, hplan, ?_⟩
  intro method path i captures
  exact selects_iff_of_agrees hagrees hdistinct method path i captures

/-- Pages of a site, with an operation on their drafts that would be bound where pages are shown. -/
def shadowedPages (drafts : List (CollectionClause Unit)) : List (ApiClause Unit) :=
  [.routing { headRoutes := false, optionsRoutes := false },
    .collection "pages" [.operation "show" [], .collection "drafts" (.noMember :: drafts)]]

/-- The operation is never open, so it does not clash, and the page is found at one position with
it and without. -/
theorem build_without_shadowedPages :
    ∃ api api' : Api Unit,
      build "site" (shadowedPages [.operation "show" [.gate .never]]) = .ok api ∧
        build "site" (shadowedPages []) = .ok api' ∧
          List.Forall₂ Binding.AgreesButDocs api.bindings api'.bindings ∧
            ∃ i captures, captures.toList = [("id", "42")] ∧
              api.Selects .get "/pages/42" i captures ∧
                api'.Selects .get "/pages/42" i captures := by
  have hwithout : ApiClause.Without (shadowedPages [.operation "show" [.gate .never]])
      (shadowedPages []) :=
    .within [_] "pages" [] (.inside [_] "drafts" [] (.here [.noMember] [] rfl rfl))
  have hbuild : ∃ api : Api Unit,
      build "site" (shadowedPages [.operation "show" [.gate .never]]) = .ok api :=
    isOk_iff_exists.1 (by decide +kernel)
  rcases hbuild with ⟨api, h⟩
  rcases build_without hwithout h with ⟨api', h', hagrees, hselects⟩
  have hfind : (api.find? .get "/pages/42").map (fun sel => sel.captures.toList) =
      some [("id", "42")] := by
    rw [(build_eq_ok_iff.1 h).2]
    decide +kernel
  rcases Option.map_eq_some_iff.1 hfind with ⟨⟨b, captures⟩, hsel, hcaptures⟩
  rcases List.mem_iff_getElem?.1 (mem_of_find? hsel).1 with ⟨i, hget⟩
  have hselected : api.Selects .get "/pages/42" i captures := ⟨b, hget, hsel⟩
  exact ⟨api, api', h, h', hagrees, i, captures, hcaptures, hselected,
    (hselects _ _ _ _).1 hselected⟩

end Api
end ResourceRouting
