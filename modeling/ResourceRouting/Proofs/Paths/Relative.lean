import ResourceRouting.Proofs.Paths.Segments
import ResourceRouting.Proofs.Plan

/-!
# Relative — the paths of a table before the root is put in front

Every path of a table is read off the tree relative to the root, and the root is put in front of
it in the end. The path of a collection is kept with it; the other relative paths are named here.

* `ApiDecl.forall_mem_tree`: what a collection passes on to its subcollections holds of the whole
  tree.
* `ApiDecl.routed_of_mem_tree`: the paths of a settled collection are its relative paths with the
  root in front.
* `Table.forall_mem_plan`: what holds of the bindings of each kind holds of the whole plan.
* `Table.eq_of_mem_plan`: the binding of an operation is told by the operation.
-/

namespace ResourceRouting

variable {σ : Type}

/-! ## Relative paths -/

/-- The path of the document of a collection: the names from the root down, under `docs`. -/
def CollectionNode.docsRelative (node : CollectionNode σ) : String :=
  Path.join "docs" (Path.ofSegments node.lineage)

/-- The path of the auxiliary bindings of an operation, which never goes through a member. -/
def Operation.auxRelative (node : CollectionNode σ) (o : Operation σ) : String :=
  Path.join node.relative o.name

def Operation.docsRelative (node : CollectionNode σ) (o : Operation σ) : String :=
  Path.join (Path.join node.docsRelative "operations") o.name

/-- All paths of the collection and of its operations are relative ones with the root in front. -/
structure CollectionNode.Routed (routing : Routing) (node : CollectionNode σ) : Prop where
  path : node.path = routing.route node.relative
  docsPath : node.docsPath = routing.route node.docsRelative
  operationPath : ∀ o ∈ node.operations, o.path = routing.route (o.relative node)
  auxPath : ∀ o ∈ node.operations, o.auxPath = routing.route (o.auxRelative node)

theorem OperationDecl.path_settled (owner : OperationOwner) (hooks : Hooks σ)
    (d : OperationDecl σ) :
    (d.settled owner hooks).path = owner.routing.route (d.relative owner) := by
  rw [settled]

theorem OperationDecl.auxPath_settled (owner : OperationOwner) (hooks : Hooks σ)
    (d : OperationDecl σ) :
    (d.settled owner hooks).auxPath = owner.routing.route (Path.join owner.path d.name) := by
  rw [settled]

theorem CollectionHead.routed_settled (ctx : CompileContext σ)
    (parent? : Option (CollectionNode σ)) (h : CollectionHead σ) :
    (h.settled ctx parent?).Routed ctx.routing := by
  have hoperation : ∀ o ∈ (h.settled ctx parent?).operations,
      ∃ d, o = OperationDecl.settled (h.owner ctx parent?) ctx.hooks d := by
    intro o ho
    rcases List.mem_map.1 ho with ⟨d, -, rfl⟩
    exact ⟨d, rfl⟩
  refine ⟨?_, ?_, ?_, ?_⟩
  · rw [settled, node]
  · rw [CollectionNode.docsRelative, settled, node]
  · intro o ho
    rcases hoperation o ho with ⟨d, rfl⟩
    rw [relative_settled, OperationDecl.path_settled, owner]
  · intro o ho
    rcases hoperation o ho with ⟨d, rfl⟩
    rw [OperationDecl.auxPath_settled, Operation.auxRelative, OperationDecl.settled, settled,
      node, owner]

theorem CollectionNode.bare_docsRelative (node : CollectionNode σ) :
    Path.Bare node.docsRelative := by
  have hdocs : Path.Bare "docs" := ⟨'d', ['o', 'c', 's'], by decide, by decide⟩
  exact hdocs.join _

/-- The documents of operations are placed under full paths, which comes to the same. -/
theorem CollectionNode.Routed.operationDocsPath {routing : Routing} {node : CollectionNode σ}
    (h : node.Routed routing) (o : Operation σ) :
    Table.operationDocsPath node o = routing.route (o.docsRelative node) := by
  have hbare := node.bare_docsRelative
  rw [Table.operationDocsPath, Operation.docsRelative, h.docsPath,
    Path.route_join (hbare.join "operations"), Path.route_join hbare]

/-! ## Trees -/

section Inheritance

variable {ctx : CompileContext σ} {P : CollectionNode σ → Prop} {S : CollectionHead σ → Prop}

namespace CollectionDecl

-- by the tree of declarations; the compiled parent changes on the way down and carries `P` along
mutual

/-- `P` is passed on from a collection to those below it that satisfy `S`. -/
theorem forall_mem_walk_settled
    (hstep : ∀ parent head, P parent → S head → P (head.settled ctx (some parent))) :
    ∀ (d : CollectionDecl σ) (parent? : Option (CollectionNode σ)),
      P (d.head.settled ctx parent?) → (∀ e ∈ walkAll d.children, S e.head) →
        ∀ c ∈ (d.settled ctx parent?).walk, P c.node
  | ⟨head, children⟩, parent?, hhead, hchildren => by
      rw [settled, Collection.walk_mk, List.forall_mem_cons]
      exact ⟨hhead, forall_mem_walkAll_settledAll hstep children _ hhead hchildren⟩

theorem forall_mem_walkAll_settledAll
    (hstep : ∀ parent head, P parent → S head → P (head.settled ctx (some parent))) :
    ∀ (ds : List (CollectionDecl σ)) (parent : CollectionNode σ), P parent →
      (∀ e ∈ walkAll ds, S e.head) →
        ∀ c ∈ Collection.walkAll (settledAll ctx (some parent) ds), P c.node
  | [], _, _, _ => by
      intro c hc
      cases hc
  | d :: rest, parent, hparent, hall => by
      rcases d with ⟨head, children⟩
      rw [walkAll, walk, List.forall_mem_append, List.forall_mem_cons] at hall
      rcases hall with ⟨⟨hhead, hchildren⟩, hrest⟩
      rw [settledAll, Collection.walkAll_cons, List.forall_mem_append]
      exact ⟨forall_mem_walk_settled hstep ⟨head, children⟩ (some parent)
          (hstep parent head hparent hhead) hchildren,
        forall_mem_walkAll_settledAll hstep rest parent hparent hrest⟩

end

end CollectionDecl

end Inheritance

namespace ApiDecl

/-- What holds of every root collection and is passed on holds of the whole tree. -/
theorem forall_mem_tree {d : ApiDecl σ} {P : CollectionNode σ → Prop}
    {S : CollectionHead σ → Prop}
    (hroot : ∀ head : CollectionHead σ, P (head.settled d.context none))
    (hstep : ∀ parent head, P parent → S head → P (head.settled d.context (some parent)))
    (hbelow : ∀ c ∈ d.collections, ∀ e ∈ CollectionDecl.walkAll c.children, S e.head) :
    ∀ c ∈ Collection.walkAll d.tree, P c.node := by
  have hall : ∀ ds : List (CollectionDecl σ),
      (∀ c ∈ ds, ∀ e ∈ CollectionDecl.walkAll c.children, S e.head) →
        ∀ c ∈ Collection.walkAll (CollectionDecl.settledAll d.context none ds), P c.node := by
    intro ds
    induction ds with
    | nil =>
        intro _ c hc
        cases hc
    | cons r rest ih =>
        intro hds
        rw [List.forall_mem_cons] at hds
        rw [CollectionDecl.settledAll, Collection.walkAll_cons, List.forall_mem_append]
        exact ⟨CollectionDecl.forall_mem_walk_settled hstep r none (hroot r.head) hds.1,
          ih hds.2⟩
  exact hall d.collections hbelow

/-- What holds of a settled collection whatever its parent holds of the whole tree. -/
theorem forall_mem_tree_of_settled {d : ApiDecl σ} {P : CollectionNode σ → Prop}
    (h : ∀ (head : CollectionHead σ) (parent? : Option (CollectionNode σ)),
      P (head.settled d.context parent?)) : ∀ c ∈ Collection.walkAll d.tree, P c.node :=
  forall_mem_tree (S := fun _ => True) (fun head => h head none)
    (fun parent head _ _ => h head (some parent)) (fun _ _ _ _ => trivial)

theorem routed_of_mem_tree {d : ApiDecl σ} :
    ∀ c ∈ Collection.walkAll d.tree, c.node.Routed d.routing :=
  forall_mem_tree_of_settled fun head => head.routed_settled d.context

end ApiDecl

/-! ## Plans -/

namespace Table

theorem forall_mem_auxiliary {routing : Routing} {kind : Auxiliary} {method : Method}
    {path : String} {endpoint : Endpoint σ} {P : Binding σ → Prop}
    (h : P ⟨method, path, endpoint⟩) :
    ∀ b ∈ auxiliary routing kind method path endpoint, P b := by
  unfold auxiliary
  split
  · intro b hb
    rw [List.mem_singleton.1 hb]
    exact h
  · intro b hb
    cases hb

/-- What holds of the bindings of every collection, of every operation that may be open and of the
index holds of all that are planned. -/
theorem forall_mem_plan {app : String} {routing : Routing} {collections : List (Collection σ)}
    {P : Binding σ → Prop}
    (hcollection : ∀ c ∈ Collection.walkAll collections,
      P ⟨.head, c.node.path, .head⟩ ∧ P ⟨.options, c.node.path, .options c.allow⟩ ∧
        P ⟨.get, c.node.docsPath, .collectionDocs c⟩)
    (hoperation : ∀ c ∈ Collection.walkAll collections, ∀ o ∈ c.node.operations,
      o.gate.isRegistered = true →
      P ⟨o.method, o.path, .operation o⟩ ∧ P ⟨.head, o.auxPath, .head⟩ ∧
        P ⟨.options, o.auxPath, .options o.allow⟩ ∧
          P ⟨.get, operationDocsPath c.node o, .operationDocs o⟩)
    (hindex : P ⟨.get, routing.route "docs", .index (.ofCollections app collections)⟩) :
    ∀ b ∈ plan app routing collections, P b := by
  rw [plan, List.forall_mem_append]
  refine ⟨?_, forall_mem_auxiliary hindex⟩
  intro b hb
  rcases List.mem_flatMap.1 hb with ⟨c, hc, hown⟩
  rcases hcollection c hc with ⟨hhead, hoptions, hdocs⟩
  have hoperations : ∀ b ∈ (c.node.operations.filter fun o => o.gate.isRegistered).flatMap
      (Operation.bindings routing c.node), P b := by
    intro b hb
    rcases List.mem_flatMap.1 hb with ⟨o, ho, hbinding⟩
    rcases List.mem_filter.1 ho with ⟨ho, hregistered⟩
    rcases hoperation c hc o ho hregistered with ⟨hself, hauxHead, hauxOptions, hauxDocs⟩
    have hall : ∀ b ∈ Operation.bindings routing c.node o, P b := by
      simp only [Operation.bindings, List.forall_mem_append]
      refine ⟨⟨⟨?_, forall_mem_auxiliary hauxHead⟩, forall_mem_auxiliary hauxOptions⟩,
        forall_mem_auxiliary hauxDocs⟩
      intro b hb
      rw [List.mem_singleton.1 hb]
      exact hself
    exact hall b hbinding
  have hall : ∀ b ∈ Collection.ownBindings routing c, P b := by
    simp only [Collection.ownBindings, List.forall_mem_append]
    exact ⟨⟨⟨forall_mem_auxiliary hhead, forall_mem_auxiliary hoptions⟩,
      forall_mem_auxiliary hdocs⟩, hoperations⟩
  exact hall b hown

/-- An operation is bound by its own method and path, and some collection has it. -/
theorem eq_of_mem_plan {app : String} {routing : Routing} {collections : List (Collection σ)}
    {b : Binding σ} (hb : b ∈ plan app routing collections) {o : Operation σ}
    (hendpoint : b.endpoint = .operation o) :
    b = ⟨o.method, o.path, .operation o⟩ ∧
      ∃ c ∈ Collection.walkAll collections, o ∈ c.node.operations := by
  have hall : ∀ b ∈ plan app routing collections, ∀ o, b.endpoint = .operation o →
      b = ⟨o.method, o.path, .operation o⟩ ∧
        ∃ c ∈ Collection.walkAll collections, o ∈ c.node.operations := by
    refine forall_mem_plan (by simp) ?_ (by simp)
    intro c hc o ho _
    refine ⟨?_, by simp, by simp, by simp⟩
    intro o' heq
    cases heq
    exact ⟨rfl, c, hc, ho⟩
  exact hall b hb o hendpoint

/-- Operations that are never open are not bound. -/
theorem isRegistered_of_mem_plan {app : String} {routing : Routing}
    {collections : List (Collection σ)} {b : Binding σ} (hb : b ∈ plan app routing collections)
    {o : Operation σ} (hendpoint : b.endpoint = .operation o) : o.gate.isRegistered = true := by
  have hall : ∀ b ∈ plan app routing collections, ∀ o, b.endpoint = .operation o →
      o.gate.isRegistered = true := by
    refine forall_mem_plan (by simp) ?_ (by simp)
    intro c hc o ho hregistered
    refine ⟨?_, by simp, by simp, by simp⟩
    intro o' heq
    cases heq
    exact hregistered
  exact hall b hb o hendpoint

end Table
end ResourceRouting
