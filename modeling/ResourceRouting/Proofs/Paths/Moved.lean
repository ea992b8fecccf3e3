import ResourceRouting.Proofs.Paths.Relative
import ResourceRouting.Proofs.Paths.Root

/-!
# Moved — one declaration under two roots

Nothing of a declaration but its full paths depends on the root. Here the tree and the plan of an
application are computed under the root `/` and then moved: every full path gets the root in
front, and all else stays.

* `ApiDecl.tree_eq_moved`: a tree is the one under the root `/`, moved.
* `ApiDecl.plan_eq_moved`: and so is its plan.
-/

namespace ResourceRouting

variable {σ : Type}

-- full paths are compared as they stand, and never computed
attribute [local irreducible] Routing.route

/-! ## Moving the full paths -/

def Operation.moved (f : String → String) (o : Operation σ) : Operation σ :=
  { o with path := f o.path, auxPath := f o.auxPath }

def CollectionNode.moved (f : String → String) (node : CollectionNode σ) : CollectionNode σ :=
  { node with
    path := f node.path
    docsPath := f node.docsPath
    operations := node.operations.map (Operation.moved f) }

namespace Collection

mutual

def moved (f : String → String) : Collection σ → Collection σ
  | ⟨node, children⟩ => ⟨node.moved f, movedAll f children⟩

def movedAll (f : String → String) : List (Collection σ) → List (Collection σ)
  | [] => []
  | c :: rest => moved f c :: movedAll f rest

end

end Collection

def CollectionSummary.moved (f : String → String) (s : CollectionSummary) : CollectionSummary :=
  { s with path := f s.path, docs := f s.docs }

def IndexDocument.moved (f : String → String) (d : IndexDocument) : IndexDocument :=
  { d with collections := d.collections.map (CollectionSummary.moved f) }

def Endpoint.moved (f : String → String) : Endpoint σ → Endpoint σ
  | operation o => operation (o.moved f)
  | head => head
  | options allow => options allow
  | collectionDocs c => collectionDocs (c.moved f)
  | operationDocs o => operationDocs (o.moved f)
  | index document => index (document.moved f)

def Binding.moved (f : String → String) (b : Binding σ) : Binding σ :=
  ⟨b.method, f b.path, b.endpoint.moved f⟩

theorem Endpoint.kind_moved (f : String → String) (e : Endpoint σ) :
    (e.moved f).kind = e.kind := by
  cases e <;> rfl

namespace Collection

variable {f : String → String}

theorem node_moved (c : Collection σ) : (c.moved f).node = c.node.moved f := by
  rcases c with ⟨node, children⟩
  rw [moved]

mutual

theorem walk_moved : ∀ c : Collection σ, (c.moved f).walk = c.walk.map (moved f)
  | ⟨node, children⟩ => by
      have hchildren := walkAll_movedAll children
      simp [moved, walk_mk, hchildren]

theorem walkAll_movedAll : ∀ cs : List (Collection σ),
    walkAll (movedAll f cs) = (walkAll cs).map (moved f)
  | [] => by
      simp [movedAll, walkAll]
  | c :: rest => by
      have hc := walk_moved c
      have hrest := walkAll_movedAll rest
      simp [movedAll, walkAll_cons, hc, hrest]

end

theorem movedAll_eq_map (cs : List (Collection σ)) : movedAll f cs = cs.map (moved f) := by
  induction cs with
  | nil =>
      simp [movedAll]
  | cons c rest ih =>
      simp [movedAll, ih]

theorem allow_moved (c : Collection σ) : (c.moved f).allow = c.allow := by
  have hmethods : (c.moved f).methods = c.methods := by
    simp only [methods, node_moved, CollectionNode.moved, List.filter_map, List.map_map]
    rfl
  simp only [allow, hmethods]

end Collection

theorem IndexDocument.ofCollections_moved {f : String → String} (app : String)
    (cs : List (Collection σ)) :
    ofCollections app (Collection.movedAll f cs) = (ofCollections app cs).moved f := by
  have hsummary : ∀ c : Collection σ, CollectionSummary.ofCollection (c.moved f) =
      (CollectionSummary.ofCollection c).moved f := by
    intro c
    simp [CollectionSummary.ofCollection, CollectionSummary.moved, Collection.node_moved,
      CollectionNode.moved, Operation.moved]
  simp [ofCollections, moved, Collection.movedAll_eq_map, hsummary]

/-! ## Trees under two roots -/

/-- The same settings with the root `/`. -/
def CompileContext.based (ctx : CompileContext σ) : CompileContext σ :=
  { ctx with routing := ctx.routing.withRoot "/" }

theorem OperationDecl.settled_eq_moved (owner : OperationOwner) (hooks : Hooks σ)
    (d : OperationDecl σ) :
    d.settled owner hooks =
      (d.settled { owner with routing := owner.routing.withRoot "/" } hooks).moved
        owner.routing.route := by
  simp only [settled, Operation.moved, Path.route_route_slash]
  rfl

namespace CollectionHead

theorem relative_moved (f : String → String) (parent? : Option (CollectionNode σ))
    (h : CollectionHead σ) :
    h.relative (parent?.map (CollectionNode.moved f)) = h.relative parent? := by
  cases parent? <;> rfl

theorem settled_eq_moved (ctx : CompileContext σ) (parent? : Option (CollectionNode σ))
    (h : CollectionHead σ) :
    h.settled ctx (parent?.map (CollectionNode.moved ctx.routing.route)) =
      (h.settled ctx.based parent?).moved ctx.routing.route := by
  have hlineage : ((parent?.map (CollectionNode.moved ctx.routing.route)).map
      CollectionNode.lineage).getD [] = (parent?.map CollectionNode.lineage).getD [] := by
    cases parent? <;> rfl
  have howner : h.owner ctx (parent?.map (CollectionNode.moved ctx.routing.route)) =
      { h.owner ctx parent? with routing := ctx.routing } := by
    simp only [owner, relative_moved]
  have hoperation : ∀ d : OperationDecl σ,
      d.settled (h.owner ctx (parent?.map (CollectionNode.moved ctx.routing.route))) ctx.hooks =
        (d.settled (h.owner ctx.based parent?) ctx.based.hooks).moved ctx.routing.route := by
    intro d
    rw [howner]
    exact d.settled_eq_moved _ _
  have hoperations : h.operations.map (OperationDecl.settled
      (h.owner ctx (parent?.map (CollectionNode.moved ctx.routing.route))) ctx.hooks) =
        (h.operations.map (OperationDecl.settled (h.owner ctx.based parent?)
          ctx.based.hooks)).map (Operation.moved ctx.routing.route) := by
    rw [List.map_map]
    exact List.map_congr_left fun d _ => hoperation d
  have hroute : ∀ path, ctx.routing.route (ctx.based.routing.route path) =
      ctx.routing.route path := Path.route_route_slash ctx.routing ctx.routing
  simp only [settled, node, CollectionNode.moved, relative_moved, hlineage, hoperations, hroute]
  rfl

end CollectionHead

namespace CollectionDecl

-- a subcollection sees its parent moved; the relative path that it takes from there is the same
mutual

theorem settled_eq_moved (ctx : CompileContext σ) : ∀ (d : CollectionDecl σ)
    (parent? : Option (CollectionNode σ)),
      d.settled ctx (parent?.map (CollectionNode.moved ctx.routing.route)) =
        (d.settled ctx.based parent?).moved ctx.routing.route
  | ⟨head, children⟩, parent? => by
      have hhead := head.settled_eq_moved ctx parent?
      have hchildren := settledAll_eq_moved ctx children (some (head.settled ctx.based parent?))
      rw [Option.map_some] at hchildren
      simp only [settled, Collection.moved, hhead, hchildren]

theorem settledAll_eq_moved (ctx : CompileContext σ) : ∀ (ds : List (CollectionDecl σ))
    (parent? : Option (CollectionNode σ)),
      settledAll ctx (parent?.map (CollectionNode.moved ctx.routing.route)) ds =
        Collection.movedAll ctx.routing.route (settledAll ctx.based parent? ds)
  | [], parent? => by
      simp only [settledAll, Collection.movedAll]
  | d :: rest, parent? => by
      have hd := settled_eq_moved ctx d parent?
      have hrest := settledAll_eq_moved ctx rest parent?
      simp only [settledAll, Collection.movedAll, hd, hrest]

end

end CollectionDecl

/-! ## Plans under two roots -/

theorem CollectionNode.Routed.moved {routing : Routing} {node : CollectionNode σ}
    (h : node.Routed (routing.withRoot "/")) : (node.moved routing.route).Routed routing := by
  have hmoved : ∀ {full own : String}, full = (routing.withRoot "/").route own →
      routing.route full = routing.route own := by
    intro full own hfull
    rw [hfull, Path.route_route_slash]
  refine ⟨hmoved h.path, hmoved h.docsPath, ?_, ?_⟩
  · intro o ho
    rcases List.mem_map.1 ho with ⟨o, hmem, rfl⟩
    exact hmoved (h.operationPath o hmem)
  · intro o ho
    rcases List.mem_map.1 ho with ⟨o, hmem, rfl⟩
    exact hmoved (h.auxPath o hmem)

namespace Table

theorem operationDocsPath_moved {routing : Routing} {node : CollectionNode σ}
    (h : node.Routed (routing.withRoot "/")) (o : Operation σ) :
    operationDocsPath (node.moved routing.route) (o.moved routing.route) =
      routing.route (operationDocsPath node o) := by
  calc
    operationDocsPath (node.moved routing.route) (o.moved routing.route)
        = routing.route (o.docsRelative node) := h.moved.operationDocsPath _
    _ = routing.route ((routing.withRoot "/").route (o.docsRelative node)) := by
          rw [Path.route_route_slash]
    _ = routing.route (operationDocsPath node o) := by
          rw [h.operationDocsPath]

theorem auxiliary_moved (routing : Routing) (kind : Auxiliary) (method : Method) (path : String)
    (endpoint : Endpoint σ) (f : String → String) :
    auxiliary routing kind method (f path) (endpoint.moved f) =
      (auxiliary (routing.withRoot "/") kind method path endpoint).map (Binding.moved f) := by
  have hallows : (routing.withRoot "/").allows kind = routing.allows kind := by
    cases kind <;> rfl
  unfold auxiliary
  rw [hallows]
  split <;> rfl

end Table

theorem Operation.bindings_moved {routing : Routing} {node : CollectionNode σ}
    (h : node.Routed (routing.withRoot "/")) (o : Operation σ) :
    (o.moved routing.route).bindings routing (node.moved routing.route) =
      (o.bindings (routing.withRoot "/") node).map (Binding.moved routing.route) := by
  have hdocs : Path.join (Path.join (node.moved routing.route).docsPath "operations")
      (o.moved routing.route).name =
        routing.route (Path.join (Path.join node.docsPath "operations") o.name) :=
    Table.operationDocsPath_moved h o
  simp only [bindings, List.map_append, ← Table.auxiliary_moved, ← hdocs]
  rfl

theorem Collection.ownBindings_moved {routing : Routing} {c : Collection σ}
    (h : c.node.Routed (routing.withRoot "/")) :
    (c.moved routing.route).ownBindings routing =
      (c.ownBindings (routing.withRoot "/")).map (Binding.moved routing.route) := by
  have hoperations : ((c.node.moved routing.route).operations.filter fun o =>
      o.gate.isRegistered).flatMap (Operation.bindings routing (c.node.moved routing.route)) =
        ((c.node.operations.filter fun o => o.gate.isRegistered).flatMap
          (Operation.bindings (routing.withRoot "/") c.node)).map
            (Binding.moved routing.route) := by
    simp only [CollectionNode.moved, List.filter_map, List.flatMap_map, List.map_flatMap,
      ← Operation.bindings_moved h]
    rfl
  simp only [ownBindings, node_moved, allow_moved, hoperations, List.map_append,
    ← Table.auxiliary_moved]
  rfl

namespace ApiDecl

/-- The same declaration with the root `/`. -/
def based (d : ApiDecl σ) : ApiDecl σ := { d with routing := d.routing.withRoot "/" }

/-- A tree is the one under the root `/` with the root in front of its full paths. -/
theorem tree_eq_moved (d : ApiDecl σ) :
    d.tree = Collection.movedAll d.routing.route d.based.tree :=
  CollectionDecl.settledAll_eq_moved d.context d.collections none

/-- A plan is the one under the root `/` with the root in front of its paths. -/
theorem plan_eq_moved (d : ApiDecl σ) :
    d.plan = d.based.plan.map (Binding.moved d.routing.route) := by
  -- documents of operations are placed under full paths, which must be known to be routed ones
  have hrouted : ∀ c ∈ Collection.walkAll d.based.tree,
      c.node.Routed (d.routing.withRoot "/") := routed_of_mem_tree
  have hcollections : (Collection.walkAll d.tree).flatMap (Collection.ownBindings d.routing) =
      ((Collection.walkAll d.based.tree).flatMap
        (Collection.ownBindings (d.routing.withRoot "/"))).map
          (Binding.moved d.routing.route) := by
    rw [tree_eq_moved, Collection.walkAll_movedAll, List.flatMap_map, List.map_flatMap]
    exact List.flatMap_congr fun c hc => Collection.ownBindings_moved (hrouted c hc)
  have hindex : Table.auxiliary d.routing .index .get (d.routing.route "docs")
      (.index (.ofCollections d.name d.tree) : Endpoint σ) =
        (Table.auxiliary (d.routing.withRoot "/") .index .get
          ((d.routing.withRoot "/").route "docs")
            (.index (.ofCollections d.name d.based.tree))).map
              (Binding.moved d.routing.route) := by
    rw [← Table.auxiliary_moved, Path.route_route_slash, tree_eq_moved,
      IndexDocument.ofCollections_moved]
    rfl
  rw [plan, Table.plan, hcollections, hindex, ← List.map_append]
  rfl

end ApiDecl
end ResourceRouting
