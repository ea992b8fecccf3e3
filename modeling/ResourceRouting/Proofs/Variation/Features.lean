import ResourceRouting.Proofs.Lists
import ResourceRouting.Proofs.Plan
import ResourceRouting.Proofs.Variation.Contexts

/-!
# Features — what features leave alone

Features are looked up by the names of collections, wherever in the tree these stand, and the host
decides on each of them. All that comes of it are parameters that are appended to those of an
operation: routes, gates and capabilities are settled without them.

* `OperationDecl.grownFrom_withFeatures`: the parameters of an operation with features are those
  without, and after them others of other names.
* `ApiDecl.alike_tree`: a tree is the same with other features, the parameters apart.
* `Api.routes_of_features`: whatever features are declared and enabled, the same applications are
  built, with the same routes.
-/

namespace ResourceRouting

variable {σ : Type}

/-! ## Parameters -/

/-- The second list begins with the first, and has no name of the first one again after it. -/
def Parameter.GrownFrom (own params : List Parameter) : Prop :=
  ∃ injected, params = own ++ injected ∧ ∀ p ∈ injected, p.name ∉ own.map Parameter.name

namespace OperationDecl

theorem grownFrom_inject {own params : List Parameter} (h : Parameter.GrownFrom own params)
    (p : Parameter) : Parameter.GrownFrom own (inject params p) := by
  rcases h with ⟨injected, rfl, hfresh⟩
  by_cases hmem : p.name ∈ (own ++ injected).map Parameter.name
  · have hany : ((own ++ injected).any fun q => q.name == p.name) = true := by
      simpa using hmem
    rw [inject, if_pos hany]
    exact ⟨injected, rfl, hfresh⟩
  · have hany : ¬ ((own ++ injected).any fun q => q.name == p.name) = true := by
      simpa using hmem
    rw [inject, if_neg hany]
    refine ⟨injected ++ [p], List.append_assoc _ _ _, ?_⟩
    rw [List.forall_mem_append, List.forall_mem_singleton]
    rw [List.map_append, List.mem_append, not_or] at hmem
    exact ⟨hfresh, hmem.1⟩

theorem grownFrom_foldl_inject {own params : List Parameter} (h : Parameter.GrownFrom own params)
    (ps : List Parameter) : Parameter.GrownFrom own (ps.foldl inject params) := by
  induction ps generalizing params with
  | nil =>
      exact h
  | cons p rest ih =>
      exact ih (grownFrom_inject h p)

/-- Features append parameters of new names and leave those of the operation as they are. -/
theorem grownFrom_withFeatures (own : List Parameter) (extensions : List (Feature × Extension)) :
    Parameter.GrownFrom own (withFeatures own extensions) := by
  -- from one extension to the next the list has grown already
  have hfrom : ∀ {params : List Parameter}, Parameter.GrownFrom own params →
      Parameter.GrownFrom own (withFeatures params extensions) := by
    induction extensions with
    | nil =>
        intro params h
        exact h
    | cons e rest ih =>
        intro params h
        exact ih (grownFrom_foldl_inject h e.2.params)
  refine hfrom ⟨[], (List.append_nil own).symm, ?_⟩
  intro p hp
  cases hp

end OperationDecl

/-! ## Operations and bindings that agree -/

/-- The operations are bound alike and are closed to the same requests, validation apart. -/
structure Operation.Agrees (o o' : Operation σ) : Prop where
  name : o.name = o'.name
  method : o.method = o'.method
  scope : o.scope = o'.scope
  path : o.path = o'.path
  auxPath : o.auxPath = o'.auxPath
  capability : o.capability? = o'.capability?
  gate : o.gate = o'.gate

/-- Besides, the second operation has the parameters of the first one, and others after them. -/
structure Operation.Extends (plain o : Operation σ) : Prop extends plain.Agrees o where
  params : Parameter.GrownFrom plain.params o.params

/-- The bindings answer the same method on the same path with endpoints of one kind. -/
structure Binding.Agrees (b b' : Binding σ) : Prop where
  method : b.method = b'.method
  path : b.path = b'.path
  kind : b.endpoint.kind = b'.endpoint.kind

/-- The collections are at one place, and their operations are related one by one. -/
structure CollectionNode.Alike (R : Operation σ → Operation σ → Prop)
    (node node' : CollectionNode σ) : Prop where
  relative : node.relative = node'.relative
  path : node.path = node'.path
  docsPath : node.docsPath = node'.docsPath
  idParam : node.idParam = node'.idParam
  lineage : node.lineage = node'.lineage
  operations : List.Forall₂ R node.operations node'.operations

namespace OperationDecl

variable (d : OperationDecl σ) (owner : OperationOwner) (hooks hooks' : Hooks σ)

theorem agrees_settled (features features' : List Feature) :
    (d.settled { owner with features } hooks).Agrees
      (d.settled { owner with features := features' } hooks') :=
  ⟨rfl, rfl, rfl, rfl, rfl, rfl, rfl⟩

theorem extends_settled (features : List Feature) :
    (d.settled { owner with features := [] } hooks).Extends
      (d.settled { owner with features } hooks') :=
  ⟨d.agrees_settled owner hooks hooks' [] features, grownFrom_withFeatures _ _⟩

end OperationDecl

/-! ## Trees -/

section Trees

variable {R : Operation σ → Operation σ → Prop} {ctx ctx' : CompileContext σ}

theorem CollectionHead.relative_eq_of_alike {parent? parent'? : Option (CollectionNode σ)}
    (h : CollectionHead σ) (hparent : Option.Rel (CollectionNode.Alike R) parent? parent'?) :
    h.relative parent? = h.relative parent'? := by
  cases hparent with
  | none => rfl
  | some hparent => rw [relative, relative, placement, placement, hparent.relative, hparent.idParam]

/-- Contexts with the same settings put a collection at one place. -/
theorem CollectionHead.alike_settled (hrouting : ctx.routing = ctx'.routing)
    {parent? parent'? : Option (CollectionNode σ)} (h : CollectionHead σ)
    (hoperation : ∀ (d : OperationDecl σ) (owner : OperationOwner),
      R (d.settled { owner with features := h.activeFeatures ctx } ctx.hooks)
        (d.settled { owner with features := h.activeFeatures ctx' } ctx'.hooks))
    (hparent : Option.Rel (CollectionNode.Alike R) parent? parent'?) :
    (h.settled ctx parent?).Alike R (h.settled ctx' parent'?) := by
  have hrelative := h.relative_eq_of_alike hparent
  have hlineage : (parent?.map CollectionNode.lineage).getD [] =
      (parent'?.map CollectionNode.lineage).getD [] := by
    cases hparent with
    | none => rfl
    | some hparent => exact hparent.lineage
  refine ⟨hrelative, ?_, ?_, rfl, ?_, ?_⟩
  · simp only [settled, node, hrelative, hrouting]
  · simp only [settled, node, hlineage, hrouting]
  · simp only [settled, node, hlineage]
  · simp only [settled, node]
    rw [List.forall₂_map_left_iff, List.forall₂_map_right_iff, List.forall₂_same]
    intro d _
    have howner : h.owner ctx' parent'? =
        { h.owner ctx parent? with features := h.activeFeatures ctx' } := by
      rw [owner, owner, hrelative, hrouting]
    rw [howner]
    exact hoperation d (h.owner ctx parent?)

namespace ApiDecl

variable {d d' : ApiDecl σ}

/-- A tree is the same with other features and decisions, as far as its operations are. -/
theorem alike_tree (hrouting : d.routing = d'.routing)
    (hcollections : d.collections = d'.collections)
    (hoperation : ∀ (head : CollectionHead σ) (o : OperationDecl σ) (owner : OperationOwner),
      R (o.settled { owner with features := head.activeFeatures d.context } d.hooks)
        (o.settled { owner with features := head.activeFeatures d'.context } d'.hooks)) :
    List.Forall₂ (fun c c' => c.node.Alike R c'.node) (Collection.walkAll d.tree)
      (Collection.walkAll d'.tree) := by
  rw [tree, tree, ← hcollections]
  refine CollectionDecl.related_walkAll_settledAll ?_ d.collections
  intro head parent? parent'? hparent
  exact head.alike_settled hrouting (hoperation head) hparent

theorem agrees_tree (hrouting : d.routing = d'.routing)
    (hcollections : d.collections = d'.collections) :
    List.Forall₂ (fun c c' => c.node.Alike Operation.Agrees c'.node) (Collection.walkAll d.tree)
      (Collection.walkAll d'.tree) :=
  alike_tree hrouting hcollections fun _ o owner => o.agrees_settled owner _ _ _ _

/-- Where no feature is declared, there are the parameters of the operations alone. -/
theorem extends_tree (hrouting : d.routing = d'.routing)
    (hcollections : d.collections = d'.collections) (hplain : d.features = {}) :
    List.Forall₂ (fun c c' => c.node.Alike Operation.Extends c'.node) (Collection.walkAll d.tree)
      (Collection.walkAll d'.tree) := by
  refine alike_tree hrouting hcollections fun head o owner => ?_
  have hnone : head.activeFeatures d.context = [] := by
    rw [CollectionHead.activeFeatures, context, hplain]
    rfl
  rw [hnone]
  exact o.extends_settled owner _ _ _

end ApiDecl

end Trees

/-! ## Tables -/

namespace Table

theorem agrees_auxiliary (routing : Routing) (kind : Auxiliary) (method : Method) (path : String)
    {endpoint endpoint' : Endpoint σ} (hkind : endpoint.kind = endpoint'.kind) :
    List.Forall₂ Binding.Agrees (auxiliary routing kind method path endpoint)
      (auxiliary routing kind method path endpoint') := by
  unfold auxiliary
  split
  · exact .cons ⟨rfl, rfl, hkind⟩ .nil
  · exact .nil

end Table

section Tables

variable (routing : Routing)

theorem Operation.Agrees.bindings {node node' : CollectionNode σ} {o o' : Operation σ}
    (hdocs : node.docsPath = node'.docsPath) (h : o.Agrees o') :
    List.Forall₂ Binding.Agrees (o.bindings routing node) (o'.bindings routing node') := by
  have hself : List.Forall₂ Binding.Agrees [⟨o.method, o.path, .operation o⟩]
      [⟨o'.method, o'.path, .operation o'⟩] := .cons ⟨h.method, h.path, rfl⟩ .nil
  rw [Operation.bindings, Operation.bindings, h.auxPath, hdocs, h.name]
  refine List.rel_append (List.rel_append (List.rel_append hself ?_) ?_) ?_
  · exact Table.agrees_auxiliary routing _ _ _ rfl
  · exact Table.agrees_auxiliary routing _ _ _ rfl
  · exact Table.agrees_auxiliary routing _ _ _ rfl

theorem CollectionNode.Alike.ownBindings {c c' : Collection σ}
    (h : c.node.Alike Operation.Agrees c'.node) :
    List.Forall₂ Binding.Agrees (c.ownBindings routing) (c'.ownBindings routing) := by
  have hregistered : List.Forall₂ Operation.Agrees
      (c.node.operations.filter fun o => o.gate.isRegistered)
      (c'.node.operations.filter fun o => o.gate.isRegistered) := by
    refine List.rel_filter ?_ h.operations
    intro o o' ho
    dsimp only
    rw [ho.gate]
  have hoperations := List.rel_flatMap hregistered
    fun o o' (ho : o.Agrees o') => ho.bindings routing h.docsPath
  rw [Collection.ownBindings, Collection.ownBindings, h.path, h.docsPath]
  refine List.rel_append (List.rel_append (List.rel_append ?_ ?_) ?_) hoperations
  · exact Table.agrees_auxiliary routing _ _ _ rfl
  · exact Table.agrees_auxiliary routing _ _ _ rfl
  · exact Table.agrees_auxiliary routing _ _ _ rfl

theorem Table.agrees_plan {cs cs' : List (Collection σ)}
    (h : List.Forall₂ (fun c c' => c.node.Alike Operation.Agrees c'.node) (Collection.walkAll cs)
      (Collection.walkAll cs')) (app : String) :
    List.Forall₂ Binding.Agrees (plan app routing cs) (plan app routing cs') := by
  have hcollections := List.rel_flatMap h fun c c'
    (hc : c.node.Alike Operation.Agrees c'.node) => hc.ownBindings routing
  exact List.rel_append hcollections (agrees_auxiliary routing _ _ _ rfl)

end Tables

/-! ## Built alike -/

/-- Whether bindings clash is told by their methods and paths. -/
theorem Table.distinct_iff_of_agrees {t t' : Table σ} (h : List.Forall₂ Binding.Agrees t t') :
    t.Distinct ↔ t'.Distinct := by
  have hroutes : t.map (fun b => (b.method, b.path)) = t'.map fun b => (b.method, b.path) := by
    rw [← List.forall₂_eq_eq_eq, List.forall₂_map_left_iff, List.forall₂_map_right_iff]
    exact h.imp fun b b' hb => Prod.ext hb.method hb.path
  have hdistinct : ∀ t : Table σ, t.Distinct ↔
      (t.map fun b => (b.method, b.path)).Pairwise fun a b =>
        ¬ (a.1 = b.1 ∧ Path.shape a.2 = Path.shape b.2) := by
    intro t
    rw [List.pairwise_map]
    rfl
  rw [hdistinct, hdistinct, hroutes]

theorem CollectionNode.Alike.distinctPlaceholders_iff {node node' : CollectionNode σ}
    (h : node.Alike Operation.Agrees node') :
    node.DistinctPlaceholders ↔ node'.DistinctPlaceholders := by
  have hoperation : ∀ o o' : Operation σ, o.Agrees o' →
      ((Path.params (o.relative node)).Nodup ↔ (Path.params (o'.relative node')).Nodup) := by
    intro o o' ho
    rw [Operation.relative, Operation.relative, h.relative, h.idParam, ho.name, ho.scope]
  rw [DistinctPlaceholders, DistinctPlaceholders, h.relative,
    forall_mem_iff_of_forall₂ hoperation h.operations]

namespace ApiDecl

variable (name : String) {clauses clauses' : List (ApiClause σ)}

theorem declared_collections_eq (hcollections : clauses.filterMap ApiClause.collectionCall? =
    clauses'.filterMap ApiClause.collectionCall?) :
    (declared name clauses).collections = (declared name clauses').collections := by
  rw [declared, declared, hcollections]

theorem declared_routing_eq (hrouting : clauses.filterMap ApiClause.routing? =
    clauses'.filterMap ApiClause.routing?) :
    (declared name clauses).routing = (declared name clauses').routing := by
  have hlast : ∀ l : List (ApiClause σ), lastSaid? ApiClause.routing? l =
      (l.filterMap ApiClause.routing?).reverse.head? := by
    intro l
    rw [lastSaid?, ← List.filterMap_reverse, List.head?_filterMap]
  rw [declared, declared, hlast, hlast, hrouting]

/-- Without a call that declares a feature there is none. -/
theorem declared_features_eq (hplain : clauses.filterMap ApiClause.featureCall? = []) :
    (declared name clauses).features = {} := by
  rw [declared, hplain]
  rfl

end ApiDecl

namespace Api

/-- Features leave the routes alone. Of clauses that say the same of collections and of settings,
with whatever features are accepted and whatever decisions of the host, all are built or none. The
tables of the built applications agree binding by binding in method, path and kind, and their
collections operation by operation in all but what is validated; there, an operation without any
feature has the first of the parameters that it has with them, and the others have other names. -/
theorem routes_of_features (name : String) {clauses clauses' : List (ApiClause σ)}
    (hcollections : clauses.filterMap ApiClause.collectionCall? =
      clauses'.filterMap ApiClause.collectionCall?)
    (hrouting : clauses.filterMap ApiClause.routing? = clauses'.filterMap ApiClause.routing?)
    (hfeatures : FeaturesAccepted (ApiDecl.featureTargets clauses))
    (hfeatures' : FeaturesAccepted (ApiDecl.featureTargets clauses')) :
    ((∃ api, build name clauses = .ok api) ↔ ∃ api', build name clauses' = .ok api') ∧
    ∀ api api' : Api σ, build name clauses = .ok api → build name clauses' = .ok api' →
      List.Forall₂ Binding.Agrees api.bindings api'.bindings ∧
      List.Forall₂ (fun c c' => c.node.Alike Operation.Agrees c'.node)
        (Collection.walkAll api.collections) (Collection.walkAll api'.collections) ∧
      (clauses.filterMap ApiClause.featureCall? = [] →
        List.Forall₂ (fun c c' => c.node.Alike Operation.Extends c'.node)
          (Collection.walkAll api.collections) (Collection.walkAll api'.collections)) := by
  have hdeclared := ApiDecl.declared_collections_eq name hcollections
  have hsettings := ApiDecl.declared_routing_eq name hrouting
  have htree := ApiDecl.agrees_tree hsettings hdeclared
  have hplan : List.Forall₂ Binding.Agrees (ApiDecl.declared name clauses).plan
      (ApiDecl.declared name clauses').plan := by
    rw [ApiDecl.plan, ApiDecl.plan, ← hsettings]
    exact Table.agrees_plan _ htree name
  refine ⟨?_, ?_⟩
  · -- clauses, placeholders and clashes are all that can fail, and none of them sees a feature
    have hwell := ApiDecl.wellDeclared_iff_of_calls (iff_of_true hfeatures hfeatures') hcollections
    have hplaceholders := forall_mem_iff_of_forall₂ (fun (c c' : Collection σ)
      (h : c.node.Alike Operation.Agrees c'.node) => h.distinctPlaceholders_iff) htree
    rw [build_isOk_iff, build_isOk_iff, hwell, hplaceholders, Table.distinct_iff_of_agrees hplan]
  · intro api api' hbuild hbuild'
    rw [bindings_of_build hbuild, bindings_of_build hbuild', (build_eq_ok_iff.1 hbuild).2,
      (build_eq_ok_iff.1 hbuild').2]
    refine ⟨hplan, htree, fun hplain => ?_⟩
    exact ApiDecl.extends_tree hsettings hdeclared (ApiDecl.declared_features_eq name hplain)

/-- The site of pages with a feature for the operation that shows one, enabled by the host. -/
def auditedPages : List (ApiClause Unit) :=
  pages ++ [.feature "audit" "pages"
    [.operation "show" [.declare "id" .number [], .declare "trace" .string []]],
    .featureCheck fun collection _ => collection == "pages"]

/-- The feature adds `trace` to the operation, and not the `id` that it names as well: the
operation goes on asking for one. -/
theorem routes_of_features_pages :
    ∃ api audited : Api Unit, build "site" pages = .ok api ∧
      build "site" auditedPages = .ok audited ∧
      List.Forall₂ Binding.Agrees api.bindings audited.bindings ∧
      List.Forall₂ (fun c c' => c.node.Alike Operation.Extends c'.node)
        (Collection.walkAll api.collections) (Collection.walkAll audited.collections) ∧
      (Collection.walkAll audited.collections).map (fun c => c.node.operations.map fun o =>
        (o.name, o.params.map fun p => (p.name, p.kind, p.required))) =
          [[("show", [("id", .string, true), ("trace", .string, false)]), ("recent", []),
            ("draft", [])]] := by
  have hcollections : pages.filterMap ApiClause.collectionCall? =
      auditedPages.filterMap ApiClause.collectionCall? := rfl
  have hrouting : pages.filterMap ApiClause.routing? =
      auditedPages.filterMap ApiClause.routing? := rfl
  have hfeatures : FeaturesAccepted (ApiDecl.featureTargets pages) :=
    featuresAcceptedAfter_nil []
  have hfeatures' : FeaturesAccepted (ApiDecl.featureTargets auditedPages) := by
    have hblank : Text.isBlankText "pages" = false := by decide +kernel
    exact featuresAcceptedAfter_cons_iff.2 ⟨hblank, featuresAcceptedAfter_nil _⟩
  rcases routes_of_features "site" hcollections hrouting hfeatures hfeatures' with
    ⟨hbuilds, halike⟩
  rcases exists_build_pages with ⟨api, h⟩
  rcases hbuilds.1 ⟨api, h⟩ with ⟨audited, h'⟩
  rcases halike api audited h h' with ⟨hbindings, -, hextends⟩
  refine ⟨api, audited, h, h', hbindings, hextends rfl, ?_⟩
  rw [(build_eq_ok_iff.1 h').2]
  decide +kernel

end Api
end ResourceRouting
