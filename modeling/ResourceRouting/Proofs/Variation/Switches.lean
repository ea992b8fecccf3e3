import ResourceRouting.Proofs.Plan
import ResourceRouting.Proofs.Variation.Contexts

/-!
# Switches — auxiliary bindings that are switched off

A table never takes a binding in because of another one; it only refuses bindings that clash. So
switching kinds of auxiliaries off removes their bindings and does nothing else: what was built
before is built again, from the same collections.

* `Table.plan_filter`: the plan with fewer switches is the plan with more of them, filtered.
* `Api.build_narrowed`: and so is the table of a built application.
-/

namespace ResourceRouting

variable {σ : Type}

/-! ## What switches call for -/

/-- The kind of auxiliary that an endpoint serves; an operation serves none. -/
def Endpoint.auxiliary? : Endpoint σ → Option Auxiliary
  | operation _ => none
  | head => some .head
  | options _ => some .options
  | collectionDocs _ | operationDocs _ => some .docs
  | index _ => some .index

namespace Routing

/-- Whether a binding stays under the settings: operations do, auxiliaries if their kind is
switched on. -/
def keeps (r : Routing) (b : Binding σ) : Bool := b.endpoint.auxiliary?.all r.allows

/-- The settings have the same root, and switch on no kind that the others do not. -/
structure Narrows (less more : Routing) : Prop where
  rootPath : less.rootPath = more.rootPath
  allows : ∀ kind, less.allows kind = true → more.allows kind = true

theorem Narrows.route_eq {less more : Routing} (h : less.Narrows more) (path : String) :
    less.route path = more.route path := by
  rw [route, route, h.rootPath]

end Routing

/-! ## Trees -/

-- full paths are compared as they stand, and never computed
attribute [local irreducible] Routing.route

section Narrowed

variable {less more : Routing}

theorem OperationDecl.settled_narrowed (h : less.Narrows more) (owner : OperationOwner)
    (hooks : Hooks σ) (d : OperationDecl σ) :
    d.settled { owner with routing := less } hooks =
      d.settled { owner with routing := more } hooks := by
  simp only [settled, h.route_eq]
  rfl

/-- The switches leave no trace in a collection. -/
theorem CollectionHead.settled_narrowed (h : less.Narrows more) (ctx : CompileContext σ)
    (head : CollectionHead σ) (parent? : Option (CollectionNode σ)) :
    head.settled { ctx with routing := less } parent? =
      head.settled { ctx with routing := more } parent? := by
  have hoperations : head.operations.map (OperationDecl.settled
      (head.owner { ctx with routing := less } parent?) ctx.hooks) =
        head.operations.map (OperationDecl.settled
          (head.owner { ctx with routing := more } parent?) ctx.hooks) :=
    List.map_congr_left fun d _ => d.settled_narrowed h (head.owner ctx parent?) ctx.hooks
  simp only [settled, node, h.route_eq, hoperations]
  rfl

/-! ## Plans -/

namespace Table

theorem auxiliary_filter (h : less.Narrows more) {kind : Auxiliary} (endpoint : Endpoint σ)
    (hkind : endpoint.auxiliary? = some kind) (method : Method) (path : String) :
    (auxiliary more kind method path endpoint).filter less.keeps =
      auxiliary less kind method path endpoint := by
  have hkeeps : less.keeps ⟨method, path, endpoint⟩ = less.allows kind := by
    simp [Routing.keeps, hkind]
  unfold auxiliary
  by_cases hless : less.allows kind = true
  · rw [if_pos hless, if_pos (h.allows kind hless), List.filter_cons_of_pos (hkeeps.trans hless),
      List.filter_nil]
  · rw [if_neg hless]
    by_cases hmore : more.allows kind = true
    · rw [if_pos hmore, List.filter_cons_of_neg (by rw [hkeeps]; exact hless), List.filter_nil]
    · rw [if_neg hmore, List.filter_nil]

end Table

theorem Operation.bindings_filter (h : less.Narrows more) (node : CollectionNode σ)
    (o : Operation σ) : (o.bindings more node).filter less.keeps = o.bindings less node := by
  have hself : less.keeps ⟨o.method, o.path, .operation o⟩ = true := rfl
  simp only [bindings, List.filter_append, List.filter_singleton, hself, cond_true,
    Table.auxiliary_filter h .head rfl, Table.auxiliary_filter h (.options o.allow) rfl,
    Table.auxiliary_filter h (.operationDocs o) rfl]

theorem Collection.ownBindings_filter (h : less.Narrows more) (c : Collection σ) :
    (c.ownBindings more).filter less.keeps = c.ownBindings less := by
  simp only [ownBindings, List.filter_append, List.filter_flatMap, Operation.bindings_filter h,
    Table.auxiliary_filter h .head rfl, Table.auxiliary_filter h (.options c.allow) rfl,
    Table.auxiliary_filter h (.collectionDocs c) rfl]

/-- Of a plan, the bindings that the switches call for are the plan under these switches. -/
theorem Table.plan_filter (h : less.Narrows more) (app : String) (cs : List (Collection σ)) :
    (plan app more cs).filter less.keeps = plan app less cs := by
  simp only [plan, List.filter_append, List.filter_flatMap, Collection.ownBindings_filter h,
    auxiliary_filter h (.index (.ofCollections app cs)) rfl, h.route_eq]

end Narrowed

namespace ApiDecl

variable {less : Routing} {d : ApiDecl σ}

theorem tree_narrowed (h : less.Narrows d.routing) :
    ({ d with routing := less } : ApiDecl σ).tree = d.tree :=
  CollectionDecl.settledAll_congr (fun head => head.settled_narrowed h d.context) d.collections

theorem plan_narrowed (h : less.Narrows d.routing) :
    ({ d with routing := less } : ApiDecl σ).plan = d.plan.filter less.keeps := by
  rw [plan, tree_narrowed h, plan, Table.plan_filter h]

end ApiDecl

/-! ## Built applications -/

namespace Api

/-- Switching auxiliaries off removes them and nothing else. An application that is built under
some settings is built under settings with the same root and fewer switches too. Its collections
are the same then, with all of their operations, and its bindings are those that there were, in
their order, without the auxiliaries of the kinds that are switched off. -/
theorem build_narrowed (name : String) (before after : List (ApiClause σ))
    (hafter : ∀ clause ∈ after, clause.routing? = none) {less more : Routing}
    (hless : less.Narrows more) {api : Api σ}
    (hbuild : build name (before ++ .routing more :: after) = .ok api) :
    build name (before ++ .routing less :: after) =
      .ok { api with routing := less, bindings := api.bindings.filter less.keeps } := by
  have hdeclared : ApiDecl.declared name (before ++ .routing less :: after) =
      { ApiDecl.declared name (before ++ .routing more :: after) with routing := less } := by
    rw [ApiDecl.declared_routing name hafter, ApiDecl.declared_routing name hafter]
  have hrouting : (ApiDecl.declared name (before ++ .routing more :: after)).routing = more := by
    rw [ApiDecl.declared_routing name hafter]
  have hwell : ApiDecl.WellDeclared (before ++ .routing less :: after) ↔
      ApiDecl.WellDeclared (before ++ .routing more :: after) :=
    ApiDecl.wellDeclared_routing_iff.trans ApiDecl.wellDeclared_routing_iff.symm
  rcases build_eq_ok_iff.1 hbuild with ⟨⟨hclauses, hplaceholders, hdistinct⟩, rfl⟩
  rw [build_eq_ok_iff, hwell, hdeclared]
  generalize ApiDecl.declared name (before ++ .routing more :: after) = d at *
  subst hrouting
  rw [ApiDecl.tree_narrowed hless, ApiDecl.plan_narrowed hless]
  -- bindings that do not clash still do not when some of them are taken away
  exact ⟨⟨hclauses, hplaceholders, hdistinct.sublist List.filter_sublist⟩, rfl⟩

/-- The site of pages without `HEAD` and without documents of its collection: the index of the
documents stays, and so does the order of the rest. -/
theorem build_narrowed_pages :
    ∃ api narrowed : Api Unit, build "site" (.routing {} :: pages) = .ok api ∧
      build "site" (.routing { headRoutes := false, docRoutes := false } :: pages) =
        .ok narrowed ∧
      narrowed.bindings =
        api.bindings.filter (Routing.keeps { headRoutes := false, docRoutes := false }) ∧
      narrowed.bindings.map (fun b => (b.method, b.path)) =
        [(.options, "/pages"), (.get, "/pages/:id"), (.options, "/pages/show"),
         (.get, "/pages/recent"), (.options, "/pages/recent"), (.get, "/docs")] := by
  have hafter : ∀ clause ∈ pages, clause.routing? = none := by simp [pages]
  have hless : Routing.Narrows { headRoutes := false, docRoutes := false } {} := by
    refine ⟨rfl, ?_⟩
    intro kind _
    cases kind <;> rfl
  have hbuild : ∃ api : Api Unit, build "site" (.routing {} :: pages) = .ok api :=
    isOk_iff_exists.1 (by decide +kernel)
  rcases hbuild with ⟨api, h⟩
  have hnarrowed := build_narrowed "site" [] pages hafter hless h
  refine ⟨api, _, h, hnarrowed, rfl, ?_⟩
  rw [(build_eq_ok_iff.1 h).2]
  decide +kernel

end Api
end ResourceRouting
