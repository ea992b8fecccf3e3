import ResourceRouting.Proofs.Dispatch.Selection
import ResourceRouting.Proofs.Paths.Moved

/-!
# Rooted — what the root of an application decides

The table of an application under a root is the one under `/` with the root in front of every
path. Whether two patterns have one shape does not depend on what stands in front of both, so the
same applications are built; and if the root has no placeholder, requests with the root in front
are answered as they are without it.

* `Table.distinct_map_moved_iff`: a root makes no clash and hides none.
* `Api.selects_route_iff`: both tables are searched alike.
* `Api.build_withRoot`: the root decides neither whether an application is built nor which binding
  answers.
-/

namespace ResourceRouting

variable {σ : Type}

-- full paths are compared as they stand, and never computed
attribute [local irreducible] Routing.route

/-! ## Moved tables -/

/-- Moving a collection leaves the paths alone that are relative to the root. -/
theorem CollectionNode.distinctPlaceholders_moved {f : String → String}
    {node : CollectionNode σ} :
    (node.moved f).DistinctPlaceholders ↔ node.DistinctPlaceholders := by
  have hoperations : (node.moved f).operations = node.operations.map (Operation.moved f) := rfl
  simp only [DistinctPlaceholders, hoperations, List.forall_mem_map]
  rfl

namespace Table

/-- A table of absolute paths is without clashes exactly if it is so with a root in front. -/
theorem distinct_map_moved_iff {t : Table σ} (routing : Routing)
    (h : ∀ b ∈ t, Path.Absolute b.path) :
    Distinct (t.map (Binding.moved routing.route)) ↔ Distinct t := by
  rw [Distinct, List.pairwise_map]
  refine List.Pairwise.iff_of_mem ?_
  intro a b ha hb
  have hshape := Path.shape_route_iff routing (h a ha) (h b hb)
  exact not_congr (and_congr_right fun _ => hshape)

/-- In a table without clashes no two bindings are moved to one. -/
theorem Distinct.moved_inj {t : Table σ} (h : Distinct t) {routing : Routing}
    (habsolute : ∀ b ∈ t, Path.Absolute b.path) {a b : Binding σ} (ha : a ∈ t) (hb : b ∈ t)
    (hmoved : a.moved routing.route = b.moved routing.route) : a = b := by
  have hmethod : (a.moved routing.route).method = (b.moved routing.route).method :=
    congrArg Binding.method hmoved
  have hroute : (a.moved routing.route).path = (b.moved routing.route).path :=
    congrArg Binding.path hmoved
  have hshape : Path.shape a.path = Path.shape b.path :=
    (Path.shape_route_iff routing (habsolute a ha) (habsolute b hb)).1 (congrArg Path.shape hroute)
  exact h.eq_of_mem ha hb hmethod hshape

end Table

namespace ApiDecl

theorem distinctPlaceholders_based_iff (d : ApiDecl σ) :
    (∀ c ∈ Collection.walkAll d.based.tree, c.node.DistinctPlaceholders) ↔
      ∀ c ∈ Collection.walkAll d.tree, c.node.DistinctPlaceholders := by
  rw [tree_eq_moved d, Collection.walkAll_movedAll, List.forall_mem_map]
  simp only [Collection.node_moved, CollectionNode.distinctPlaceholders_moved]

theorem absolute_of_mem_plan_based (d : ApiDecl σ) :
    ∀ b ∈ d.based.plan, Path.Absolute b.path := by
  have habsolute : ∀ {full own : String}, full = (d.routing.withRoot "/").route own →
      Path.Absolute full := by
    intro full own hfull
    rw [hfull]
    exact Path.absolute_route_slash d.routing own
  refine Table.forall_mem_plan ?_ ?_ (Path.absolute_route_slash d.routing "docs")
  · intro c hc
    have hrouted : c.node.Routed (d.routing.withRoot "/") := routed_of_mem_tree c hc
    exact ⟨habsolute hrouted.path, habsolute hrouted.path, habsolute hrouted.docsPath⟩
  · intro c hc o ho _
    have hrouted : c.node.Routed (d.routing.withRoot "/") := routed_of_mem_tree c hc
    have haux := habsolute (hrouted.auxPath o ho)
    exact ⟨habsolute (hrouted.operationPath o ho), haux, haux,
      habsolute (hrouted.operationDocsPath o)⟩

theorem distinct_plan_based_iff (d : ApiDecl σ) : d.based.plan.Distinct ↔ d.plan.Distinct := by
  rw [plan_eq_moved d]
  exact (Table.distinct_map_moved_iff d.routing d.absolute_of_mem_plan_based).symm

end ApiDecl

namespace Api

/-- The search for a path selects the binding at a position of the table. -/
def Selects (api : Api σ) (method : Method) (path : String) (i : Nat) (captures : Inputs) : Prop :=
  ∃ b, api.bindings[i]? = some b ∧ api.find? method path = some ⟨b, captures⟩

/-- Where corresponding bindings capture the same of two paths, and no two bindings correspond to
one, the searches for these paths select at one position. -/
theorem selects_along_iff {τ : Type} {api : Api σ} {image : Api τ} {f : Binding σ → Binding τ}
    {path path' : String} (hbindings : image.bindings = api.bindings.map f)
    (hmethod : ∀ b ∈ api.bindings, (f b).method = b.method)
    (hcaptures : ∀ b ∈ api.bindings, Path.captures? (f b).path path' = Path.captures? b.path path)
    (hinj : ∀ a ∈ api.bindings, ∀ b ∈ api.bindings, f a = f b → a = b)
    (method : Method) (i : Nat) (captures : Inputs) :
    image.Selects method path' i captures ↔ api.Selects method path i captures := by
  have hfind := find?_along hbindings hmethod hcaptures method
  have hget : image.bindings[i]? = api.bindings[i]?.map f := by
    rw [hbindings, List.getElem?_map]
  constructor
  · rintro ⟨b, hb, hselected⟩
    rw [hget] at hb
    rw [hfind] at hselected
    rcases Option.map_eq_some_iff.1 hb with ⟨there, hthere, rfl⟩
    rcases Option.map_eq_some_iff.1 hselected with ⟨⟨found, captured⟩, hfound, heq⟩
    rcases Selection.mk.inj heq with ⟨hsame, rfl⟩
    -- the binding found and the one there correspond to the same, so they are one
    have hone : found = there :=
      hinj found (mem_of_find? hfound).1 there (List.mem_of_getElem? hthere) hsame
    rw [hone] at hfound
    exact ⟨there, hthere, hfound⟩
  · rintro ⟨b, hb, hselected⟩
    refine ⟨f b, ?_, ?_⟩
    · rw [hget, hb]
      rfl
    · rw [hfind, hselected]
      rfl

/-- Where the bindings of one table are those of another with a root in front, and the root has no
placeholder, both searches select at one position. -/
theorem selects_route_iff {api base : Api σ} {routing : Routing}
    (hbindings : api.bindings = base.bindings.map (Binding.moved routing.route))
    (hdistinct : base.bindings.Distinct)
    (habsolute : ∀ b ∈ base.bindings, Path.Absolute b.path)
    (hliteral : ∀ segment ∈ Path.segments routing.rootPath, Path.placeholder? segment = none)
    (method : Method) {path : String} (hpath : Path.Absolute path) (i : Nat) (captures : Inputs) :
    api.Selects method (routing.route path) i captures ↔ base.Selects method path i captures := by
  have hcaptures : ∀ b ∈ base.bindings,
      Path.captures? (b.moved routing.route).path (routing.route path) =
        Path.captures? b.path path := by
    intro b hb
    exact Path.captures?_route hliteral (habsolute b hb) hpath
  exact selects_along_iff hbindings (fun _ _ => rfl) hcaptures
    (fun a ha b hb => hdistinct.moved_inj habsolute ha hb) method i captures

/-- The root is transparent. Whether an application is built does not depend on it, and the
bindings under one root are those under `/`, position by position, with the root in front of their
paths. If no segment of the root is a placeholder, a request with the root in front selects the
binding at the same position as the request without it, with the same captures. -/
theorem build_withRoot (name : String) (before after : List (ApiClause σ))
    (hafter : ∀ clause ∈ after, clause.routing? = none) (routing : Routing) (root : String) :
    ((∃ api, build name (before ++ .routing (routing.withRoot root) :: after) = .ok api) ↔
      ∃ base, build name (before ++ .routing (routing.withRoot "/") :: after) = .ok base) ∧
    ∀ api base,
      build name (before ++ .routing (routing.withRoot root) :: after) = .ok api →
      build name (before ++ .routing (routing.withRoot "/") :: after) = .ok base →
        List.Forall₂ (fun b b' => b.method = b'.method ∧ b.endpoint.kind = b'.endpoint.kind ∧
          b.path = (routing.withRoot root).route b'.path) api.bindings base.bindings ∧
        ((∀ segment ∈ Path.segments root, Path.placeholder? segment = none) →
          ∀ method path, Path.Absolute path → ∀ i captures,
            api.Selects method ((routing.withRoot root).route path) i captures ↔
              base.Selects method path i captures) := by
  -- both applications are one declaration, once under its own root and once under `/`
  have hbased : ApiDecl.declared name (before ++ .routing (routing.withRoot "/") :: after) =
      (ApiDecl.declared name (before ++ .routing (routing.withRoot root) :: after)).based := by
    rw [ApiDecl.declared_routing name hafter, ApiDecl.declared_routing name hafter]
    rfl
  have hrouting : (ApiDecl.declared name
      (before ++ .routing (routing.withRoot root) :: after)).routing = routing.withRoot root := by
    rw [ApiDecl.declared_routing name hafter]
  have hwell : ApiDecl.WellDeclared (before ++ .routing (routing.withRoot "/") :: after) ↔
      ApiDecl.WellDeclared (before ++ .routing (routing.withRoot root) :: after) :=
    ApiDecl.wellDeclared_routing_iff.trans ApiDecl.wellDeclared_routing_iff.symm
  generalize hd : ApiDecl.declared name
    (before ++ .routing (routing.withRoot root) :: after) = d at hbased hrouting
  refine ⟨?_, ?_⟩
  · simp only [build_eq_ok_iff, hbased, hd, hwell, d.distinctPlaceholders_based_iff,
      d.distinct_plan_based_iff]
    constructor
    · rintro ⟨_, h, -⟩
      exact ⟨_, h, rfl⟩
    · rintro ⟨_, h, -⟩
      exact ⟨_, h, rfl⟩
  · intro api base happ hbase
    have hdistinct := distinct_bindings_of_build hbase
    have hplan := bindings_of_build hbase
    have hbindings : api.bindings =
        base.bindings.map (Binding.moved (routing.withRoot root).route) := by
      rw [bindings_of_build happ, hplan, hbased, hd, ← hrouting]
      exact d.plan_eq_moved
    have habsolute : ∀ b ∈ base.bindings, Path.Absolute b.path := by
      rw [hplan, hbased]
      exact d.absolute_of_mem_plan_based
    refine ⟨?_, ?_⟩
    · rw [hbindings, List.forall₂_map_left_iff]
      refine List.forall₂_same.2 ?_
      intro b _
      exact ⟨rfl, b.endpoint.kind_moved _, rfl⟩
    · intro hliteral method path hpath i captures
      exact selects_route_iff hbindings hdistinct habsolute hliteral method hpath i captures

/-- The site of pages under two roots: one request, with the root in front and without. -/
theorem build_withRoot_pages :
    ∃ api base : Api Unit,
      build "site" (.routing { rootPath := "/app/v1/" } :: pages) = .ok api ∧
        build "site" (.routing { rootPath := "/" } :: pages) = .ok base ∧
          ∃ i captures, captures.toList = [("id", "42")] ∧
            base.Selects .get "/pages/42" i captures ∧
              api.Selects .get "/app/v1/pages/42" i captures := by
  have hafter : ∀ clause ∈ pages, clause.routing? = none := by simp [pages]
  have hroot := build_withRoot "site" [] pages hafter {} "/app/v1/"
  have hbase : ∃ base : Api Unit, build "site" (.routing { rootPath := "/" } :: pages) = .ok base :=
    isOk_iff_exists.1 (by decide +kernel)
  rcases hroot.1.2 hbase with ⟨api, happ⟩
  rcases hbase with ⟨base, hbase⟩
  have hfind : (base.find? .get "/pages/42").map (fun sel => sel.captures.toList) =
      some [("id", "42")] := by
    rw [(build_eq_ok_iff.1 hbase).2]
    decide +kernel
  rcases Option.map_eq_some_iff.1 hfind with ⟨⟨b, captures⟩, hsel, hcaptures⟩
  rcases List.mem_iff_getElem?.1 (mem_of_find? hsel).1 with ⟨i, hget⟩
  have hselects : base.Selects .get "/pages/42" i captures := ⟨b, hget, hsel⟩
  have hliteral : ∀ segment ∈ Path.segments "/app/v1/", Path.placeholder? segment = none := by
    decide +kernel
  have hpath : Path.Absolute "/pages/42" :=
    Or.inr ⟨"pages/42", ⟨'p', "ages/42".toList, by decide, by decide⟩, by decide⟩
  have hfull : (Routing.withRoot {} "/app/v1/").route "/pages/42" = "/app/v1/pages/42" := by
    decide +kernel
  have hmoved := ((hroot.2 api base happ hbase).2 hliteral .get "/pages/42" hpath
    i captures).2 hselects
  rw [hfull] at hmoved
  exact ⟨api, base, happ, hbase, i, captures, hcaptures, hselects, hmoved⟩

end Api
end ResourceRouting
