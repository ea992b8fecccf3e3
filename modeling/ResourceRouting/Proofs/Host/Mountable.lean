import ResourceRouting.Proofs.Host.Mounting
import ResourceRouting.Proofs.Paths.Anchors

/-!
# Mountable — which built applications the host takes

A table refuses two bindings of one shape only if they are for one method; the host refuses them
for any two methods, unless their placeholders have the same names. With plain names, such bindings
are under two collections of one path, and these are not built together as long as every collection
is bound for `HEAD` or for `OPTIONS`.

* `Table.nodup_paths`: then no two collections are at one path.
* `Router.mount?_isSome_iff`: an application is mounted exactly if shapes tell its paths.
* `Router.mount?_of_build`: a built application that binds `HEAD` or `OPTIONS` is mounted.
-/

namespace ResourceRouting

variable {σ : Type}

/-! ## Segments that the host takes -/

namespace Path

theorem IsName.isBrace_eq_false {s : String} (h : IsName s) :
    ∀ c ∈ s.toList, c ≠ '*' ∧ Http.Router.isBrace c = false := by
  intro c hc
  have hnot := h.2 c hc
  simp only [List.mem_cons, not_or] at hnot
  simp [Http.Router.isBrace, hnot]

theorem IsName.takesSegment {s : String} (h : IsName s) : Http.Router.takesSegment s = true := by
  have hfirst : s.toList.head? ≠ some '*' :=
    fun hhead => (h.isBrace_eq_false '*' (List.mem_of_head? hhead)).1 rfl
  have hbrace : ∀ c ∈ s.toList, Http.Router.isBrace c = false :=
    fun c hc => (h.isBrace_eq_false c hc).2
  simpa [Http.Router.takesSegment, h.placeholder?_eq_none, hfirst] using hbrace

theorem IsStep.takesSegment {s : String} (h : IsStep s) : Http.Router.takesSegment s = true := by
  rcases h with hname | ⟨name, hname, rfl⟩
  · exact hname.takesSegment
  · have hempty : name.isEmpty = false := by simpa using hname.1
    simpa [Http.Router.takesSegment, placeholder?_colon_append, hempty] using
      hname.isBrace_eq_false

end Path

/-! ## Collections of one path -/

namespace Table

/-- Where every collection is bound for `HEAD` or every one for `OPTIONS`, no two are at one
path. -/
theorem nodup_paths {app : String} {routing : Routing} {cs : List (Collection σ)}
    (h : (plan app routing cs).Distinct)
    (hon : routing.headRoutes = true ∨ routing.optionsRoutes = true) :
    ((Collection.walkAll cs).map fun c => c.node.path).Nodup := by
  -- one method for all collections, or two at one path need not clash
  have hbound : ∃ method, ∀ c : Collection σ,
      ∃ b ∈ c.ownBindings routing, b.method = method ∧ b.path = c.node.path := by
    rcases hon with hhead | hoptions
    · refine ⟨.head, fun c => ⟨⟨.head, c.node.path, .head⟩, ?_, rfl, rfl⟩⟩
      simp [Collection.ownBindings, auxiliary, Routing.allows, hhead]
    · refine ⟨.options, fun c => ⟨⟨.options, c.node.path, .options c.allow⟩, ?_, rfl, rfl⟩⟩
      simp [Collection.ownBindings, auxiliary, Routing.allows, hoptions]
  rcases hbound with ⟨method, hbound⟩
  have hcollections : (Collection.walkAll cs).Pairwise fun c c' =>
      ∀ b ∈ c.ownBindings routing, ∀ b' ∈ c'.ownBindings routing,
        ¬ (b.method = b'.method ∧ Path.shape b.path = Path.shape b'.path) :=
    (List.pairwise_flatMap.1 h.left).2
  refine List.pairwise_map.2 (hcollections.imp ?_)
  intro c c' hclash hpath
  rcases hbound c with ⟨b, hb, hmethod, hbpath⟩
  rcases hbound c' with ⟨b', hb', hmethod', hbpath'⟩
  refine hclash b hb b' hb' ⟨hmethod.trans hmethod'.symm, ?_⟩
  rw [hbpath, hbpath', hpath]

end Table

/-! ## Mounting -/

namespace Http
namespace Router

/-- An application all of whose segments the host takes is mounted exactly if bindings of one shape
have one path. -/
theorem mount?_isSome_iff {api : Api σ}
    (htaken : ∀ b ∈ api.bindings, ∀ s ∈ Path.segments b.path, takesSegment s = true) :
    (∃ router, mount? api = some router) ↔ ∀ a ∈ api.bindings, ∀ b ∈ api.bindings,
      Path.shape a.path = Path.shape b.path → a.path = b.path := by
  constructor
  · rintro ⟨router, h⟩ a ha b hb hshape
    exact (mounted_of_mount? h).path_eq ha hb hshape
  · intro hpaths
    have hgathers := Route.gathers_foldl api.bindings
    unfold mount?
    generalize api.bindings.foldl (fun routes b => Route.add b routes) [] = routes at *
    -- a route is there for some binding, so what is told of bindings is told of routes
    have hbinding : ∀ r ∈ routes, ∃ b ∈ api.bindings, b.path = r.pattern :=
      fun r hr => (hgathers.patterns r.pattern).1 (List.mem_map_of_mem hr)
    have hfits : (routes.all fun r => (Path.segments r.pattern).all takesSegment) = true := by
      rw [List.all_eq_true]
      intro r hr
      rcases hbinding r hr with ⟨b, hb, hpath⟩
      rw [List.all_eq_true, ← hpath]
      exact htaken b hb
    have hclash : (routes.any fun a => routes.any fun b => conflicts a b) = false := by
      rw [Bool.eq_false_iff, ne_eq, List.any_eq_true]
      rintro ⟨r, hr, hany⟩
      rcases List.any_eq_true.1 hany with ⟨r', hr', hconflict⟩
      rcases hbinding r hr with ⟨a, ha, hpath⟩
      rcases hbinding r' hr' with ⟨b, hb, hpath'⟩
      rw [conflicts, Bool.and_eq_true, bne_iff_ne, beq_iff_eq, ← hpath, ← hpath'] at hconflict
      exact hconflict.1 (hpaths a ha b hb hconflict.2)
    exact ⟨⟨api, routes⟩, by simp [hfits, hclash]⟩

/-- A built application with plain names is mounted exactly if bindings of one shape have one path.
Two that have one shape and not one path are built only where neither `HEAD` nor `OPTIONS` is bound,
and only if two collections are at one path and name different identifiers; as long as either
method is bound, every built application is mounted. -/
theorem mount?_of_build {name : String} {clauses : List (ApiClause σ)} {api : Api σ}
    (hbuild : Api.build name clauses = .ok api)
    (hroot : ∀ s ∈ Path.rootSegments api.routing, Path.IsName s)
    (hnamed : ∀ c ∈ Collection.walkAll api.collections, c.node.NamedBy Path.IsName) :
    ((∃ router, mount? api = some router) ↔ ∀ a ∈ api.bindings, ∀ b ∈ api.bindings,
      Path.shape a.path = Path.shape b.path → a.path = b.path) ∧
    (∀ a ∈ api.bindings, ∀ b ∈ api.bindings, Path.shape a.path = Path.shape b.path →
      a.path ≠ b.path → api.routing.headRoutes = false ∧ api.routing.optionsRoutes = false ∧
        ∃ c ∈ Collection.walkAll api.collections, ∃ c' ∈ Collection.walkAll api.collections,
          c.node.path = c'.node.path ∧ c.node.idParam ≠ c'.node.idParam) ∧
    (api.routing.headRoutes = true ∨ api.routing.optionsRoutes = true →
      ∃ router, mount? api = some router) := by
  have hdistinct := (Api.build_eq_ok_iff.1 hbuild).1.2.2
  rw [(Api.build_eq_ok_iff.1 hbuild).2] at hroot hnamed ⊢
  generalize ApiDecl.declared name clauses = d at *
  change ∀ s ∈ Path.rootSegments d.routing, Path.IsName s at hroot
  have hchains := ApiDecl.forall_chains_iff.1 hnamed
  have hplaces := ApiDecl.places_of_mem_plan hchains
  have hparted : ∀ a ∈ d.plan, ∀ b ∈ d.plan, Path.shape a.path = Path.shape b.path →
      a.path ≠ b.path → d.routing.headRoutes = false ∧ d.routing.optionsRoutes = false ∧
        ∃ c ∈ Collection.walkAll d.tree, ∃ c' ∈ Collection.walkAll d.tree,
          c.node.path = c'.node.path ∧ c.node.idParam ≠ c'.node.idParam := by
    intro a ha b hb hshape hne
    rcases ApiDecl.eq_or_crossed_of_shape hroot hchains (hplaces a ha) (hplaces b hb) hshape with
      heq | ⟨c, hc, c', hc', hpath, hid⟩
    · exact absurd heq hne
    · -- with either method bound, collections of one path would be one collection
      have hoff : ¬ (d.routing.headRoutes = true ∨ d.routing.optionsRoutes = true) := by
        intro hon
        have hpaths := Table.nodup_paths hdistinct hon
        have hsame : c = c' := List.inj_on_of_nodup_map hpaths hc hc' hpath
        exact hid (by rw [hsame])
      rw [not_or, Bool.not_eq_true, Bool.not_eq_true] at hoff
      exact ⟨hoff.1, hoff.2, c, hc, c', hc', hpath, hid⟩
  have htaken : ∀ b ∈ d.plan, ∀ s ∈ Path.segments b.path, takesSegment s = true := by
    intro b hb
    rcases hplaces b hb with ⟨ss, hne, hsteps, -, hpath⟩
    rw [hpath, Path.segments_along (Path.proper_rootSegments_append hroot hne hsteps),
      List.forall_mem_cons, List.forall_mem_append]
    exact ⟨by decide, fun s hs => (hroot s hs).takesSegment, fun s hs => (hsteps s hs).takesSegment⟩
  have hmount : (∃ router, mount? (d.assembled d.tree d.plan) = some router) ↔ _ :=
    mount?_isSome_iff htaken
  refine ⟨hmount, hparted, fun hon => hmount.2 fun a ha b hb hshape => ?_⟩
  by_contra hne
  rcases hparted a ha b hb hshape hne with ⟨hhead, hoptions, -⟩
  rcases hon with hon | hon
  · exact Bool.false_ne_true (hhead.symm.trans hon)
  · exact Bool.false_ne_true (hoptions.symm.trans hon)

/-- The site of pages is mounted, even with its documents and `OPTIONS` switched off. -/
theorem mount?_pages :
    ∃ api : Api Unit, Api.build "site"
        (.routing { documentation := false, docRoutes := false, optionsRoutes := false } ::
          Api.pages) = .ok api ∧
      (∀ s ∈ Path.rootSegments api.routing, Path.IsName s) ∧
      (∀ c ∈ Collection.walkAll api.collections, c.node.NamedBy Path.IsName) ∧
      api.routing.headRoutes = true ∧ ∃ router, mount? api = some router := by
  have hbuild : ∃ api : Api Unit, Api.build "site"
      (.routing { documentation := false, docRoutes := false, optionsRoutes := false } ::
        Api.pages) = .ok api := isOk_iff_exists.1 (by decide +kernel)
  rcases hbuild with ⟨api, h⟩
  have hroot : ∀ s ∈ Path.rootSegments api.routing, Path.IsName s := by
    rw [(Api.build_eq_ok_iff.1 h).2]
    decide +kernel
  have hnamed : ∀ c ∈ Collection.walkAll api.collections, c.node.NamedBy Path.IsName := by
    rw [(Api.build_eq_ok_iff.1 h).2]
    decide +kernel
  have hhead : api.routing.headRoutes = true := by
    rw [(Api.build_eq_ok_iff.1 h).2]
    decide +kernel
  exact ⟨api, h, hroot, hnamed, hhead, (mount?_of_build h hroot hnamed).2.2 (Or.inl hhead)⟩

/-- Drafts at the path of their pages, where a page is shown under one identifier and a draft is
destroyed under another one. -/
def crossed : List (ApiClause Unit) :=
  [.routing { headRoutes := false, optionsRoutes := false },
    .collection "pages" [.withId "page", .operation "show" [],
      .collection "drafts" [.noMember, .operation "destroy" []]]]

/-- Without `HEAD` and `OPTIONS` it is built, and the host does not take it. -/
theorem mount?_crossed_eq_none :
    ∃ api : Api Unit, Api.build "site" crossed = .ok api ∧
      (∀ s ∈ Path.rootSegments api.routing, Path.IsName s) ∧
      (∀ c ∈ Collection.walkAll api.collections, c.node.NamedBy Path.IsName) ∧
      (∃ a ∈ api.bindings, ∃ b ∈ api.bindings, a.path = "/pages/:page" ∧ b.path = "/pages/:id" ∧
        Path.shape a.path = Path.shape b.path) ∧ mount? api = none := by
  have hbuild : ∃ api : Api Unit, Api.build "site" crossed = .ok api :=
    isOk_iff_exists.1 (by decide +kernel)
  rcases hbuild with ⟨api, h⟩
  refine ⟨api, h, ?_⟩
  rw [← Option.isNone_iff_eq_none, (Api.build_eq_ok_iff.1 h).2]
  decide +kernel

end Router
end Http
end ResourceRouting
