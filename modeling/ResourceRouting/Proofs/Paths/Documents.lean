import ResourceRouting.Proofs.Dispatch.Shape
import ResourceRouting.Proofs.Lineage

/-!
# Documents — which documents of a tree are at one path

The document of a collection is at its lineage, and that of an operation below the document of its
collection, behind a segment `operations` that keeps it apart from those of subcollections. The
segment is no reserved name: a subcollection may be called `operations` too.

* `Resource.names_eq_iff`: two resources have their documents at the same segments only by way of a
  subcollection that is called so.
* `ApiDecl.filter_isDocument_plan`: the documents that a table has bindings for.
* `ApiDecl.documents_apart_iff`: where names are plain and tell siblings apart, this is all that
  makes two paths of documents equal, or two bindings of documents clash.
-/

namespace ResourceRouting

variable {σ : Type}

/-! ## Segments of documents -/

namespace Resource

def docsPath : Resource σ → String
  | collection c => c.node.docsPath
  | operation c o => Table.operationDocsPath c.node o

def endpoint : Resource σ → Endpoint σ
  | collection c => .collectionDocs c
  | operation _ o => .operationDocs o

def binding (x : Resource σ) : Binding σ := ⟨.get, x.docsPath, x.endpoint⟩

/-- The segments below `docs`. -/
def names : Resource σ → List String
  | collection c => c.node.lineage
  | operation c o => c.node.lineage ++ ["operations", o.name]

/-- The one is an operation, and the other the collection of its name in a subcollection called
`operations` beside it. -/
def Eclipses : Resource σ → Resource σ → Prop
  | operation c o, collection d => d.node.lineage = c.node.lineage ++ ["operations", o.name]
  | _, _ => False

/-- A resource has its document in the table unless it is an operation that is never open. -/
def isBound : Resource σ → Bool
  | collection _ => true
  | operation _ o => o.gate.isRegistered

theorem not_eclipses_self (x : Resource σ) : ¬ x.Eclipses x := by
  cases x <;> exact id

/-- Two resources have the same segments if they are one, or if a collection is where an operation
has its document. -/
theorem names_eq_iff {x y : Resource σ} :
    x.names = y.names ↔ x.site = y.site ∨ x.Eclipses y ∨ y.Eclipses x := by
  cases x with
  | collection c =>
      cases y with
      | collection d => simp [names, site, Eclipses]
      | operation d o => simp [names, site, Eclipses]
  | operation c o =>
      cases y with
      | collection d => simp [names, site, Eclipses, eq_comm]
      | operation d p =>
          have hlast : c.node.lineage ++ ["operations", o.name] =
              d.node.lineage ++ ["operations", p.name] ↔
                c.node.lineage = d.node.lineage ∧ o.name = p.name := by
            constructor
            · intro h
              have hparts := List.append_inj' h rfl
              exact ⟨hparts.1, by simpa using hparts.2⟩
            · rintro ⟨hlineage, hname⟩
              rw [hlineage, hname]
          simp [names, site, Eclipses, hlast]

end Resource

namespace Collection

variable {cs : List (Collection σ)}

/-- Only by way of a subcollection called `operations` does a collection eclipse an operation. -/
theorem Grown.forall_not_eclipses_of_not_mem (h : Grown [] cs)
    (hnone : ∀ c ∈ walkAll cs, "operations" ∉ c.children.map name) :
    ∀ x ∈ resources cs, ∀ y ∈ resources cs, ¬ x.Eclipses y := by
  simp only [forall_mem_resources_iff]
  intro c hc
  refine ⟨fun d _ => ⟨id, fun p _ => id⟩, fun o _ d hd => ⟨?_, fun p _ => id⟩⟩
  intro heclipses
  rcases h.exists_child hc hd heclipses with ⟨e, he, hname⟩
  exact hnone c hc (List.mem_map.2 ⟨e, he, hname⟩)

/-- What is bound has segments of its own exactly if no bound operation is eclipsed. -/
theorem Grown.pairwise_names_iff {above : List String} (h : Grown above cs) :
    ((resources cs).filter Resource.isBound).Pairwise (fun x y => x.names ≠ y.names) ↔
      ∀ c ∈ walkAll cs, ∀ o ∈ c.node.operations, o.gate.isRegistered = true →
        ∀ e ∈ walkAll cs, e.node.lineage ≠ c.node.lineage ++ ["operations", o.name] := by
  have heclipses : (∀ c ∈ walkAll cs, ∀ o ∈ c.node.operations, o.gate.isRegistered = true →
      ∀ e ∈ walkAll cs, e.node.lineage ≠ c.node.lineage ++ ["operations", o.name]) ↔
        ∀ x ∈ resources cs, x.isBound = true → ∀ y ∈ resources cs, ¬ x.Eclipses y := by
    simp [forall_mem_resources_iff, Resource.isBound, Resource.Eclipses]
  rw [heclipses]
  constructor
  · intro hnames x hx hbound y hy heclipsed
    have hy' : y.isBound = true := by
      cases x <;> cases y <;> first | rfl | cases heclipsed
    have hsame : x = y := List.inj_on_of_nodup_map (List.pairwise_map.2 hnames)
      (List.mem_filter.2 ⟨hx, hbound⟩) (List.mem_filter.2 ⟨hy, hy'⟩)
      (Resource.names_eq_iff.2 (Or.inr (Or.inl heclipsed)))
    exact y.not_eclipses_self (hsame ▸ heclipsed)
  · intro hnone
    have hsites := h.nodup_sites
    rw [List.Nodup, List.pairwise_map] at hsites
    refine (hsites.filter _).imp_of_mem fun {x y} hx hy hne hnames => ?_
    rw [List.mem_filter] at hx hy
    rcases Resource.names_eq_iff.1 hnames with hsite | hxy | hyx
    · exact hne hsite
    · exact hnone x hx.1 hx.2 y hy.1 hxy
    · exact hnone y hy.1 hy.2 x hx.1 hyx

end Collection

/-! ## Paths of documents -/

namespace Path

/-- Plain names below the root make one shape only if they are the same. -/
theorem shape_route_along_iff (routing : Routing) {ss ts : List String} (hs : ss ≠ [])
    (ht : ts ≠ []) (hss : ∀ s ∈ ss, IsPlain s) (hts : ∀ t ∈ ts, IsPlain t) :
    shape (routing.route (along ss)) = shape (routing.route (along ts)) ↔ ss = ts := by
  have hproper : ∀ us : List String, us ≠ [] → (∀ u ∈ us, IsPlain u) → Proper us :=
    fun us hne hus => ⟨hne, fun u hu => (hus u hu).isSegment⟩
  have hanonymous : ∀ us : List String, (∀ u ∈ us, IsPlain u) → us.map anonymous = us := by
    intro us hus
    calc
      us.map anonymous = us.map id :=
        List.map_congr_left fun u hu => anonymous_of_literal (hus u hu).placeholder?_eq_none
      _ = us := List.map_id us
  rw [shape_route_iff routing (hproper ss hs hss).absolute_along
    (hproper ts ht hts).absolute_along, shape_eq_iff, segments_along (hproper ss hs hss),
    segments_along (hproper ts ht hts), List.map_cons, List.map_cons, hanonymous ss hss,
    hanonymous ts hts, List.cons.injEq, and_iff_right rfl]

end Path

/-! ## Documents of a declaration -/

namespace ApiDecl

open Collection (resources walkAll)

variable {d : ApiDecl σ}

section Plain

variable (hapart : d.NamesApart) (hplain : ∀ x ∈ resources d.tree, Path.IsPlain x.name)
include hapart hplain

/-- Documents are at the segments that belong to them, below the root. -/
theorem docsPath_resource : ∀ x ∈ resources d.tree,
    (∀ s ∈ "docs" :: x.names, Path.IsPlain s) ∧
      x.docsPath = d.routing.route (Path.along ("docs" :: x.names)) := by
  rw [Collection.forall_mem_resources_iff] at hplain ⊢
  intro c hc
  have hlineage : ∀ s ∈ c.node.lineage, Path.IsPlain s :=
    hapart.grown.forall_mem_lineage (List.forall_mem_nil _) (fun c hc => (hplain c hc).1) c hc
  have hproper : Path.Proper c.node.lineage :=
    ⟨List.ne_nil_of_length_pos (hapart.grown.length_lt hc),
      fun s hs => (hlineage s hs).isSegment⟩
  have hrouted : c.node.Routed d.routing :=
    forall_chains_iff.2 (fun chain _ => chain.routed_node d.context) c hc
  have hdocs : Path.IsPlain "docs" := by decide
  refine ⟨⟨List.forall_mem_cons.2 ⟨hdocs, hlineage⟩, hrouted.docsPath_eq hproper⟩, ?_⟩
  intro o ho
  have hname : Path.IsPlain o.name := (hplain c hc).2 o ho
  refine ⟨List.forall_mem_cons.2 ⟨hdocs, ?_⟩,
    hrouted.operationDocsPath_eq hproper hname.isSegment⟩
  rw [Resource.names, List.forall_mem_append]
  exact ⟨hlineage, by simpa using ⟨by decide, hname⟩⟩

omit hplain in
theorem names_ne_nil : ∀ x ∈ resources d.tree, x.names ≠ [] := by
  rw [Collection.forall_mem_resources_iff]
  intro c hc
  refine ⟨List.ne_nil_of_length_pos (hapart.grown.length_lt hc), fun o _ => ?_⟩
  exact List.append_ne_nil_of_right_ne_nil c.node.lineage (List.cons_ne_nil _ _)

theorem shape_docsPath_iff {x y : Resource σ} (hx : x ∈ resources d.tree)
    (hy : y ∈ resources d.tree) :
    Path.shape x.docsPath = Path.shape y.docsPath ↔ x.names = y.names := by
  rcases docsPath_resource hapart hplain x hx with ⟨hxplain, hxpath⟩
  rcases docsPath_resource hapart hplain y hy with ⟨hyplain, hypath⟩
  rw [hxpath, hypath, Path.shape_route_along_iff d.routing (List.cons_ne_nil _ _)
    (List.cons_ne_nil _ _) hxplain hyplain, List.cons.injEq, and_iff_right rfl]

theorem docsPath_eq_iff {x y : Resource σ} (hx : x ∈ resources d.tree)
    (hy : y ∈ resources d.tree) : x.docsPath = y.docsPath ↔ x.names = y.names := by
  constructor
  · intro h
    exact (shape_docsPath_iff hapart hplain hx hy).1 (congrArg Path.shape h)
  · intro h
    rw [(docsPath_resource hapart hplain x hx).2, (docsPath_resource hapart hplain y hy).2, h]

/-- Two resources have one path exactly if one of them eclipses the other. -/
theorem pairwise_docsPath : (resources d.tree).Pairwise fun x y =>
    (x.docsPath = y.docsPath ↔ x.Eclipses y ∨ y.Eclipses x) ∧
      (Path.shape x.docsPath = Path.shape y.docsPath ↔ x.docsPath = y.docsPath) := by
  have hsites := hapart.grown.nodup_sites
  rw [List.Nodup, List.pairwise_map] at hsites
  refine hsites.imp_of_mem fun {x y} hx hy hne => ?_
  have hpath := docsPath_eq_iff hapart hplain hx hy
  have hshape := shape_docsPath_iff hapart hplain hx hy
  have hnames : x.names = y.names ↔ x.Eclipses y ∨ y.Eclipses x :=
    Resource.names_eq_iff.trans (or_iff_right hne)
  exact ⟨hpath.trans hnames, hshape.trans hpath.symm⟩

end Plain

end ApiDecl

/-! ## Documents of a table -/

/-- What is replied is about declarations. -/
def Binding.isDocument (b : Binding σ) : Bool :=
  match b.endpoint with
  | .operation _ | .head | .options _ => false
  | .collectionDocs _ | .operationDocs _ | .index _ => true

theorem Table.filter_isDocument_auxiliary (routing : Routing) (kind : Auxiliary) (method : Method)
    (path : String) (endpoint : Endpoint σ) :
    (auxiliary routing kind method path endpoint).filter Binding.isDocument =
      if Binding.isDocument ⟨method, path, endpoint⟩ then
        auxiliary routing kind method path endpoint
      else [] := by
  unfold auxiliary
  by_cases hallowed : routing.allows kind = true
  · simp only [hallowed, if_true, List.filter_singleton, cond_eq_ite]
  · simp [hallowed]

theorem Collection.filter_isDocument_ownBindings (routing : Routing) (c : Collection σ) :
    (c.ownBindings routing).filter Binding.isDocument =
      if routing.allows .docs then
        (c.ownResources.filter Resource.isBound).map Resource.binding
      else [] := by
  have hoperation : ∀ o : Operation σ, (o.bindings routing c.node).filter Binding.isDocument =
      Table.auxiliary routing .docs .get (Table.operationDocsPath c.node o)
        (.operationDocs o) := by
    intro o
    simp [Operation.bindings, Table.filter_isDocument_auxiliary, Binding.isDocument,
      Table.operationDocsPath]
  have hown : (c.ownBindings routing).filter Binding.isDocument =
      Table.auxiliary routing .docs .get c.node.docsPath (.collectionDocs c) ++
        (c.node.operations.filter fun o => o.gate.isRegistered).flatMap fun o =>
          Table.auxiliary routing .docs .get (Table.operationDocsPath c.node o)
            (.operationDocs o) := by
    simp [ownBindings, Table.filter_isDocument_auxiliary, Binding.isDocument, List.filter_flatMap,
      hoperation]
  rw [hown]
  by_cases hdocs : routing.allows .docs = true
  · have hnodes : c.ownResources.filter Resource.isBound = .collection c ::
          (c.node.operations.filter fun o => o.gate.isRegistered).map (.operation c) := by
      rw [ownResources, List.filter_cons_of_pos rfl, List.filter_map]
      rfl
    simp only [Table.auxiliary, hdocs, if_true, hnodes, List.map_cons, List.map_map,
      ← List.map_eq_flatMap]
    rfl
  · simp [Table.auxiliary, hdocs]

namespace ApiDecl

open Collection (resources walkAll)

variable {d : ApiDecl σ}

/-- The binding of the index, if it is switched on. -/
def indexBinding (d : ApiDecl σ) : Table σ :=
  Table.auxiliary d.routing .index .get (d.routing.route "docs")
    (.index (.ofCollections d.name d.tree))

theorem filter_isDocument_plan (d : ApiDecl σ) :
    d.plan.filter Binding.isDocument =
      (if d.routing.allows .docs then
        ((resources d.tree).filter Resource.isBound).map Resource.binding
      else []) ++ d.indexBinding := by
  have hindex : d.indexBinding.filter Binding.isDocument = d.indexBinding := by
    rw [indexBinding, Table.filter_isDocument_auxiliary]
    rfl
  rw [plan, Table.plan, ← indexBinding, List.filter_append, List.filter_flatMap, hindex]
  simp only [Collection.filter_isDocument_ownBindings]
  by_cases hdocs : d.routing.allows .docs = true
  · simp only [hdocs, if_true, resources, List.filter_flatMap, List.map_flatMap]
  · simp [hdocs]

theorem eq_of_mem_indexBinding {b : Binding σ} (h : b ∈ d.indexBinding) :
    b.path = d.routing.route (Path.along ["docs"]) := by
  have hdocs : Path.Proper ["docs"] := Path.proper_singleton (by decide)
  have hpath : b.path = d.routing.route "docs" := by
    rw [indexBinding, Table.auxiliary] at h
    split at h
    · rw [List.mem_singleton.1 h]
    · cases h
  rw [hpath, Path.route_along hdocs, ← Path.route_ofSegments hdocs, Path.ofSegments_singleton]

theorem distinct_indexBinding (d : ApiDecl σ) : d.indexBinding.Distinct := by
  rw [indexBinding, Table.auxiliary]
  split
  · exact List.pairwise_singleton _ _
  · exact List.Pairwise.nil

section Plain

variable (hapart : d.NamesApart) (hplain : ∀ x ∈ resources d.tree, Path.IsPlain x.name)
include hapart hplain

/-- The documents of a table clash only with each other, and only where they have the same
segments. -/
theorem distinct_documents_iff :
    Table.Distinct (d.plan.filter Binding.isDocument) ↔ (d.routing.allows .docs = true →
      ((resources d.tree).filter Resource.isBound).Pairwise fun x y => x.names ≠ y.names) := by
  rw [filter_isDocument_plan]
  by_cases hdocs : d.routing.allows .docs = true
  · have hshape : ((resources d.tree).filter Resource.isBound).Pairwise
          (fun x y => Path.shape x.docsPath ≠ Path.shape y.docsPath) ↔
        ((resources d.tree).filter Resource.isBound).Pairwise fun x y => x.names ≠ y.names := by
      refine List.Pairwise.iff_of_mem fun {x y} hx hy => not_congr ?_
      exact shape_docsPath_iff hapart hplain (List.mem_of_mem_filter hx)
        (List.mem_of_mem_filter hy)
    -- the index has fewer segments than any other document
    have hindex : ∀ b ∈ ((resources d.tree).filter Resource.isBound).map Resource.binding,
        ∀ b' ∈ d.indexBinding,
          ¬ (b.method = b'.method ∧ Path.shape b.path = Path.shape b'.path) := by
      rw [List.forall_mem_map]
      intro x hx b' hb' hsame
      have hmem : x ∈ resources d.tree := List.mem_of_mem_filter hx
      rcases docsPath_resource hapart hplain x hmem with ⟨hxplain, hxpath⟩
      have hnames : "docs" :: x.names = ["docs"] := by
        rw [← Path.shape_route_along_iff d.routing (List.cons_ne_nil _ _) (List.cons_ne_nil _ _)
          hxplain (List.forall_mem_singleton.2 (by decide)), ← hxpath, ← eq_of_mem_indexBinding hb']
        exact hsame.2
      exact names_ne_nil hapart x hmem (List.cons.inj hnames).2
    simp only [hdocs, if_true, true_implies, ← hshape, Table.Distinct, List.pairwise_append,
      List.pairwise_map]
    constructor
    · intro h
      exact h.1.imp fun hne hsame => hne ⟨rfl, hsame⟩
    · intro h
      exact ⟨h.imp fun hne hsame => hne hsame.2, distinct_indexBinding d, hindex⟩
  · simp [hdocs, distinct_indexBinding]

/-- Below the root documents are told apart by their segments. Two resources have theirs at one
path, or at paths of one shape, exactly if one is an operation and the other a collection two levels
below, by way of a subcollection called `operations` to one of the operation's name; so no two have
where no subcollection is called so. The documents in a table, the index among them, clash
exactly if an operation that is ever open has such a collection, and documents are switched on. -/
theorem documents_apart_iff :
    ((resources d.tree).Pairwise fun x y =>
      (x.docsPath = y.docsPath ↔ x.Eclipses y ∨ y.Eclipses x) ∧
        (Path.shape x.docsPath = Path.shape y.docsPath ↔ x.docsPath = y.docsPath)) ∧
    ((∀ c ∈ walkAll d.tree, "operations" ∉ c.children.map Collection.name) →
      (resources d.tree).Pairwise fun x y => x.docsPath ≠ y.docsPath) ∧
    (Table.Distinct (d.plan.filter Binding.isDocument) ↔
      (d.routing.allows .docs = true → ∀ c ∈ walkAll d.tree, ∀ o ∈ c.node.operations,
        o.gate.isRegistered = true →
          ∀ e ∈ walkAll d.tree, e.node.lineage ≠ c.node.lineage ++ ["operations", o.name])) := by
  have hpaths := pairwise_docsPath hapart hplain
  refine ⟨hpaths, ?_, ?_⟩
  · intro hnone
    have heclipses := hapart.grown.forall_not_eclipses_of_not_mem hnone
    refine hpaths.imp_of_mem fun {x y} hx hy hclash hsame => ?_
    rcases hclash.1.1 hsame with hxy | hyx
    · exact heclipses x hx y hy hxy
    · exact heclipses y hy x hx hyx
  · rw [distinct_documents_iff hapart hplain]
    exact imp_congr_right fun _ => hapart.grown.pairwise_names_iff

end Plain

/-- Pages with an operation, a subcollection of its name and one called `operations`. -/
def sharedNames : List (ApiClause Unit) :=
  [.collection "pages" [.operation "show" [], .collection "show" [],
    .collection "operations" [.operation "list" []]]]

theorem documents_apart_sharedNames :
    (declared "site" sharedNames).NamesApart ∧
      (∀ x ∈ resources (declared "site" sharedNames).tree, Path.IsPlain x.name) ∧
      (resources (declared "site" sharedNames).tree).map Resource.docsPath =
        ["/docs/pages", "/docs/pages/operations/show", "/docs/pages/show",
          "/docs/pages/operations", "/docs/pages/operations/operations/list"] ∧
      Table.Distinct ((declared "site" sharedNames).plan.filter Binding.isDocument) := by
  have hapart : (declared "site" sharedNames).NamesApart := by decide +kernel
  have hplain : ∀ x ∈ resources (declared "site" sharedNames).tree, Path.IsPlain x.name := by
    decide +kernel
  refine ⟨hapart, hplain, by decide +kernel, ?_⟩
  exact (documents_apart_iff hapart hplain).2.2.2 fun _ => by decide +kernel

/-- Pages with an operation, and with a subcollection called `operations` to one of its name. -/
def eclipsedShow : List (ApiClause Unit) :=
  [.collection "pages" [.operation "show" [],
    .collection "operations" [.collection "show" []]]]

/-- Different names do not keep all documents apart: a collection may be where an operation has its
document, and then nothing is built. -/
theorem documents_clash_eclipsedShow :
    (declared "site" eclipsedShow).NamesApart ∧
      (∀ x ∈ resources (declared "site" eclipsedShow).tree, Path.IsPlain x.name) ∧
      ¬ ((resources (declared "site" eclipsedShow).tree).Pairwise fun x y =>
        x.docsPath ≠ y.docsPath) ∧
      Api.build "site" eclipsedShow =
        .error (.boundTwice .get "/docs/pages/operations/show" "docs") := by
  refine ⟨by decide +kernel, by decide +kernel, by decide +kernel, ?_⟩
  rw [← failure?_eq_some_iff]
  decide +kernel

end ApiDecl
end ResourceRouting
