import ResourceRouting.Proofs.Paths.Along
import ResourceRouting.Proofs.Paths.Relative

/-!
# Chains — what lies between a root collection and one below it

The path of a collection is told by the declarations on the way down to it and by nothing else. A
`Chain` is that way, and the paths of a collection, of its operations and of their documents are
read off it segment by segment.

* `ApiDecl.nodes_tree`: the collections of a tree are what its chains lead to, in the same order.
* `ApiDecl.mem_chains_of_under`: with a collection, every one above it is in the tree.
* `Api.leads_of_build`: every path of a built application is the one that a chain tells.
-/

namespace ResourceRouting

variable {σ : Type}

/-! ## Documents -/

namespace CollectionNode

variable {node : CollectionNode σ} {routing : Routing}

theorem docsRelative_eq (h : Path.Proper node.lineage) :
    node.docsRelative = Path.ofSegments ("docs" :: node.lineage) :=
  -- documents are joined under `docs` without a slash in front, and the root brings it in
  Path.join_segment_ofSegments h (by decide)

/-- The document of a collection is at its lineage. -/
theorem Routed.docsPath_eq (hrouted : node.Routed routing) (h : Path.Proper node.lineage) :
    node.docsPath = routing.route (Path.along ("docs" :: node.lineage)) := by
  have hdocs : Path.Proper ("docs" :: node.lineage) := .cons (by decide) h
  rw [hrouted.docsPath, docsRelative_eq h, Path.route_ofSegments hdocs, Path.route_along hdocs]

/-- The document of an operation is below that of its collection, one segment apart. -/
theorem Routed.operationDocsPath_eq (hrouted : node.Routed routing)
    (h : Path.Proper node.lineage) {o : Operation σ} (ho : Path.IsSegment o.name) :
    Table.operationDocsPath node o =
      routing.route (Path.along ("docs" :: node.lineage ++ ["operations", o.name])) := by
  have hdocs : Path.Proper ("docs" :: node.lineage) := .cons (by decide) h
  have hoperations : Path.Proper ("docs" :: node.lineage ++ ["operations"]) :=
    hdocs.append (List.forall_mem_singleton.2 (by decide))
  have hown : Path.Proper ("docs" :: node.lineage ++ ["operations", o.name]) :=
    hdocs.append (by simpa using ⟨by decide, ho⟩)
  have hrelative : o.docsRelative node =
      Path.ofSegments ("docs" :: node.lineage ++ ["operations", o.name]) := by
    rw [Operation.docsRelative, docsRelative_eq h, Path.join_ofSegments hdocs (by decide),
      Path.join_ofSegments hoperations ho, List.append_assoc]
    rfl
  rw [hrouted.operationDocsPath, hrelative, Path.route_ofSegments hown, Path.route_along hown]

end CollectionNode

/-! ## Chains -/

/-- The way from a root collection down to one of those below it. -/
inductive Chain (σ : Type)
  | root (head : CollectionHead σ)
  | under (parent : Chain σ) (head : CollectionHead σ)

namespace Chain

/-- The collection at the end. -/
def head : Chain σ → CollectionHead σ
  | root head => head
  | under _ head => head

/-- The way that goes on to one more collection. -/
def extend (parent? : Option (Chain σ)) (head : CollectionHead σ) : Chain σ :=
  match parent? with
  | none => .root head
  | some parent => .under parent head

/-- The names on the way, also of collections without a segment of their own. -/
def names : Chain σ → List String
  | root head => [head.name]
  | under parent head => parent.names ++ [head.name]

/-- The segments of the path to the end, the root of the application apart. A collection that
names an identifier of its own goes through the one of its parent; a root collection always has a
segment for its name. -/
def segments : Chain σ → List String
  | root head => [head.name]
  | under parent head =>
      parent.segments ++ ((if head.customId then [":" ++ parent.head.idParam] else []) ++
        if head.noMember then [] else [head.name])

/-- The collection that is compiled at the end. -/
def node (ctx : CompileContext σ) : Chain σ → CollectionNode σ
  | root head => head.settled ctx none
  | under parent head => head.settled ctx (some (parent.node ctx))

variable (ctx : CompileContext σ)

theorem node_extend (parent? : Option (Chain σ)) (head : CollectionHead σ) :
    (extend parent? head).node ctx = head.settled ctx (parent?.map (node ctx)) := by
  cases parent? <;> rfl

theorem node_eq_settled (chain : Chain σ) :
    ∃ parent?, chain.node ctx = chain.head.settled ctx parent? := by
  cases chain with
  | root head => exact ⟨none, rfl⟩
  | under parent head => exact ⟨some (parent.node ctx), rfl⟩

theorem name_node (chain : Chain σ) : (chain.node ctx).name = chain.head.name := by
  cases chain <;> rfl

theorem idParam_node (chain : Chain σ) : (chain.node ctx).idParam = chain.head.idParam := by
  cases chain <;> rfl

theorem routed_node (chain : Chain σ) : (chain.node ctx).Routed ctx.routing := by
  rcases chain.node_eq_settled ctx with ⟨parent?, hnode⟩
  rw [hnode]
  exact chain.head.routed_settled ctx parent?

theorem names_ne_nil (chain : Chain σ) : chain.names ≠ [] := by
  cases chain <;> simp [names]

theorem lineage_node (chain : Chain σ) : (chain.node ctx).lineage = chain.names := by
  induction chain with
  | root head =>
      rfl
  | under parent head ih =>
      rw [names, ← ih]
      rfl

end Chain

/-! ## The chains of a tree -/

namespace CollectionDecl

mutual

/-- The chains to a collection and to all below it, each before those that go on from it. -/
def chains (parent? : Option (Chain σ)) : CollectionDecl σ → List (Chain σ)
  | ⟨head, children⟩ =>
      Chain.extend parent? head :: chainsAll (some (Chain.extend parent? head)) children

def chainsAll (parent? : Option (Chain σ)) : List (CollectionDecl σ) → List (Chain σ)
  | [] => []
  | d :: rest => chains parent? d ++ chainsAll parent? rest

end

-- by the tree of declarations; the chain so far is compiled to the parent of the children
mutual

theorem nodes_walk_settled (ctx : CompileContext σ) : ∀ (d : CollectionDecl σ)
    (parent? : Option (Chain σ)),
      (d.settled ctx (parent?.map (Chain.node ctx))).walk.map Collection.node =
        (d.chains parent?).map (Chain.node ctx)
  | ⟨head, children⟩, parent? => by
      have hnode := Chain.node_extend ctx parent? head
      have hchildren := nodes_walkAll_settledAll ctx children (some (Chain.extend parent? head))
      rw [Option.map_some, hnode] at hchildren
      rw [settled, Collection.walk_mk, List.map_cons, hchildren, chains, List.map_cons, hnode]

theorem nodes_walkAll_settledAll (ctx : CompileContext σ) : ∀ (ds : List (CollectionDecl σ))
    (parent? : Option (Chain σ)),
      (Collection.walkAll (settledAll ctx (parent?.map (Chain.node ctx)) ds)).map
        Collection.node = (chainsAll parent? ds).map (Chain.node ctx)
  | [], _ => by
      rw [settledAll, chainsAll, Collection.walkAll, List.map_nil, List.map_nil]
  | d :: rest, parent? => by
      rw [settledAll, Collection.walkAll_cons, List.map_append, nodes_walk_settled ctx d,
        nodes_walkAll_settledAll ctx rest, chainsAll, List.map_append]

end

mutual

/-- A chain that goes on from another one comes after it, unless it goes on from the start. -/
theorem mem_chains_of_under : ∀ (d : CollectionDecl σ) {parent? : Option (Chain σ)}
    {above : Chain σ} {head : CollectionHead σ},
      .under above head ∈ d.chains parent? → above ∈ d.chains parent? ∨ parent? = some above
  | ⟨first, children⟩, parent?, above, head, h => by
      rw [chains, List.mem_cons] at h
      rw [chains, List.mem_cons]
      rcases h with hfirst | hbelow
      · right
        cases parent? with
        | none => cases hfirst
        | some parent =>
            cases hfirst
            rfl
      · left
        rcases mem_chainsAll_of_under children hbelow with hmem | hstart
        · exact Or.inr hmem
        · exact Or.inl (Option.some.inj hstart).symm

theorem mem_chainsAll_of_under : ∀ (ds : List (CollectionDecl σ)) {parent? : Option (Chain σ)}
    {above : Chain σ} {head : CollectionHead σ},
      .under above head ∈ chainsAll parent? ds → above ∈ chainsAll parent? ds ∨ parent? = some above
  | [], _, _, _, h => by
      rw [chainsAll] at h
      cases h
  | d :: rest, parent?, above, head, h => by
      rw [chainsAll, List.mem_append] at h
      rw [chainsAll, List.mem_append]
      rcases h with hd | hrest
      · rcases mem_chains_of_under d hd with hmem | hstart
        · exact Or.inl (Or.inl hmem)
        · exact Or.inr hstart
      · rcases mem_chainsAll_of_under rest hrest with hmem | hstart
        · exact Or.inl (Or.inr hmem)
        · exact Or.inr hstart

end

end CollectionDecl

namespace ApiDecl

/-- The chains to all collections of an application, in preorder. -/
def chains (d : ApiDecl σ) : List (Chain σ) := CollectionDecl.chainsAll none d.collections

variable {d : ApiDecl σ}

theorem nodes_tree (d : ApiDecl σ) :
    (Collection.walkAll d.tree).map Collection.node = d.chains.map (Chain.node d.context) :=
  CollectionDecl.nodes_walkAll_settledAll d.context d.collections none

theorem mem_chains_of_under {above : Chain σ} {head : CollectionHead σ}
    (h : .under above head ∈ d.chains) : above ∈ d.chains := by
  rcases CollectionDecl.mem_chainsAll_of_under d.collections h with hmem | hnone
  · exact hmem
  · cases hnone

theorem exists_collection_of_mem_chains {chain : Chain σ} (h : chain ∈ d.chains) :
    ∃ c ∈ Collection.walkAll d.tree, c.node = chain.node d.context := by
  have hmem : chain.node d.context ∈ (Collection.walkAll d.tree).map Collection.node := by
    rw [nodes_tree]
    exact List.mem_map_of_mem h
  exact List.mem_map.1 hmem

/-- What holds at the end of every chain holds of the whole tree, and the other way round. -/
theorem forall_chains_iff {P : CollectionNode σ → Prop} :
    (∀ c ∈ Collection.walkAll d.tree, P c.node) ↔ ∀ chain ∈ d.chains, P (chain.node d.context) := by
  rw [← List.forall_mem_map, nodes_tree, List.forall_mem_map]

/-- Chains and collections are related one by one exactly if each chain is related to its end. -/
theorem forall₂_chains_iff {R : Chain σ → CollectionNode σ → Prop} :
    List.Forall₂ (fun chain c => R chain c.node) d.chains (Collection.walkAll d.tree) ↔
      ∀ chain ∈ d.chains, R chain (chain.node d.context) := by
  have hnodes : List.Forall₂ (fun chain c => R chain c.node) d.chains
      (Collection.walkAll d.tree) ↔
        List.Forall₂ R d.chains ((Collection.walkAll d.tree).map Collection.node) :=
    List.forall₂_map_right_iff.symm
  rw [hnodes, nodes_tree, List.forall₂_map_right_iff, List.forall₂_same]

end ApiDecl

/-! ## Paths -/

/-- The names that the collection brings into paths all are of one kind. -/
structure CollectionNode.NamedBy (P : String → Prop) (node : CollectionNode σ) : Prop where
  name : P node.name
  idParam : P node.idParam
  operations : ∀ o ∈ node.operations, P o.name

instance (P : String → Prop) [DecidablePred P] (node : CollectionNode σ) :
    Decidable (node.NamedBy P) :=
  decidable_of_iff (P node.name ∧ P node.idParam ∧ ∀ o ∈ node.operations, P o.name)
    ⟨fun ⟨hname, hid, hoperations⟩ => ⟨hname, hid, hoperations⟩,
      fun h => ⟨h.name, h.idParam, h.operations⟩⟩

theorem CollectionNode.NamedBy.imp {P Q : String → Prop} (hPQ : ∀ s, P s → Q s)
    {node : CollectionNode σ} (h : node.NamedBy P) : node.NamedBy Q :=
  ⟨hPQ _ h.name, hPQ _ h.idParam, fun o ho => hPQ _ (h.operations o ho)⟩

/-- What an operation appends to the path of its collection: the identifier if it acts on one
member, and its name unless that is one of the canonical names. -/
def Operation.ownSegments (idParam : String) (o : Operation σ) : List String :=
  (if o.scope = .member then [":" ++ idParam] else []) ++
    if o.name ∈ Convention.standard.map Prod.fst then [] else [o.name]

namespace Chain

/-- The paths of the collection and of its operations are those that the chain tells. -/
structure Leads (routing : Routing) (chain : Chain σ) (node : CollectionNode σ) : Prop where
  name : node.name = chain.head.name
  idParam : node.idParam = chain.head.idParam
  lineage : node.lineage = chain.names
  path : node.path = Path.along (Path.rootSegments routing ++ chain.segments)
  docsPath : node.docsPath = Path.along (Path.rootSegments routing ++ "docs" :: chain.names)
  operationPath : ∀ o ∈ node.operations, o.path =
    Path.along (Path.rootSegments routing ++ (chain.segments ++ o.ownSegments chain.head.idParam))
  auxPath : ∀ o ∈ node.operations, o.auxPath =
    Path.along (Path.rootSegments routing ++ (chain.segments ++ [o.name]))
  operationDocsPath : ∀ o ∈ node.operations, Table.operationDocsPath node o =
    Path.along (Path.rootSegments routing ++ ("docs" :: chain.names ++ ["operations", o.name]))

end Chain

namespace ApiDecl

variable {d : ApiDecl σ}

section NamedBy

variable {P : String → Prop} (hnamed : ∀ chain ∈ d.chains, (chain.node d.context).NamedBy P)
include hnamed

theorem name_of_mem_chains {chain : Chain σ} (h : chain ∈ d.chains) : P chain.head.name := by
  rw [← chain.name_node d.context]
  exact (hnamed chain h).name

theorem idParam_of_mem_chains {chain : Chain σ} (h : chain ∈ d.chains) : P chain.head.idParam := by
  rw [← chain.idParam_node d.context]
  exact (hnamed chain h).idParam

theorem forall_mem_names {chain : Chain σ} (h : chain ∈ d.chains) : ∀ s ∈ chain.names, P s := by
  induction chain with
  | root head =>
      exact List.forall_mem_singleton.2 (name_of_mem_chains hnamed h)
  | under parent head ih =>
      rw [Chain.names, List.forall_mem_append]
      exact ⟨ih (mem_chains_of_under h),
        List.forall_mem_singleton.2 (name_of_mem_chains hnamed h)⟩

end NamedBy

section Segments

variable (hnamed : ∀ chain ∈ d.chains, (chain.node d.context).NamedBy Path.IsSegment)
include hnamed

/-- The path of a collection, the root of the application apart. -/
theorem relative_node {chain : Chain σ} (h : chain ∈ d.chains) :
    Path.Proper chain.segments ∧ (chain.node d.context).relative = Path.along chain.segments := by
  -- by the chain; whoever is above a collection is in the tree too, so those names are segments
  induction chain with
  | root head =>
      have hname : Path.IsSegment head.name := name_of_mem_chains hnamed h
      exact ⟨Path.proper_singleton hname, Path.ofCollection_root hname⟩
  | under parent head ih =>
      have hparent := mem_chains_of_under h
      have hname : Path.IsSegment head.name := name_of_mem_chains hnamed h
      have hid := (idParam_of_mem_chains hnamed hparent).2
      rcases ih hparent with ⟨hproper, hrelative⟩
      have hplace : ((Chain.under parent head).node d.context).relative =
          Path.ofCollection head.name (.under (Path.along parent.segments)
            (if head.customId then some parent.head.idParam else none) head.noMember) := by
        rw [← hrelative, ← parent.idParam_node d.context]
        rfl
      refine ⟨hproper.append (Path.forall_mem_turn (Path.isSegment_placeholder hid) hname), ?_⟩
      rw [hplace, Path.ofCollection_along hproper hname hid, Chain.segments]

theorem leads_node {chain : Chain σ} (h : chain ∈ d.chains) :
    chain.Leads d.routing (chain.node d.context) := by
  rcases relative_node hnamed h with ⟨hproper, hrelative⟩
  have hid := chain.idParam_node d.context
  have hlineage := chain.lineage_node d.context
  have hrouted : (chain.node d.context).Routed d.routing := chain.routed_node d.context
  have hnames : Path.Proper chain.names := ⟨chain.names_ne_nil, forall_mem_names hnamed h⟩
  have hdocs : Path.Proper ("docs" :: chain.names) := .cons (by decide) hnames
  have hproperLineage : Path.Proper (chain.node d.context).lineage := by
    rw [hlineage]
    exact hnames
  refine ⟨chain.name_node d.context, hid, hlineage, ?_, ?_, ?_, ?_, ?_⟩
  · rw [hrouted.path, hrelative, Path.route_along hproper]
  · rw [hrouted.docsPath_eq hproperLineage, hlineage, Path.route_along hdocs]
  · intro o ho
    have hname := (hnamed chain h).operations o ho
    have hid' := (idParam_of_mem_chains hnamed h).2
    have hown : Path.Proper (chain.segments ++ o.ownSegments chain.head.idParam) :=
      hproper.append (Path.forall_mem_turn (Path.isSegment_placeholder hid') hname)
    have hplace : o.relative (chain.node d.context) =
        Path.along (chain.segments ++ o.ownSegments chain.head.idParam) := by
      rw [Operation.relative, hrelative, hid,
        Path.ofOperation_along hproper hid' hname, Operation.ownSegments]
      simp only [Convention.canonical_ofName_iff]
    rw [hrouted.operationPath o ho, hplace, Path.route_along hown]
  · intro o ho
    have hname := (hnamed chain h).operations o ho
    have haux : Path.Proper (chain.segments ++ [o.name]) :=
      hproper.append (List.forall_mem_singleton.2 hname)
    rw [hrouted.auxPath o ho, Operation.auxRelative, hrelative, Path.join_along hproper hname,
      Path.route_along haux]
  · intro o ho
    have hname := (hnamed chain h).operations o ho
    have hown : Path.Proper ("docs" :: chain.names ++ ["operations", o.name]) :=
      hdocs.append (by simpa using ⟨by decide, hname⟩)
    rw [hrouted.operationDocsPath_eq hproperLineage hname, hlineage, Path.route_along hown]

end Segments

end ApiDecl

/-! ## Built applications -/

namespace Api

/-- Where all names and identifiers are segments, the chain from a root collection down to a
collection determines every path of that collection, of its operations and of their documents. -/
theorem leads_of_build {name : String} {clauses : List (ApiClause σ)} {api : Api σ}
    (hbuild : build name clauses = .ok api)
    (hnamed : ∀ c ∈ Collection.walkAll api.collections, c.node.NamedBy Path.IsSegment) :
    List.Forall₂ (fun chain c => Chain.Leads api.routing chain c.node)
      (ApiDecl.declared name clauses).chains (Collection.walkAll api.collections) := by
  rw [(build_eq_ok_iff.1 hbuild).2] at hnamed ⊢
  have hchains := ApiDecl.forall_chains_iff.1 hnamed
  have hleads : List.Forall₂ (fun chain node => Chain.Leads
      (ApiDecl.declared name clauses).routing chain node)
      (ApiDecl.declared name clauses).chains
      ((Collection.walkAll (ApiDecl.declared name clauses).tree).map Collection.node) := by
    rw [ApiDecl.nodes_tree, List.forall₂_map_right_iff, List.forall₂_same]
    intro chain hmem
    exact ApiDecl.leads_node hchains hmem
  rw [List.forall₂_map_right_iff] at hleads
  exact hleads

/-- Pages of a site and their drafts; drafts hang under a page without a segment of their own. -/
def drafts : List (ApiClause Unit) :=
  [.routing { rootPath := "/v1/", headRoutes := false, optionsRoutes := false },
    .collection "sites" [.withId "site", .noMember,
      .collection "pages" [.withId "page", .operation "show" [],
        .collection "drafts" [.withId "draft", .noMember, .action "publish" []]]]]

/-- The root collection keeps its segment, and the drafts, which give theirs up, are still named in
the path of their documents. -/
theorem leads_drafts :
    ∃ api : Api Unit, build "site" drafts = .ok api ∧
      List.Forall₂ (fun chain c => Chain.Leads api.routing chain c.node)
        (ApiDecl.declared "site" drafts).chains (Collection.walkAll api.collections) ∧
      (ApiDecl.declared "site" drafts).chains.map (fun chain => (chain.names, chain.segments)) =
        [(["sites"], ["sites"]), (["sites", "pages"], ["sites", ":site", "pages"]),
          (["sites", "pages", "drafts"], ["sites", ":site", "pages", ":page"])] ∧
      (Collection.walkAll api.collections).map (fun c =>
          (c.node.path, c.node.docsPath, c.node.operations.map Operation.path)) =
        [("/v1/sites", "/v1/docs/sites", []),
          ("/v1/sites/:site/pages", "/v1/docs/sites/pages", ["/v1/sites/:site/pages/:page"]),
          ("/v1/sites/:site/pages/:page", "/v1/docs/sites/pages/drafts",
            ["/v1/sites/:site/pages/:page/:draft/publish"])] := by
  have hbuild : ∃ api : Api Unit, build "site" drafts = .ok api :=
    isOk_iff_exists.1 (by decide +kernel)
  rcases hbuild with ⟨api, h⟩
  have hnamed : ∀ c ∈ Collection.walkAll api.collections,
      c.node.NamedBy Path.IsSegment := by
    rw [(build_eq_ok_iff.1 h).2]
    decide +kernel
  refine ⟨api, h, leads_of_build h hnamed, by decide +kernel, ?_⟩
  rw [(build_eq_ok_iff.1 h).2]
  decide +kernel

end Api
end ResourceRouting
