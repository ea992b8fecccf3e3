import ResourceRouting.Proofs.Dispatch.Matching
import ResourceRouting.Proofs.Dispatch.Selection
import ResourceRouting.Proofs.Paths.Relative

/-!
# Placeholders — which names a path repeats

Building checks the paths of collections and operations, relative to the root. The paths in the
table are others: they have the root in front, auxiliary bindings leave the member out, and
documents are placed by names and not by paths.

* `Operation.auxRelative_sublist`: an auxiliary path has no placeholder that the path of its
  operation has not, so checking the one checks the other.
* `CollectionNode.lineage_sublist`: so it is with the path of a document, where every name with
  placeholders in it has a segment of its own.
* `Api.nodup_params_iff_of_build`: a path of the table names a placeholder twice only on account of
  the root.
-/

namespace ResourceRouting
namespace Path

/-! ## Placeholders of synthesized paths -/

theorem params_docs : params "docs" = [] := by decide

theorem params_ofCollection_root (name : String) :
    params (ofCollection name .root) = params name := by
  rw [ofCollection, params_join, params_empty, List.nil_append]

/-- A subcollection has the placeholders of its parent, then that of the member it hangs under,
then those of its own segment. -/
theorem params_ofCollection_under (name parent : String) (parentId? : Option String)
    (noMember : Bool) :
    params (ofCollection name (.under parent parentId? noMember)) =
      params parent ++ (parentId?.elim [] fun id => params (":" ++ id)) ++
        (if noMember then [] else params name) := by
  cases parentId? with
  | none =>
      cases noMember with
      | false => simp [ofCollection, params_join]
      | true => simp [ofCollection]
  | some id =>
      cases noMember with
      | false => simp [ofCollection, params_join, params_joinParam]
      | true => simp [ofCollection, params_joinParam]

theorem params_ofOperation (collection idParam name : String) (scope : Scope) (canonical : Bool) :
    params (ofOperation collection idParam name scope canonical) =
      params collection ++ (if scope = .member then params (":" ++ idParam) else []) ++
        (if canonical then [] else params name) := by
  cases scope with
  | collection =>
      cases canonical with
      | false => simp [ofOperation, params_join]
      | true => simp [ofOperation]
  | member =>
      cases canonical with
      | false => simp [ofOperation, params_join, params_joinParam]
      | true => simp [ofOperation, params_joinParam]

/-- Canonical names are left out of paths, and none of them has a placeholder in it. -/
theorem params_of_canonical {name : String} (h : (Convention.ofName name).canonical = true) :
    params name = [] := by
  have hstandard : ∀ name ∈ Convention.standard.map Prod.fst, params name = [] := by
    decide +kernel
  exact hstandard name (Convention.canonical_ofName_iff.1 h)

/-! ## Nothing captured is lost -/

/-- A match that keeps every capture: as many as the pattern has placeholders, and each value is
found under its name. -/
def Keeps (pattern path : String) (captures : Inputs) : Prop :=
  captures.size = (params pattern).length ∧
    ∃ captured, Fits (segments pattern) (segments path) captured ∧
      ∀ p ∈ captured, captures[p.1]? = some p.2

theorem keeps_of_captures? {pattern path : String} {captures : Inputs}
    (hnodup : (params pattern).Nodup) (h : captures? pattern path = some captures) :
    Keeps pattern path captures := by
  refine ⟨size_of_captures? hnodup h, ?_⟩
  rcases captures?_eq_some_iff.1 h with ⟨captured, hfits, rfl⟩
  exact ⟨captured, hfits, getElem?_ofPairs_of_fits hnodup hfits⟩

end Path

variable {σ : Type}

/-! ## Operations -/

namespace Operation

theorem params_relative (node : CollectionNode σ) (o : Operation σ) :
    Path.params (o.relative node) =
      Path.params node.relative ++
        (if o.scope = .member then Path.params (":" ++ node.idParam) else []) ++
          (if (Convention.ofName o.name).canonical then [] else Path.params o.name) :=
  Path.params_ofOperation _ _ _ _ _

/-- The name of an operation is a segment of its path, or has no placeholders. -/
theorem name_sublist (o : Operation σ) :
    (Path.params o.name).Sublist
      (if (Convention.ofName o.name).canonical then [] else Path.params o.name) := by
  by_cases hcanonical : (Convention.ofName o.name).canonical = true
  · rw [if_pos hcanonical, Path.params_of_canonical hcanonical]
  · rw [if_neg hcanonical]

/-- Whatever comes before the placeholders of a collection, the name of an operation may follow
it as it follows the path of the collection. -/
theorem append_name_sublist {node : CollectionNode σ} {names : List String} (o : Operation σ)
    (h : names.Sublist (Path.params node.relative)) :
    (names ++ Path.params o.name).Sublist (Path.params (o.relative node)) := by
  rw [params_relative]
  exact (h.trans (List.sublist_append_left _ _)).append o.name_sublist

theorem auxRelative_sublist (node : CollectionNode σ) (o : Operation σ) :
    (Path.params (o.auxRelative node)).Sublist (Path.params (o.relative node)) := by
  rw [auxRelative, Path.params_join]
  exact o.append_name_sublist (List.Sublist.refl _)

end Operation

/-! ## Documents -/

namespace CollectionNode

theorem params_docsRelative (node : CollectionNode σ) :
    Path.params node.docsRelative = node.lineage.flatMap Path.params := by
  rw [docsRelative, Path.params_join, Path.params_ofSegments, Path.params_docs, List.nil_append]

theorem params_operationDocs (node : CollectionNode σ) (o : Operation σ) :
    Path.params (o.docsRelative node) =
      node.lineage.flatMap Path.params ++ Path.params o.name := by
  have hoperations : Path.params "operations" = [] := by decide
  rw [Operation.docsRelative, Path.params_join, Path.params_join, params_docsRelative,
    hoperations, List.append_nil]

/-- The names down to the collection have no placeholders besides those of its path. -/
def Shows (node : CollectionNode σ) : Prop :=
  (node.lineage.flatMap Path.params).Sublist (Path.params node.relative)

end CollectionNode

/-- A collection without a segment of its own has no placeholder in its name either. -/
def CollectionHead.Shown (h : CollectionHead σ) : Prop :=
  h.noMember = true → Path.params h.name = []

namespace CollectionHead

theorem shows_settled_root (ctx : CompileContext σ) (h : CollectionHead σ) :
    (h.settled ctx none).Shows := by
  have hlineage : (h.settled ctx none).lineage = [h.name] := rfl
  have hrelative : (h.settled ctx none).relative = Path.ofCollection h.name .root := rfl
  rw [CollectionNode.Shows, hlineage, hrelative, Path.params_ofCollection_root,
    List.flatMap_singleton]

theorem shows_settled_under (ctx : CompileContext σ) {parent : CollectionNode σ}
    {h : CollectionHead σ} (hparent : parent.Shows) (hshown : h.Shown) :
    (h.settled ctx (some parent)).Shows := by
  have hlineage : (h.settled ctx (some parent)).lineage = parent.lineage ++ [h.name] := rfl
  have hrelative : (h.settled ctx (some parent)).relative =
      Path.ofCollection h.name (.under parent.relative
        (if h.customId then some parent.idParam else none) h.noMember) := rfl
  have hname : (Path.params h.name).Sublist (if h.noMember then [] else Path.params h.name) := by
    by_cases hno : h.noMember = true
    · rw [if_pos hno, hshown hno]
    · rw [if_neg hno]
  rw [CollectionNode.Shows, hlineage, hrelative, Path.params_ofCollection_under,
    List.flatMap_append, List.flatMap_singleton]
  exact (hparent.trans (List.sublist_append_left _ _)).append hname

end CollectionHead

namespace ApiDecl

/-- No subcollection is without a segment of its own and has a placeholder in its name. -/
def NamesShown (d : ApiDecl σ) : Prop :=
  ∀ c ∈ d.collections, ∀ e ∈ CollectionDecl.walkAll c.children, e.head.Shown

theorem shows_of_mem_tree {d : ApiDecl σ} (h : d.NamesShown) :
    ∀ c ∈ Collection.walkAll d.tree, c.node.Shows :=
  forall_mem_tree (fun head => head.shows_settled_root d.context)
    (fun _ _ hparent hshown => CollectionHead.shows_settled_under d.context hparent hshown) h

/-- The binding is made for a relative path that names no placeholder twice; of a document this is
known only where every name is shown. -/
def Derives (d : ApiDecl σ) (b : Binding σ) : Prop :=
  ∃ own, b.path = d.routing.route own ∧
    ((b.endpoint.kind = Auxiliary.docs.text → d.NamesShown) → (Path.params own).Nodup)

theorem derives_of_nodup {d : ApiDecl σ} {b : Binding σ} {own : String}
    (hpath : b.path = d.routing.route own) (hown : (Path.params own).Nodup) : d.Derives b :=
  ⟨own, hpath, fun _ => hown⟩

theorem derives_collection {d : ApiDecl σ} {c : Collection σ}
    (hc : c ∈ Collection.walkAll d.tree) (hdistinct : c.node.DistinctPlaceholders) :
    d.Derives ⟨.head, c.node.path, .head⟩ ∧ d.Derives ⟨.options, c.node.path, .options c.allow⟩ ∧
      d.Derives ⟨.get, c.node.docsPath, .collectionDocs c⟩ := by
  have hrouted := routed_of_mem_tree c hc
  refine ⟨derives_of_nodup hrouted.path hdistinct.1, derives_of_nodup hrouted.path hdistinct.1,
    c.node.docsRelative, hrouted.docsPath, ?_⟩
  -- a document is placed by names, which the check of paths has not seen
  intro hshown
  have hnames := shows_of_mem_tree (hshown rfl) c hc
  rw [CollectionNode.params_docsRelative]
  exact hdistinct.1.sublist hnames

theorem derives_operation {d : ApiDecl σ} {c : Collection σ}
    (hc : c ∈ Collection.walkAll d.tree) (hdistinct : c.node.DistinctPlaceholders)
    {o : Operation σ} (ho : o ∈ c.node.operations) :
    d.Derives ⟨o.method, o.path, .operation o⟩ ∧ d.Derives ⟨.head, o.auxPath, .head⟩ ∧
      d.Derives ⟨.options, o.auxPath, .options o.allow⟩ ∧
        d.Derives ⟨.get, Table.operationDocsPath c.node o, .operationDocs o⟩ := by
  have hrouted := routed_of_mem_tree c hc
  have hrelative := hdistinct.2 o ho
  have haux := hrelative.sublist (o.auxRelative_sublist c.node)
  refine ⟨derives_of_nodup (hrouted.operationPath o ho) hrelative,
    derives_of_nodup (hrouted.auxPath o ho) haux, derives_of_nodup (hrouted.auxPath o ho) haux,
    o.docsRelative c.node, hrouted.operationDocsPath o, ?_⟩
  intro hshown
  have hnames := shows_of_mem_tree (hshown rfl) c hc
  rw [CollectionNode.params_operationDocs]
  exact hrelative.sublist (o.append_name_sublist hnames)

theorem derives_of_mem_plan {d : ApiDecl σ}
    (hdistinct : ∀ c ∈ Collection.walkAll d.tree, c.node.DistinctPlaceholders) :
    ∀ b ∈ d.plan, d.Derives b := by
  have hdocs : (Path.params "docs").Nodup := by
    rw [Path.params_docs]
    exact List.nodup_nil
  refine Table.forall_mem_plan ?_ ?_ (derives_of_nodup (by dsimp only) hdocs)
  · intro c hc
    exact derives_collection hc (hdistinct c hc)
  · intro c hc o ho _
    exact derives_operation hc (hdistinct c hc) ho

end ApiDecl

/-! ## Tables -/

namespace Api

/-- A path of the table names a placeholder twice only if the root does, or the root shares one
with the rest of the path, or a document is placed under a name that is no segment of a path. Where
no name repeats, no capture is lost. -/
theorem nodup_params_iff_of_build {name : String} {clauses : List (ApiClause σ)} {api : Api σ}
    (hbuild : build name clauses = .ok api) :
    ∀ b ∈ api.bindings, ∃ own, b.path = api.routing.route own ∧
      ((b.endpoint.kind = Auxiliary.docs.text → (ApiDecl.declared name clauses).NamesShown) →
        (Path.params own).Nodup) ∧
      ((Path.params b.path).Nodup ↔
        (Path.params api.routing.rootPath).Nodup ∧ (Path.params own).Nodup ∧
          ∀ placeholder ∈ Path.params api.routing.rootPath, placeholder ∉ Path.params own) ∧
      ((Path.params b.path).Nodup → ∀ path captures,
        Path.captures? b.path path = some captures → Path.Keeps b.path path captures) ∧
      ((Path.params b.path).Nodup → ∀ method path captures,
        api.find? method path = some ⟨b, captures⟩ →
          captures.size = (Path.params b.path).length) := by
  intro b hb
  have hrouting : api.routing = (ApiDecl.declared name clauses).routing := by
    rw [(build_eq_ok_iff.1 hbuild).2]
    rfl
  rw [bindings_of_build hbuild] at hb
  rcases ApiDecl.derives_of_mem_plan (build_eq_ok_iff.1 hbuild).1.2.1 b hb with
    ⟨own, hpath, hown⟩
  rw [← hrouting] at hpath
  have hkeeps : (Path.params b.path).Nodup → ∀ path captures,
      Path.captures? b.path path = some captures → Path.Keeps b.path path captures :=
    fun hnodup _ _ => Path.keeps_of_captures? hnodup
  refine ⟨own, hpath, hown, ?_, hkeeps, ?_⟩
  · have hparams : Path.params b.path =
        Path.params api.routing.rootPath ++ Path.params own := by
      rw [hpath, Path.params_route]
    -- the check was for the relative path alone, so the root may bring in the same names again
    rw [hparams, List.nodup_append]
    refine and_congr_right fun _ => and_congr_right fun _ => ?_
    constructor
    · intro hne placeholder hroot hmem
      exact hne placeholder hroot placeholder hmem rfl
    · rintro hfresh placeholder hroot _ hmem rfl
      exact hfresh placeholder hroot hmem
  · intro hnodup method path captures hfind
    exact (hkeeps hnodup path captures (mem_of_find? hfind).2.2).1

/-- With a root that has no placeholder, no path of the site names one twice. -/
theorem nodup_params_pages :
    ∃ api : Api Unit, build "site" pages = .ok api ∧ (ApiDecl.declared "site" pages).NamesShown ∧
      ∀ b ∈ api.bindings, (Path.params b.path).Nodup ∧
        ∀ path captures, Path.captures? b.path path = some captures →
          Path.Keeps b.path path captures := by
  rcases exists_build_pages with ⟨api, h⟩
  have hshown : (ApiDecl.declared "site" pages).NamesShown := by
    intro c hc e he
    have hchildren : ∀ c ∈ (ApiDecl.declared "site" pages).collections,
        CollectionDecl.walkAll c.children = [] := by decide +kernel
    rw [hchildren c hc] at he
    cases he
  have hroot : Path.params api.routing.rootPath = [] := by
    rw [(build_eq_ok_iff.1 h).2]
    decide +kernel
  refine ⟨api, h, hshown, ?_⟩
  intro b hb
  rcases nodup_params_iff_of_build h b hb with ⟨own, -, hown, hiff, hkeeps, -⟩
  have hnodup : (Path.params b.path).Nodup := by
    rw [hiff, hroot]
    exact ⟨List.nodup_nil, hown fun _ => hshown, by simp⟩
  exact ⟨hnodup, hkeeps hnodup⟩

/-- Under a root with a placeholder of the same name the identifier in the root is lost. -/
theorem repeated_params_pages :
    ∃ api : Api Unit, build "site" (.routing { rootPath := "/:id" } :: pages) = .ok api ∧
      ∃ b ∈ api.bindings, b.path = "/:id/pages/:id" ∧ ¬ (Path.params b.path).Nodup ∧
        ∃ captures, api.find? .get "/7/pages/42" = some ⟨b, captures⟩ ∧
          captures.toList = [("id", "42")] := by
  have hbuild : ∃ api : Api Unit,
      build "site" (.routing { rootPath := "/:id" } :: pages) = .ok api :=
    isOk_iff_exists.1 (by decide +kernel)
  rcases hbuild with ⟨api, h⟩
  have hfind : (api.find? .get "/7/pages/42").map
      (fun sel => (sel.binding.path, sel.captures.toList)) =
        some ("/:id/pages/:id", [("id", "42")]) := by
    rw [(build_eq_ok_iff.1 h).2]
    decide +kernel
  rcases Option.map_eq_some_iff.1 hfind with ⟨⟨b, captures⟩, hsel, hpair⟩
  have hpath : b.path = "/:id/pages/:id" := (Prod.mk.inj hpair).1
  have hcaptures : captures.toList = [("id", "42")] := (Prod.mk.inj hpair).2
  have hb : b ∈ api.bindings := (mem_of_find? hsel).1
  have hrepeated : ¬ (Path.params "/:id/pages/:id").Nodup := by decide +kernel
  refine ⟨api, h, b, hb, hpath, ?_, captures, hsel, hcaptures⟩
  rw [hpath]
  exact hrepeated

end Api
end ResourceRouting
