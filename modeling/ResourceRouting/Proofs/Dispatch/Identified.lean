import ResourceRouting.Proofs.Dispatch.Handling
import ResourceRouting.Proofs.Dispatch.Instances
import ResourceRouting.Proofs.Paths.Placeholders
import ResourceRouting.Proofs.Validation

/-!
# Identified — members are named by the paths that lead to them

An operation that shows, destroys or updates a member asks for the identifier of its collection.
The name of that parameter and the placeholder in the path of the operation come from one
declaration and reach a request on two ways: the one through the schema, the other through joining,
trimming and rooting the path and matching it. They meet in the inputs, where captures override
what the caller says.

* `Operation.idParam_mem_params`: the path of such an operation has the placeholder.
* `Path.exists_segment_of_captures?`: so what matches the path gives it a value.
* `Api.identified_of_build`: no request to such an operation is refused for want of it.
-/

namespace ResourceRouting

variable {σ : Type}

/-! ## Inputs that have a name -/

theorem validate_ne_missing {inputs : Inputs} {name : String} (h : name ∈ inputs)
    (params : List Parameter) (present : List String) :
    validate inputs params ≠ .error (.missing name present) := by
  intro hmissing
  cases validate_eq_error_iff.1 hmissing with
  | missing hfirst =>
      have hlacks := hfirst.holds
      rw [Parameter.lacks, Std.ExtTreeMap.contains_iff_mem.2 h] at hlacks
      simp at hlacks

/-- The request is not refused for want of a parameter that the inputs have. -/
theorem Operation.refusal?_ne_missing {inputs : Inputs} {name : String} (h : name ∈ inputs)
    (o : Operation σ) (hooks : Hooks σ) (s : σ) (present : List String) :
    o.refusal? hooks inputs s ≠ some (.invalid (.missing name present)) := by
  intro hrefusal
  cases Operation.refusal?_eq_some_iff.1 hrefusal with
  | invalid _ _ hvalidate => exact validate_ne_missing h o.params present hvalidate

/-! ## Paths that lead to a member -/

/-- The operations of the collection that name a member by convention are on a member. -/
def CollectionNode.Members (node : CollectionNode σ) : Prop :=
  ∀ o ∈ node.operations, o.name ∈ ["show", "destroy", "update"] → o.scope = .member

theorem OperationDecl.scope_of_canonical {d : OperationDecl σ}
    (h : (Convention.ofName d.name).canonical = true) :
    d.convention.scope = (Convention.ofName d.name).scope := by
  simp [convention, h]

theorem CollectionHead.members_settled (ctx : CompileContext σ)
    (parent? : Option (CollectionNode σ)) (h : CollectionHead σ) :
    (h.settled ctx parent?).Members := by
  have hnames : ∀ name ∈ ["show", "destroy", "update"],
      (Convention.ofName name).canonical = true ∧ (Convention.ofName name).scope = .member := by
    decide
  intro o ho hname
  rcases List.mem_map.1 ho with ⟨d, -, rfl⟩
  -- no clause changes the scope that comes with a canonical name
  rcases hnames d.name hname with ⟨hcanonical, hscope⟩
  rw [← hscope, ← d.scope_of_canonical hcanonical]
  rfl

theorem ApiDecl.members_of_mem_tree {d : ApiDecl σ} :
    ∀ c ∈ Collection.walkAll d.tree, c.node.Members :=
  forall_mem_tree_of_settled fun head => head.members_settled d.context

/-- A name without a slash is one placeholder. -/
theorem Path.params_placeholder {name : String} (h : '/' ∉ name.toList) :
    params (":" ++ name) = [name] := by
  have hsegments : segments (":" ++ name) = [":" ++ name] := by
    have hone := segments_ofSegments (List.cons_ne_nil (":" ++ name) [])
      (List.forall_mem_singleton.2 (isSegment_placeholder h).2)
    rwa [ofSegments_singleton] at hone
  simp [params, hsegments, placeholder?_colon_append]

/-- Whatever root, parents and settings the path goes through, the identifier is one of its
placeholders. -/
theorem Operation.idParam_mem_params {routing : Routing} {node : CollectionNode σ}
    {o : Operation σ} (hrouted : node.Routed routing) (hmembers : node.Members)
    (hslash : '/' ∉ node.idParam.toList) (ho : o ∈ node.operations)
    (hname : o.name ∈ ["show", "destroy", "update"]) : node.idParam ∈ Path.params o.path := by
  rw [hrouted.operationPath o ho, Path.params_route, params_relative, hmembers o ho hname,
    if_pos rfl, Path.params_placeholder hslash]
  simp

/-! ## Built applications -/

namespace Api

/-- Members are named by the paths that lead to them. In a built application a request that is
dispatched to an operation named `show`, `destroy` or `update` has captured a value, and not the
empty one, for the identifier of the collection that has the operation, whatever the collection
hangs under. The operation is given this value in place of what the caller says, so it never
refuses the request for want of the identifier. -/
theorem identified_of_build {name : String} {clauses : List (ApiClause σ)} {api : Api σ}
    (hbuild : build name clauses = .ok api) :
    ∀ c ∈ Collection.walkAll api.collections, '/' ∉ c.node.idParam.toList →
      ∀ o ∈ c.node.operations, o.name ∈ ["show", "destroy", "update"] →
        ∀ method path sel, api.find? method path = some sel →
          sel.binding.endpoint = .operation o →
            ∃ value, sel.captures[c.node.idParam]? = some value ∧ value ≠ "" ∧
              ∀ inputs : Inputs,
                (inputs.overridden sel.captures)[c.node.idParam]? = some value ∧
                (∀ present, validate (inputs.overridden sel.captures) o.params ≠
                  .error (.missing c.node.idParam present)) ∧
                ∀ s, api.handle method path inputs s =
                    o.invoke api.hooks (inputs.overridden sel.captures) s ∧
                  ∀ present, o.refusal? api.hooks (inputs.overridden sel.captures) s ≠
                    some (.invalid (.missing c.node.idParam present)) := by
  intro c hc hslash o ho hname method path sel hfind hendpoint
  rcases mem_of_find? hfind with ⟨hmem, -, hcaptured⟩
  have hpath : sel.binding.path = o.path := by
    rw [bindings_of_build hbuild] at hmem
    rw [(Table.eq_of_mem_plan hmem hendpoint).1]
  -- the name that the schema asks for is the one that was put into the path
  have hplaceholder : c.node.idParam ∈ Path.params sel.binding.path := by
    rw [(build_eq_ok_iff.1 hbuild).2] at hc
    rw [hpath]
    exact Operation.idParam_mem_params (ApiDecl.routed_of_mem_tree c hc)
      (ApiDecl.members_of_mem_tree c hc) hslash ho hname
  rcases Path.exists_segment_of_captures? hcaptured hplaceholder with ⟨value, hvalue, hsegment⟩
  refine ⟨value, hvalue, hsegment.1, ?_⟩
  intro inputs
  have hgiven : (inputs.overridden sel.captures)[c.node.idParam]? = some value := by
    rw [Inputs.getElem?_overridden, hvalue, Option.some_or]
  have hthere : c.node.idParam ∈ inputs.overridden sel.captures := by
    rw [Std.ExtTreeMap.mem_iff_isSome_getElem?, hgiven]
    rfl
  refine ⟨hgiven, validate_ne_missing hthere o.params, ?_⟩
  intro s
  exact ⟨handle_of_operation hfind hendpoint, o.refusal?_ne_missing hthere api.hooks s⟩

/-- Drafts of pages of a site, without a segment of their own, below a root with a placeholder. -/
def shownDrafts : List (ApiClause Unit) :=
  [.routing
      { documentation := false
        headRoutes := false
        optionsRoutes := false
        docRoutes := false
        rootPath := "/v1/:tenant/" },
    .collection "sites" [.withId "site", .collection "pages" [.withId "page",
      .collection "drafts" [.withId "draft", .noMember, .operation "show" []]]]]

/-- The path names the draft, and all that it hangs under. -/
theorem identified_shownDrafts :
    ∃ api : Api Unit, build "site" shownDrafts = .ok api ∧
      ∃ c ∈ Collection.walkAll api.collections, c.node.idParam = "draft" ∧
        ∃ o ∈ c.node.operations, o.name = "show" ∧
          ∃ sel, api.find? .get "/v1/acme/sites/7/pages/42/3" = some sel ∧
            sel.binding.endpoint = .operation o ∧
              sel.captures.toList =
                [("draft", "3"), ("page", "42"), ("site", "7"), ("tenant", "acme")] ∧
                ∃ value, sel.captures["draft"]? = some value ∧ value ≠ "" := by
  have hbuild : ∃ api : Api Unit, build "site" shownDrafts = .ok api :=
    isOk_iff_exists.1 (by decide +kernel)
  rcases hbuild with ⟨api, h⟩
  have hread : (api.find? .get "/v1/acme/sites/7/pages/42/3").map (fun sel =>
      (sel.binding.endpoint.fixedReply?.isNone, sel.captures.toList)) =
        some (true, [("draft", "3"), ("page", "42"), ("site", "7"), ("tenant", "acme")]) := by
    rw [(build_eq_ok_iff.1 h).2]
    decide +kernel
  have howner : ∀ c ∈ Collection.walkAll api.collections, ∀ o ∈ c.node.operations,
      c.node.idParam = "draft" ∧ o.name = "show" := by
    rw [(build_eq_ok_iff.1 h).2]
    decide +kernel
  rcases Option.map_eq_some_iff.1 hread with ⟨sel, hfind, hsel⟩
  simp only [Prod.mk.injEq, Option.isNone_iff_eq_none] at hsel
  rcases hsel with ⟨hfixed, hcaptures⟩
  rcases Endpoint.operation_of_fixedReply?_eq_none hfixed with ⟨o, hendpoint⟩
  have hplanned : sel.binding ∈ Table.plan api.name api.routing api.collections := by
    have hmem := (mem_of_find? hfind).1
    rw [bindings_of_build h] at hmem
    rw [(build_eq_ok_iff.1 h).2]
    exact hmem
  rcases Table.eq_of_mem_plan hplanned hendpoint with ⟨-, c, hc, ho⟩
  rcases howner c hc o ho with ⟨hid, hname⟩
  rcases identified_of_build h c hc (by rw [hid]; decide) o ho (by rw [hname]; decide) .get
    "/v1/acme/sites/7/pages/42/3" sel hfind hendpoint with ⟨value, hvalue, hne, -⟩
  rw [hid] at hvalue
  exact ⟨api, h, c, hc, hid, o, ho, hname, sel, hfind, hendpoint, hcaptures, value, hvalue, hne⟩

end Api
end ResourceRouting
