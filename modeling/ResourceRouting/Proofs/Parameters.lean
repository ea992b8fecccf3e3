import ResourceRouting.Proofs.Declared.Merging
import ResourceRouting.Proofs.Paths.Chains
import ResourceRouting.Proofs.Validation

/-!
# Parameters — what an operation asks for

Three parties say what an operation asks for: the convention of its name may imply the identifier
of a member, its own clauses declare parameters, and features add theirs. A name that is taken is
not taken again, whoever comes later.

* `OperationDecl.foldl_inject`: what is injected is what is new.
* `OperationDecl.asks_settled`: the three parts in their order.
* `Api.asks_of_build`: every operation of a built application asks for these, each name once.
-/

namespace ResourceRouting

variable {σ : Type}

/-! ## Names that are taken -/

/-- Of parameters in order, those with a name that is neither taken nor that of one before. -/
def Parameter.newcomers (taken : List String) : List Parameter → List Parameter
  | [] => []
  | p :: rest =>
      if p.name ∈ taken then newcomers taken rest else p :: newcomers (taken ++ [p.name]) rest

namespace OperationDecl

theorem inject_of_taken {own : List Parameter} {p : Parameter}
    (h : p.name ∈ own.map Parameter.name) : inject own p = own := by
  have hany : (own.any fun q => q.name == p.name) = true := by
    simpa using h
  rw [inject, if_pos hany]

theorem inject_of_fresh {own : List Parameter} {p : Parameter}
    (h : p.name ∉ own.map Parameter.name) : inject own p = own ++ [p] := by
  have hany : ¬ (own.any fun q => q.name == p.name) = true := by
    simpa using h
  rw [inject, if_neg hany]

theorem foldl_inject (own offered : List Parameter) :
    offered.foldl inject own =
      own ++ Parameter.newcomers (own.map Parameter.name) offered := by
  -- by what is offered: what is injected takes its name from all that comes later
  induction offered generalizing own with
  | nil =>
      simp [Parameter.newcomers]
  | cons p rest ih =>
      by_cases hmem : p.name ∈ own.map Parameter.name
      · rw [List.foldl_cons, inject_of_taken hmem, ih, Parameter.newcomers, if_pos hmem]
      · rw [List.foldl_cons, inject_of_fresh hmem, ih, Parameter.newcomers, if_neg hmem]
        simp

theorem nodup_foldl_inject {own : List Parameter} (h : (own.map Parameter.name).Nodup)
    (offered : List Parameter) : ((offered.foldl inject own).map Parameter.name).Nodup := by
  induction offered generalizing own with
  | nil =>
      exact h
  | cons p rest ih =>
      rw [List.foldl_cons]
      by_cases hmem : p.name ∈ own.map Parameter.name
      · rw [inject_of_taken hmem]
        exact ih h
      · rw [inject_of_fresh hmem]
        exact ih (nodup_map_concat_iff.2 ⟨hmem, h⟩)

/-! ## Parameters of the operation itself -/

theorem impliesId_iff {name : String} :
    Convention.impliesId name = true ↔ name ∈ ["show", "destroy", "update"] := by
  by_cases hname : name ∈ Convention.standard.map Prod.fst
  · -- five names, each looked up
    revert name
    decide
  · have hcanonical := mt Convention.canonical_ofName_iff.1 hname
    have hnone : name ∉ ["show", "destroy", "update"] := fun hmem =>
      hname ((by decide : ["show", "destroy", "update"] ⊆ Convention.standard.map Prod.fst) hmem)
    simp [Convention.impliesId, hcanonical, hnone]

/-- The identifier of a member, if the name of the operation implies it and no clause declares a
parameter of that name. -/
def implied (d : OperationDecl σ) (idParam : String) : List Parameter :=
  if d.name ∈ ["show", "destroy", "update"] ∧ idParam ∉ d.params.map Parameter.name then
    [.identifier idParam]
  else []

theorem eq_identifier_of_mem_implied {d : OperationDecl σ} {idParam : String} {p : Parameter}
    (h : p ∈ d.implied idParam) : p = .identifier idParam := by
  rw [implied] at h
  split at h
  · exact List.mem_singleton.1 h
  · cases h

theorem ownParams_eq (d : OperationDecl σ) (idParam : String) :
    d.ownParams idParam = d.implied idParam ++ d.params := by
  have htest : (Convention.impliesId d.name &&
      !(d.params.any fun p => p.name == idParam)) = true ↔
        d.name ∈ ["show", "destroy", "update"] ∧ idParam ∉ d.params.map Parameter.name := by
    rw [Bool.and_eq_true, impliesId_iff]
    simp
  by_cases himplied : d.name ∈ ["show", "destroy", "update"] ∧
      idParam ∉ d.params.map Parameter.name
  · rw [ownParams, if_pos (htest.2 himplied), implied, if_pos himplied]
    rfl
  · rw [ownParams, if_neg (mt htest.1 himplied), implied, if_neg himplied]
    rfl

theorem nodup_ownParams {d : OperationDecl σ} (h : d.DistinctParams) (idParam : String) :
    ((d.ownParams idParam).map Parameter.name).Nodup := by
  rw [ownParams_eq, implied]
  split
  · rename_i himplied
    exact List.nodup_cons.2 ⟨himplied.2, h⟩
  · exact h

end OperationDecl

/-! ## Parameters of features -/

namespace Feature

/-- The feature extends the operation of a collection: the collection is its target, the host
enables it there, and its body names the operation, with parameters or without. -/
def Extends (hooks : Hooks σ) (collection operation : String) (f : Feature) : Prop :=
  f.target = collection ∧ hooks.enables collection f.name = true ∧ f.extends? operation = true

instance (hooks : Hooks σ) (collection operation : String) :
    DecidablePred (Extends hooks collection operation) := fun f =>
  inferInstanceAs (Decidable (f.target = collection ∧ hooks.enables collection f.name = true ∧
    f.extends? operation = true))

/-- The parameters that the body of the feature names for an operation. -/
def paramsFor (operation : String) (f : Feature) : List Parameter :=
  ((f.extension? operation).map Extension.params).getD []

end Feature

/-- The features of a registry that extend the operation of a collection. -/
def FeatureRegistry.extending (r : FeatureRegistry) (hooks : Hooks σ)
    (collection operation : String) : List Feature :=
  r.features.filter fun f => f.Extends hooks collection operation

/-- What features give to an operation of a collection, one feature after the other in the order
of their first declarations: all that those with the collection as their target add to it, if the
host enables them. -/
def FeatureRegistry.offered (calls : List FeatureCall) (hooks : Hooks σ)
    (collection operation : String) : List Parameter :=
  ((merged calls).filter fun call =>
      call.2.1 == collection && hooks.enables collection call.1).flatMap fun call =>
    call.2.2.flatMap (FeatureClause.paramsFor operation)

namespace OperationDecl

theorem withFeatures_eq_foldl_inject (own : List Parameter)
    (extensions : List (Feature × Extension)) :
    withFeatures own extensions =
      (extensions.flatMap fun e => e.2.params).foldl inject own := by
  rw [List.foldl_flatMap]
  rfl

theorem extensions_owner (ctx : CompileContext σ) (parent? : Option (CollectionNode σ))
    (head : CollectionHead σ) (operation : String) :
    (extensions (head.owner ctx parent?) ctx.hooks operation).map (fun e => (e.1, e.2.params)) =
      (ctx.features.extending ctx.hooks head.name operation).map
        fun f => (f, f.paramsFor operation) := by
  unfold extensions FeatureRegistry.extending
  have hfeatures : (head.owner ctx parent?).features =
      (ctx.features.features.filter fun f => f.target == head.name).filter
        fun f => ctx.hooks.enables head.name f.name := rfl
  have hname : (head.owner ctx parent?).name = head.name := rfl
  rw [hfeatures, hname]
  -- feature by feature: the host is asked twice, and an extension is there or not
  induction ctx.features.features with
  | nil =>
      rfl
  | cons f rest ih =>
      by_cases htarget : f.target = head.name <;>
        cases henabled : ctx.hooks.enables head.name f.name <;>
          cases hextension : f.extension? operation <;>
            simpa [Feature.Extends, Feature.extends?, Feature.paramsFor, htarget, henabled,
              hextension] using ih

theorem params_settled (ctx : CompileContext σ) (parent? : Option (CollectionNode σ))
    (head : CollectionHead σ) (d : OperationDecl σ) :
    (d.settled (head.owner ctx parent?) ctx.hooks).params =
      ((ctx.features.extending ctx.hooks head.name d.name).flatMap
        (Feature.paramsFor d.name)).foldl inject (d.ownParams head.idParam) := by
  have hoffered : (extensions (head.owner ctx parent?) ctx.hooks d.name).flatMap
      (fun e => e.2.params) =
        (ctx.features.extending ctx.hooks head.name d.name).flatMap (Feature.paramsFor d.name) := by
    have hparams := congrArg (List.flatMap Prod.snd) (extensions_owner ctx parent? head d.name)
    simpa only [List.flatMap_map] using hparams
  rw [← hoffered, ← withFeatures_eq_foldl_inject]
  rfl

theorem features_settled (ctx : CompileContext σ) (parent? : Option (CollectionNode σ))
    (head : CollectionHead σ) (d : OperationDecl σ) :
    (d.settled (head.owner ctx parent?) ctx.hooks).features =
      (ctx.features.extending ctx.hooks head.name d.name).map Feature.name := by
  have hnames := congrArg (List.map fun e => e.1.name) (extensions_owner ctx parent? head d.name)
  simp only [List.map_map, Function.comp_def] at hnames
  exact hnames

end OperationDecl

theorem FeatureRegistry.Records.flatMap_extending {r : FeatureRegistry} {calls : List FeatureCall}
    (h : r.Records calls) (hooks : Hooks σ) (collection operation : String) :
    (r.extending hooks collection operation).flatMap (Feature.paramsFor operation) =
      offered calls hooks collection operation := by
  have hgiven : ∀ call : FeatureCall,
      (made call).paramsFor operation = call.2.2.flatMap (FeatureClause.paramsFor operation) :=
    fun call => (Feature.gathers_ofBody call.1 call.2.1 call.2.2).params_extension? operation
  rw [extending, h.features, offered]
  -- a feature that does not extend the operation gives nothing
  induction merged calls with
  | nil =>
      rfl
  | cons call rest ih =>
      by_cases hextends : (made call).extends? operation = true
      · by_cases htarget : call.2.1 = collection <;>
          cases henabled : hooks.enables collection call.1 <;>
            simpa [Feature.Extends, name_made, target_made, htarget, henabled, hextends, hgiven]
              using ih
      · have hnone : (made call).extension? operation = none := by
          simpa [Feature.extends?] using hextends
        have hnothing : call.2.2.flatMap (FeatureClause.paramsFor operation) = [] := by
          rw [← hgiven, Feature.paramsFor, hnone]
          rfl
        cases hoffers : call.2.1 == collection && hooks.enables collection call.1 <;>
          simpa [Feature.Extends, hextends, hoffers, hnothing] using ih

/-! ## Refused inputs -/

/-- The error is about the parameter: it is missing, or its value is not one of those allowed. -/
inductive ValidationError.Blames (inputs : Inputs) (p : Parameter) : ValidationError → Prop
  | missing (habsent : p.lacks inputs = true) : Blames inputs p (.missing p.name inputs.keys)
  | notAllowed (value : String) (hvalue : p.offence? inputs = some value) :
      Blames inputs p (.notAllowed p.name value p.allowed)

theorem exists_blames_of_validate {inputs : Inputs} {params : List Parameter}
    {error : ValidationError} (h : validate inputs params = .error error) :
    ∃ p ∈ params, error.Blames inputs p := by
  cases validate_eq_error_iff.1 h with
  | missing hfirst => exact ⟨_, hfirst.mem, .missing hfirst.holds⟩
  | notAllowed _ hfirst hvalue => exact ⟨_, hfirst.mem, .notAllowed _ hvalue⟩

/-! ## Operations -/

/-- The operation asks for what a declaration of it and features say: first the identifier if that
is implied, then the declared parameters, and then what features offer under new names. No name is
asked for twice, so an error of validation is about the only parameter of its name. -/
structure Operation.Asks (o : Operation σ) (d : OperationDecl σ) (idParam : String)
    (offered : List Parameter) : Prop where
  name : o.name = d.name
  identifier : ∀ p ∈ d.implied idParam,
    p.name = idParam ∧ p.kind = .string ∧ p.required = true ∧ p.allowed = []
  params : o.params = d.implied idParam ++ d.params ++
    Parameter.newcomers ((d.implied idParam ++ d.params).map Parameter.name) offered
  distinct : (o.params.map Parameter.name).Nodup
  blamed : ∀ inputs error, validate inputs o.params = .error error →
    ∃ p ∈ o.params, error.Blames inputs p ∧ ∀ q ∈ o.params, q.name = p.name → q = p

theorem OperationDecl.asks_settled {ctx : CompileContext σ} {calls : List FeatureCall}
    (hrecords : ctx.features.Records calls) (parent? : Option (CollectionNode σ))
    (head : CollectionHead σ) {d : OperationDecl σ} (hdistinct : d.DistinctParams) :
    (d.settled (head.owner ctx parent?) ctx.hooks).Asks d head.idParam
      (FeatureRegistry.offered calls ctx.hooks head.name d.name) := by
  have hparams : (d.settled (head.owner ctx parent?) ctx.hooks).params =
      (FeatureRegistry.offered calls ctx.hooks head.name d.name).foldl inject
        (d.ownParams head.idParam) := by
    rw [params_settled, hrecords.flatMap_extending]
  have hnodup : ((d.settled (head.owner ctx parent?) ctx.hooks).params.map
      Parameter.name).Nodup := by
    rw [hparams]
    exact nodup_foldl_inject (nodup_ownParams hdistinct head.idParam) _
  refine ⟨rfl, ?_, ?_, hnodup, ?_⟩
  · intro p hp
    rw [eq_identifier_of_mem_implied hp]
    exact ⟨rfl, rfl, rfl, rfl⟩
  · rw [hparams, foldl_inject, ownParams_eq]
  · intro inputs error hrefused
    rcases exists_blames_of_validate hrefused with ⟨p, hp, hblames⟩
    exact ⟨p, hp, hblames, fun q hq hname => List.inj_on_of_nodup_map hnodup hq hp hname⟩

/-! ## Declared collections -/

namespace CollectionDecl

mutual

theorem heads_chains : ∀ (d : CollectionDecl σ) (parent? : Option (Chain σ)),
    (d.chains parent?).map Chain.head = d.walk.map head
  | ⟨first, children⟩, parent? => by
      have hfirst : (Chain.extend parent? first).head = first := by
        cases parent? <;> rfl
      rw [chains, walk, List.map_cons, List.map_cons, hfirst,
        heads_chainsAll children (some (Chain.extend parent? first))]

theorem heads_chainsAll : ∀ (ds : List (CollectionDecl σ)) (parent? : Option (Chain σ)),
    (chainsAll parent? ds).map Chain.head = (walkAll ds).map head
  | [], _ => by
      rw [chainsAll, walkAll, List.map_nil, List.map_nil]
  | d :: rest, parent? => by
      rw [chainsAll, walkAll, List.map_append, List.map_append, heads_chains d,
        heads_chainsAll rest]

end

end CollectionDecl

namespace ApiDecl

theorem distinctParams_of_mem_chains {name : String} {clauses : List (ApiClause σ)}
    (h : WellDeclared clauses) {chain : Chain σ} (hmem : chain ∈ (declared name clauses).chains)
    {d : OperationDecl σ} (hd : d ∈ chain.head.operations) : d.DistinctParams := by
  have hhead : chain.head ∈
      (CollectionDecl.walkAll (declared name clauses).collections).map CollectionDecl.head := by
    rw [← CollectionDecl.heads_chainsAll _ none]
    exact List.mem_map_of_mem hmem
  rcases List.mem_map.1 hhead with ⟨e, he, heq⟩
  rw [CollectionDecl.walkAll_eq_flatMap, List.mem_flatMap] at he
  rcases he with ⟨root, hroot, he⟩
  rcases List.mem_map.1 hroot with ⟨call, hcall, rfl⟩
  exact (h.collections call hcall e he).params d (heq ▸ hd)

theorem records_features (name : String) {clauses : List (ApiClause σ)}
    (h : WellDeclared clauses) :
    (declared name clauses).features.Records (clauses.filterMap ApiClause.featureCall?) := by
  have hafter := FeatureRegistry.records_after (clauses.filterMap ApiClause.featureCall?)
  rw [FeatureRegistry.accepted_of_featuresAccepted h.features,
    ← FeatureRegistry.foldl_declareOrKeep_eq_after] at hafter
  exact hafter

end ApiDecl

/-- The operations of a collection ask, in the order of their declaration, for what they and the
features of the calls say. -/
structure CollectionNode.Asks (node : CollectionNode σ) (head : CollectionHead σ)
    (calls : List FeatureCall) (hooks : Hooks σ) : Prop where
  name : node.name = head.name
  idParam : node.idParam = head.idParam
  operations : List.Forall₂ (fun d o =>
    o.Asks d node.idParam (FeatureRegistry.offered calls hooks node.name o.name))
      head.operations node.operations

theorem CollectionHead.asks_settled {ctx : CompileContext σ} {calls : List FeatureCall}
    (hrecords : ctx.features.Records calls) (parent? : Option (CollectionNode σ))
    {head : CollectionHead σ} (hdistinct : ∀ d ∈ head.operations, d.DistinctParams) :
    (head.settled ctx parent?).Asks head calls ctx.hooks := by
  refine ⟨rfl, rfl, ?_⟩
  rw [settled, node, List.forall₂_map_right_iff, List.forall₂_same]
  intro d hd
  exact OperationDecl.asks_settled hrecords parent? head (hdistinct d hd)

/-! ## Built applications -/

namespace Api

/-- What operations ask for. In a built application, collection by collection and operation by
operation, each asks for the identifier of its collection if it is named `show`, `destroy` or
`update` and declares no parameter of that name; then for what it declares; and then for what
enabled features of its collection offer to it, feature by feature in the order of their first
declarations, each parameter unless its name is there already. -/
theorem asks_of_build {name : String} {clauses : List (ApiClause σ)} {api : Api σ}
    (h : build name clauses = .ok api) :
    List.Forall₂ (fun chain c =>
      c.node.Asks chain.head (clauses.filterMap ApiClause.featureCall?) api.hooks)
      (ApiDecl.declared name clauses).chains (Collection.walkAll api.collections) := by
  rcases build_eq_ok_iff.1 h with ⟨⟨hdeclared, -, -⟩, rfl⟩
  have hrecords : (ApiDecl.declared name clauses).context.features.Records
      (clauses.filterMap ApiClause.featureCall?) := ApiDecl.records_features name hdeclared
  have hnodes : List.Forall₂ (fun (chain : Chain σ) node =>
      node.Asks chain.head (clauses.filterMap ApiClause.featureCall?)
        (ApiDecl.declared name clauses).hooks)
      (ApiDecl.declared name clauses).chains
      ((Collection.walkAll (ApiDecl.declared name clauses).tree).map Collection.node) := by
    -- a node is settled from the head of its chain, whatever its parent is
    rw [ApiDecl.nodes_tree, List.forall₂_map_right_iff, List.forall₂_same]
    intro chain hmem
    rcases chain.node_eq_settled (ApiDecl.declared name clauses).context with ⟨parent?, hnode⟩
    rw [hnode]
    exact CollectionHead.asks_settled hrecords parent?
      fun d hd => ApiDecl.distinctParams_of_mem_chains hdeclared hmem hd
  rw [List.forall₂_map_right_iff] at hnodes
  exact hnodes

/-- Pages with two features that both extend the operation that shows one. The second is declared
in two calls, and the third is not enabled. -/
def featuredPages : List (ApiClause Unit) :=
  [.feature "audit" "pages" [.operation "show" [.declare "id" .number [], .declare "by" .string []]],
   .feature "trace" "pages" [.operation "show" [.declare "span" .string []]],
   .feature "legacy" "pages" [.operation "show" [.declare "version" .number []]],
   .feature "trace" "" [.operation "show" [.declare "by" .number [], .declare "span" .number []],
     .operation "recent" [.declare "span" .string []]],
   .featureCheck fun _ feature => feature != "legacy",
   .collection "pages" [.operation "show" [.param (.declare "lang" .string [])],
     .operation "recent" [.collectionLevel]]]

theorem asks_featuredPages :
    ∃ api : Api Unit, build "site" featuredPages = .ok api ∧
      List.Forall₂ (fun chain c =>
        c.node.Asks chain.head (featuredPages.filterMap ApiClause.featureCall?) api.hooks)
        (ApiDecl.declared "site" featuredPages).chains (Collection.walkAll api.collections) ∧
      (Collection.walkAll api.collections).map (fun c => c.node.operations.map fun o =>
        (o.name, o.params.map fun p => (p.name, p.kind, p.required))) =
          [[("show", [("id", .string, true), ("lang", .string, false), ("by", .string, false),
              ("span", .string, false)]),
            ("recent", [("span", .string, false)])]] := by
  have hbuild : ∃ api : Api Unit, build "site" featuredPages = .ok api :=
    isOk_iff_exists.1 (by decide +kernel)
  rcases hbuild with ⟨api, h⟩
  refine ⟨api, h, asks_of_build h, ?_⟩
  rw [(build_eq_ok_iff.1 h).2]
  decide +kernel

end Api
end ResourceRouting
