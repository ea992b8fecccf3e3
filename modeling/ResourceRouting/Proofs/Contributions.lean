import ResourceRouting.Proofs.Parameters

/-!
# Contributions — whose parameters an operation has

Several features may offer an operation a parameter of one name, and the operation may have one of
that name itself. Only the first of them all is asked for. The operation lists the features that
extend it, and so also one of which nothing is asked for.

* `Parameter.mem_newcomers_iff`: of what is offered, the first of each name is taken.
* `Operation.Injects`: the feature that a parameter of an operation comes from.
* `OperationDecl.credits_settled`: which features an operation lists, and which of them it asks for.
* `Api.credits_of_build`: both for every operation of a built application.
-/

namespace ResourceRouting

variable {σ : Type}

/-! ## Offers -/

theorem Parameter.mem_newcomers_iff {taken : List String} {offered : List Parameter}
    {p : Parameter} :
    p ∈ newcomers taken offered ↔
      p.name ∉ taken ∧ IsFirst (fun q => q.name = p.name) offered p := by
  -- by what is offered: a name that is taken in the meantime is not that of a later newcomer
  induction offered generalizing taken with
  | nil =>
      simp [newcomers, not_isFirst_nil]
  | cons q rest ih =>
      rw [isFirst_cons_iff, newcomers]
      split
      · rename_i htaken
        rw [ih]
        refine and_congr_right fun hfresh => ?_
        have hother : ¬ q.name = p.name := fun hname => hfresh (hname ▸ htaken)
        simp [hother]
      · rename_i hnew
        rw [List.mem_cons, ih, List.mem_append, List.mem_singleton, not_or]
        constructor
        · rintro (rfl | ⟨⟨hfresh, hname⟩, hfirst⟩)
          · exact ⟨hnew, Or.inl ⟨rfl, rfl⟩⟩
          · exact ⟨hfresh, Or.inr ⟨Ne.symm hname, hfirst⟩⟩
        · rintro ⟨hfresh, ⟨-, rfl⟩ | ⟨hname, hfirst⟩⟩
          · exact Or.inl rfl
          · exact Or.inr ⟨⟨hfresh, Ne.symm hname⟩, hfirst⟩

/-- The feature offers the operation a parameter of the name. -/
def Feature.Offers (hooks : Hooks σ) (collection operation name : String) (f : Feature) : Prop :=
  f.Extends hooks collection operation ∧ ∃ p ∈ f.paramsFor operation, p.name = name

/-! ## Whose parameters -/

namespace Operation

/-- The parameter comes from the feature: the operation has none of that name itself, the feature
is the first to offer one, and the parameter is the first of its name that it offers. -/
def Injects (o : Operation σ) (own : List Parameter) (r : FeatureRegistry) (hooks : Hooks σ)
    (f : Feature) (p : Parameter) : Prop :=
  p.name ∉ own.map Parameter.name ∧
    IsFirst (Feature.Offers hooks o.collection o.name p.name) r.features f ∧
    IsFirst (fun q => q.name = p.name) (f.paramsFor o.name) p

/-- A parameter of the name is not asked for on behalf of the feature: the operation has one itself,
or another feature is the first to offer one. -/
def Shadows (o : Operation σ) (own : List Parameter) (r : FeatureRegistry) (hooks : Hooks σ)
    (f : Feature) (name : String) : Prop :=
  name ∈ own.map Parameter.name ∨
    ∃ g, g ≠ f ∧ IsFirst (Feature.Offers hooks o.collection o.name name) r.features g

/-- The operation asks for its own parameters and those of features, and lists every feature that
extends it, in the order of the registry: all that a parameter comes from, and besides those of
which all parameters are shadowed, or that name none. -/
structure Credits (o : Operation σ) (own : List Parameter) (r : FeatureRegistry)
    (hooks : Hooks σ) : Prop where
  params : ∀ p, p ∈ o.params ↔ p ∈ own ∨ ∃ f, o.Injects own r hooks f p
  features : o.features = (r.extending hooks o.collection o.name).map Feature.name
  distinct : o.features.Nodup
  listed_iff : ∀ f ∈ r.features, f.name ∈ o.features ↔ f.Extends hooks o.collection o.name
  credited : ∀ f p, o.Injects own r hooks f p → f ∈ r.features ∧ f.name ∈ o.features
  idle_iff : ∀ f ∈ r.features,
    (f.name ∈ o.features ∧ ¬ ∃ p ∈ o.params, o.Injects own r hooks f p) ↔
      f.Extends hooks o.collection o.name ∧
        ∀ p ∈ f.paramsFor o.name, o.Shadows own r hooks f p.name

variable {o : Operation σ} {own : List Parameter} {r : FeatureRegistry} {hooks : Hooks σ}

theorem mem_newcomers_extending_iff {p : Parameter} :
    p ∈ Parameter.newcomers (own.map Parameter.name)
        ((r.extending hooks o.collection o.name).flatMap (Feature.paramsFor o.name)) ↔
      ∃ f, o.Injects own r hooks f p := by
  rw [Parameter.mem_newcomers_iff, isFirst_flatMap_iff, FeatureRegistry.extending]
  simp only [isFirst_filter_iff, decide_eq_true_eq, Injects, exists_and_left]
  rfl

/-- A feature that extends the operation has a parameter there unless all are shadowed. -/
theorem exists_injects_iff {f : Feature} (hf : f ∈ r.features)
    (hextends : f.Extends hooks o.collection o.name) :
    (∃ p, o.Injects own r hooks f p) ↔
      ∃ p ∈ f.paramsFor o.name, ¬ o.Shadows own r hooks f p.name := by
  constructor
  · rintro ⟨p, hfresh, hoffers, hfirst⟩
    refine ⟨p, hfirst.mem, ?_⟩
    rintro (hown | ⟨g, hother, hg⟩)
    · exact hfresh hown
    · exact hother (hg.unique hoffers)
  · rintro ⟨q, hq, hshadows⟩
    rw [Shadows, not_or] at hshadows
    -- some feature is the first to offer the name, and only this one may be it
    have hsome : ∃ g, IsFirst (Feature.Offers hooks o.collection o.name q.name) r.features g :=
      exists_isFirst ⟨f, hf, hextends, q, hq, rfl⟩
    rcases hsome with ⟨g, hg⟩
    have hgf : g = f := by
      by_contra hother
      exact hshadows.2 ⟨g, hother, hg⟩
    rcases exists_isFirst (P := fun p : Parameter => p.name = q.name) ⟨q, hq, rfl⟩ with ⟨p, hp⟩
    have hname : p.name = q.name := hp.holds
    refine ⟨p, ?_, ?_, ?_⟩
    · rw [hname]
      exact hshadows.1
    · rw [hname]
      exact hgf ▸ hg
    · rw [hname]
      exact hp

/-- All of it follows from the list of parameters and that of features. -/
theorem Credits.of_lists (hnames : r.names.Nodup)
    (hparams : o.params = own ++ Parameter.newcomers (own.map Parameter.name)
      ((r.extending hooks o.collection o.name).flatMap (Feature.paramsFor o.name)))
    (hfeatures : o.features = (r.extending hooks o.collection o.name).map Feature.name) :
    o.Credits own r hooks := by
  have hmem : ∀ p, p ∈ o.params ↔ p ∈ own ∨ ∃ f, o.Injects own r hooks f p := by
    intro p
    rw [hparams, List.mem_append, mem_newcomers_extending_iff]
  have hlisted : ∀ f ∈ r.features,
      f.name ∈ o.features ↔ f.Extends hooks o.collection o.name := by
    intro f hf
    rw [hfeatures, List.mem_map]
    constructor
    · rintro ⟨g, hg, hname⟩
      rw [FeatureRegistry.extending, List.mem_filter] at hg
      rw [← List.inj_on_of_nodup_map hnames hg.1 hf hname]
      exact of_decide_eq_true hg.2
    · intro hextends
      exact ⟨f, List.mem_filter.2 ⟨hf, decide_eq_true hextends⟩, rfl⟩
  refine ⟨hmem, hfeatures, ?_, hlisted, ?_, ?_⟩
  · rw [hfeatures]
    exact hnames.sublist (List.filter_sublist.map Feature.name)
  · rintro f p ⟨-, hoffers, -⟩
    exact ⟨hoffers.mem, (hlisted f hoffers.mem).2 hoffers.holds.1⟩
  · intro f hf
    rw [hlisted f hf]
    refine and_congr_right fun hextends => ?_
    have hasked : (∃ p ∈ o.params, o.Injects own r hooks f p) ↔
        ∃ p, o.Injects own r hooks f p := by
      constructor
      · rintro ⟨p, _, hp⟩
        exact ⟨p, hp⟩
      · rintro ⟨p, hp⟩
        exact ⟨p, (hmem p).2 (Or.inr ⟨f, hp⟩), hp⟩
    rw [hasked, exists_injects_iff hf hextends]
    simp only [not_exists, not_and, not_not]

end Operation

theorem OperationDecl.credits_settled {ctx : CompileContext σ} (hnames : ctx.features.names.Nodup)
    (parent? : Option (CollectionNode σ)) (head : CollectionHead σ) (d : OperationDecl σ) :
    (d.settled (head.owner ctx parent?) ctx.hooks).Credits (d.ownParams head.idParam)
      ctx.features ctx.hooks := by
  refine Operation.Credits.of_lists hnames ?_ (features_settled ctx parent? head d)
  rw [params_settled, foldl_inject]
  rfl

/-- The operations of a collection, in the order of their declaration, list features of the
registry; what they ask for without any is told by their declaration. -/
def CollectionNode.Credits (node : CollectionNode σ) (head : CollectionHead σ)
    (r : FeatureRegistry) (hooks : Hooks σ) : Prop :=
  List.Forall₂ (fun d o => o.collection = node.name ∧ o.name = d.name ∧
    o.Credits (d.ownParams node.idParam) r hooks) head.operations node.operations

theorem CollectionHead.credits_settled {ctx : CompileContext σ}
    (hnames : ctx.features.names.Nodup) (parent? : Option (CollectionNode σ))
    (head : CollectionHead σ) :
    (head.settled ctx parent?).Credits head ctx.features ctx.hooks := by
  rw [CollectionNode.Credits, settled, node, List.forall₂_map_right_iff, List.forall₂_same]
  intro d _
  exact ⟨rfl, rfl, OperationDecl.credits_settled hnames parent? head d⟩

/-! ## Built applications -/

namespace Api

/-- Which features the operations list. In a built application, collection by collection and
operation by operation, each lists the enabled features of its collection that extend it, each
once. What it asks for besides its own parameters comes from one of these, but not each of them
need have a parameter there: those have none whose parameters are all shadowed. -/
theorem credits_of_build {name : String} {clauses : List (ApiClause σ)} {api : Api σ}
    (h : build name clauses = .ok api) :
    List.Forall₂ (fun chain c => c.node.Credits chain.head api.features api.hooks)
      (ApiDecl.declared name clauses).chains (Collection.walkAll api.collections) := by
  rcases build_eq_ok_iff.1 h with ⟨⟨hdeclared, -, -⟩, rfl⟩
  have hnames : (ApiDecl.declared name clauses).context.features.names.Nodup :=
    (ApiDecl.records_features name hdeclared).nodup
  refine ApiDecl.forall₂_chains_iff (R := fun chain node => node.Credits chain.head
    (ApiDecl.declared name clauses).features (ApiDecl.declared name clauses).hooks).2 ?_
  intro chain _
  rcases chain.node_eq_settled (ApiDecl.declared name clauses).context with ⟨parent?, hnode⟩
  rw [hnode]
  exact CollectionHead.credits_settled hnames parent? chain.head

/-- Pages that three features extend: one with a parameter of its own, one with a parameter of the
same name, and one without any. -/
def creditedPages : List (ApiClause Unit) :=
  [.feature "trace" "pages" [.operation "show" [.declare "span" .string []]],
   .feature "legacy" "pages" [.operation "show" [.declare "span" .number []]],
   .feature "marker" "pages" [.operation "show" []],
   .collection "pages" [.operation "show" []]]

theorem credits_creditedPages :
    ∃ api : Api Unit, build "site" creditedPages = .ok api ∧
      List.Forall₂ (fun chain c => c.node.Credits chain.head api.features api.hooks)
        (ApiDecl.declared "site" creditedPages).chains (Collection.walkAll api.collections) ∧
      (Collection.walkAll api.collections).map (fun c => c.node.operations.map fun o =>
        (o.params.map fun p => (p.name, p.kind), o.features)) =
          [[([("id", .string), ("span", .string)], ["trace", "legacy", "marker"])]] := by
  have hbuild : ∃ api : Api Unit, build "site" creditedPages = .ok api :=
    isOk_iff_exists.1 (by decide +kernel)
  rcases hbuild with ⟨api, h⟩
  refine ⟨api, h, credits_of_build h, ?_⟩
  rw [(build_eq_ok_iff.1 h).2]
  decide +kernel

/-- Pages with a feature whose only parameter is the identifier. -/
def audited : List (ApiClause Unit) :=
  [.feature "audit" "pages" [.operation "show" [.declare "id" .string []]],
   .collection "pages" [.operation "show" []]]

/-- The feature is listed by the operation that shows a page, and has no parameter there. -/
theorem listed_audited :
    ∃ api : Api Unit, build "site" audited = .ok api ∧
      ∃ c ∈ Collection.walkAll api.collections, ∃ o ∈ c.node.operations,
        ∃ f ∈ api.features.features, f.name ∈ o.features ∧
          let own := (.operation "show" [] : OperationDecl Unit).ownParams c.node.idParam
          o.params = own ∧ ¬ ∃ p ∈ o.params, o.Injects own api.features api.hooks f p := by
  have hbuild : ∃ api : Api Unit, build "site" audited = .ok api :=
    isOk_iff_exists.1 (by decide +kernel)
  rcases hbuild with ⟨api, h⟩
  have hlists : ∃ c ∈ Collection.walkAll api.collections, ∃ o ∈ c.node.operations,
      ∃ f ∈ api.features.features, f.name ∈ o.features ∧
        o.params = (.operation "show" [] : OperationDecl Unit).ownParams c.node.idParam := by
    rw [(build_eq_ok_iff.1 h).2]
    decide +kernel
  rcases hlists with ⟨c, hc, o, ho, f, hf, hlisted, hparams⟩
  refine ⟨api, h, c, hc, o, ho, f, hf, hlisted, hparams, ?_⟩
  rintro ⟨p, hp, hfresh, -⟩
  exact hfresh (List.mem_map_of_mem (hparams ▸ hp))

end Api
end ResourceRouting
