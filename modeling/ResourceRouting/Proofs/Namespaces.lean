import ResourceRouting.Proofs.Publication

/-!
# Namespaces — published names that carry the name of their application

With namespaces on, a collection is published under the name of its application, two colons and its
own name. Neither of the names is kept from having colons itself, so one published name may be read
in several ways, and then collections of different applications get in each other's way.

* `Api.registryKey_eq_iff`: two published names are one exactly if it can be read in both ways.
* `Api.exists_registryKey_eq_iff`: what the names of two applications are like if that can happen.
* `Registry.publishAll_isOk_iff`: applications that can be published one after the other.
* `Registry.publishAll_namespaced`: all of this for applications with namespaces.
-/

namespace ResourceRouting

variable {σ : Type}

/-! ## Readings of a published name -/

namespace Api

/-- Two readings of one published name, the second with more of it in the name of the application:
one colon more, or all up to two colons that the first has in the name of the collection. -/
inductive CutsLater (app collection app' collection' : String) : Prop
  | oneColon (happ : app' = app ++ ":") (hcollection : collection = ":" ++ collection')
  | further (between : String) (happ : app' = app ++ "::" ++ between)
      (hcollection : collection = between ++ "::" ++ collection')

theorem CutsLater.key_eq {app collection app' collection' : String}
    (h : CutsLater app collection app' collection') :
    app ++ "::" ++ collection = app' ++ "::" ++ collection' := by
  cases h with
  | oneColon happ hcollection =>
      rw [happ, hcollection]
      apply String.toList_inj.1
      simp
  | further between happ hcollection =>
      rw [happ, hcollection]
      simp only [String.append_assoc]

/-- What the second name of an application has in addition is part of what the first reading has
behind its name. -/
theorem eq_or_cutsLater {app collection app' collection' : String} {more : List Char}
    (happ : app'.toList = app.toList ++ more)
    (hrest : ':' :: ':' :: collection.toList = more ++ ':' :: ':' :: collection'.toList) :
    (app = app' ∧ collection = collection') ∨ CutsLater app collection app' collection' := by
  match more with
  | [] =>
      refine Or.inl ⟨String.toList_inj.1 ?_, String.toList_inj.1 ?_⟩
      · simpa using happ.symm
      · simpa using hrest
  | [first] =>
      simp only [List.cons_append, List.nil_append, List.cons.injEq, true_and] at hrest
      rcases hrest with ⟨rfl, hcollection⟩
      refine Or.inr (.oneColon (String.toList_inj.1 ?_) (String.toList_inj.1 ?_))
      · simpa using happ
      · simpa using hcollection
  | first :: second :: between =>
      simp only [List.cons_append, List.cons.injEq] at hrest
      rcases hrest with ⟨rfl, rfl, hcollection⟩
      refine Or.inr (.further (String.ofList between) (String.toList_inj.1 ?_)
        (String.toList_inj.1 ?_))
      · simpa using happ
      · simpa using hcollection

theorem key_eq_iff {app collection app' collection' : String} :
    app ++ "::" ++ collection = app' ++ "::" ++ collection' ↔
      (app = app' ∧ collection = collection') ∨ CutsLater app collection app' collection' ∨
        CutsLater app' collection' app collection := by
  constructor
  · intro h
    have hlist : app.toList ++ ':' :: ':' :: collection.toList =
        app'.toList ++ ':' :: ':' :: collection'.toList := by
      simpa using congrArg String.toList h
    -- one of the two names of applications goes on where the other ends
    rcases List.append_eq_append_iff.1 hlist with ⟨more, happ, hrest⟩ | ⟨more, happ, hrest⟩
    · rcases eq_or_cutsLater happ hrest with heq | hcuts
      · exact Or.inl heq
      · exact Or.inr (Or.inl hcuts)
    · rcases eq_or_cutsLater happ hrest with ⟨happ', hcollection⟩ | hcuts
      · exact Or.inl ⟨happ'.symm, hcollection.symm⟩
      · exact Or.inr (Or.inr hcuts)
  · rintro (⟨rfl, rfl⟩ | hcuts | hcuts)
    · rfl
    · exact hcuts.key_eq
    · exact hcuts.key_eq.symm

theorem registryKey_eq_iff {a b : Api σ} (ha : a.routing.namespacing = true)
    (hb : b.routing.namespacing = true) {collection collection' : String} :
    a.registryKey collection = b.registryKey collection' ↔
      (a.name = b.name ∧ collection = collection') ∨
        CutsLater a.name collection b.name collection' ∨
          CutsLater b.name collection' a.name collection := by
  rw [registryKey, registryKey, if_pos ha, if_pos hb, key_eq_iff]

/-- Collections of one name get in each other's way only within one application. -/
theorem not_cutsLater_self {app app' collection : String} :
    ¬ CutsLater app collection app' collection := by
  intro h
  -- the second collection is shorter than the first
  cases h with
  | oneColon _ hcollection =>
      have hlength := congrArg String.length hcollection
      simp at hlength
  | further between _ hcollection =>
      have hlength := congrArg String.length hcollection
      simp at hlength

/-! ## Names of applications -/

/-- The second name is the first one with a colon behind it, or with two colons and whatever
follows them. -/
def RunsInto (app app' : String) : Prop :=
  app' = app ++ ":" ∨ ∃ rest, app' = app ++ "::" ++ rest

instance (app app' : String) : Decidable (RunsInto app app') :=
  decidable_of_iff (app' = app ++ ":" ∨ Text.beginsWith (app ++ "::") app' = true)
    (by rw [RunsInto, Text.beginsWith_iff])

theorem exists_cutsLater_iff {app app' : String} :
    (∃ collection collection', CutsLater app collection app' collection') ↔
      RunsInto app app' := by
  constructor
  · rintro ⟨_, _, hcuts⟩
    cases hcuts with
    | oneColon happ _ => exact Or.inl happ
    | further between happ _ => exact Or.inr ⟨between, happ⟩
  · rintro (happ | ⟨between, happ⟩)
    · exact ⟨":", "", .oneColon happ rfl⟩
    · exact ⟨between ++ "::", "", .further between happ (by simp)⟩

/-- Applications of different names can publish collections under one name exactly if one of the
names runs into the other. -/
theorem exists_registryKey_eq_iff {a b : Api σ} (ha : a.routing.namespacing = true)
    (hb : b.routing.namespacing = true) (hnames : a.name ≠ b.name) :
    (∃ collection collection', a.registryKey collection = b.registryKey collection') ↔
      RunsInto a.name b.name ∨ RunsInto b.name a.name := by
  simp only [registryKey_eq_iff ha hb, hnames, false_and, false_or, exists_or,
    ← exists_cutsLater_iff]
  rw [exists_comm (p := fun collection collection' =>
    CutsLater b.name collection' a.name collection)]

theorem disjoint_publishedNames_iff {a b : Api σ} :
    List.Disjoint a.publishedNames b.publishedNames ↔
      ∀ c ∈ a.collections, ∀ d ∈ b.collections, a.registryKey c.name ≠ b.registryKey d.name := by
  constructor
  · intro hdisjoint c hc d hd heq
    have hname : a.registryKey c.name ∈ a.publishedNames := List.mem_map.2 ⟨c, hc, rfl⟩
    exact hdisjoint hname (List.mem_map.2 ⟨d, hd, heq.symm⟩)
  · intro hne name hname hname'
    rcases List.mem_map.1 hname with ⟨c, hc, rfl⟩
    rcases List.mem_map.1 hname' with ⟨d, hd, heq⟩
    exact hne c hc d hd heq.symm

end Api

/-! ## Publications one after the other -/

namespace Registry

/-- Publishes applications one after the other, up to the first that is refused. -/
def publishAll (r : Registry σ) (apis : List (Api σ)) : Except Fault (Registry σ) :=
  apis.foldlM publish r

namespace Session

variable {s : Session σ} {api : Api σ} {apis : List (Api σ)}

theorem Accounts.publish (h : s.Accounts) (hdistinct : api.publishedNames.Nodup)
    {r : Registry σ} (hpublish : s.registry.publish api = .ok r) :
    Accounts ⟨r, s.published ++ [api]⟩ := by
  have hsettles := settles_answer hdistinct s.registry
  rw [answer_publish, hpublish] at hsettles
  exact h.published hsettles

/-- A publication is accepted if none of its names has been published before. -/
theorem Accounts.exists_publish (h : s.Accounts) (hdistinct : api.publishedNames.Nodup)
    (hfresh : ∀ other ∈ s.published, List.Disjoint other.publishedNames api.publishedNames) :
    ∃ r, s.registry.publish api = .ok r := by
  cases hpublish : s.registry.publish api with
  | ok r =>
      exact ⟨r, rfl⟩
  | error fault =>
      have hsettles := settles_answer hdistinct s.registry
      rw [answer_publish, hpublish] at hsettles
      rcases hsettles.refused_iff.1 ⟨fault, rfl⟩ with ⟨name, hname, htaken⟩
      rcases h.isSome_lookup?_iff.1 htaken with ⟨other, hother, hname'⟩
      exact absurd hname (hfresh other hother hname')

theorem Accounts.publishAll (h : s.Accounts) (hdistinct : ∀ api ∈ apis, api.publishedNames.Nodup)
    {r : Registry σ} (hpublish : s.registry.publishAll apis = .ok r) :
    Accounts ⟨r, s.published ++ apis⟩ := by
  induction apis generalizing s with
  | nil =>
      cases hpublish
      simpa using h
  | cons api rest ih =>
      rw [List.forall_mem_cons] at hdistinct
      rw [Registry.publishAll, List.foldlM_cons, bind_eq_ok_iff] at hpublish
      rcases hpublish with ⟨next, hnext, hrest⟩
      have hall := ih (h.publish hdistinct.1 hnext) hdistinct.2 hrest
      simpa using hall

theorem Accounts.exists_publishAll (h : s.Accounts)
    (hdistinct : ((s.published ++ apis).flatMap Api.publishedNames).Nodup) :
    ∃ r, s.registry.publishAll apis = .ok r := by
  -- by the applications: what is published next has none of the names of those before
  induction apis generalizing s with
  | nil =>
      exact ⟨s.registry, rfl⟩
  | cons api rest ih =>
      rcases List.nodup_flatMap.1 hdistinct with ⟨hnames, hpairs⟩
      have hnames : api.publishedNames.Nodup := hnames api (by simp)
      have hfresh : ∀ other ∈ s.published,
          List.Disjoint other.publishedNames api.publishedNames :=
        fun other hother => (List.pairwise_append.1 hpairs).2.2 other hother api (by simp)
      rcases h.exists_publish hnames hfresh with ⟨next, hnext⟩
      rcases ih (h.publish hnames hnext) (by simpa using hdistinct) with ⟨r, hrest⟩
      refine ⟨r, ?_⟩
      rw [Registry.publishAll, List.foldlM_cons, bind_eq_ok_iff]
      exact ⟨next, hnext, hrest⟩

end Session

/-- Into a new registry applications can be published one after the other exactly if no two of them
publish a collection under one name. -/
theorem publishAll_isOk_iff {apis : List (Api σ)}
    (hdistinct : ∀ api ∈ apis, api.publishedNames.Nodup) :
    (∃ r, empty.publishAll apis = .ok r) ↔
      apis.Pairwise fun a b => ∀ c ∈ a.collections, ∀ d ∈ b.collections,
        a.registryKey c.name ≠ b.registryKey d.name := by
  have hpairs : (apis.flatMap Api.publishedNames).Nodup ↔
      apis.Pairwise fun a b => ∀ c ∈ a.collections, ∀ d ∈ b.collections,
        a.registryKey c.name ≠ b.registryKey d.name := by
    rw [List.nodup_flatMap, and_iff_right hdistinct]
    exact List.Pairwise.iff fun a b => Api.disjoint_publishedNames_iff
  rw [← hpairs]
  constructor
  · rintro ⟨r, hpublish⟩
    exact (Session.accounts_empty.publishAll hdistinct hpublish).distinct
  · intro hnodup
    exact Session.accounts_empty.exists_publishAll hnodup

/-- How the published names of two applications with namespaces are told apart. They are one exactly
if application and collection are, or if one of the two cuts the name later than the other. So
collections of one name need applications of one name, and two applications of different names can
clash exactly if one name runs into the other. -/
structure Separates (a b : Api σ) : Prop where
  key_eq_iff : ∀ collection collection',
    a.registryKey collection = b.registryKey collection' ↔
      (a.name = b.name ∧ collection = collection') ∨
        Api.CutsLater a.name collection b.name collection' ∨
          Api.CutsLater b.name collection' a.name collection
  same_collection : ∀ collection,
    a.registryKey collection = b.registryKey collection ↔ a.name = b.name
  clash_iff : a.name ≠ b.name →
    ((∃ collection collection', a.registryKey collection = b.registryKey collection') ↔
      Api.RunsInto a.name b.name ∨ Api.RunsInto b.name a.name)

theorem separates {a b : Api σ} (ha : a.routing.namespacing = true)
    (hb : b.routing.namespacing = true) : Separates a b where
  key_eq_iff _ _ := Api.registryKey_eq_iff ha hb
  same_collection collection := by
    simp only [Api.registryKey_eq_iff ha hb, Api.not_cutsLater_self, and_true, or_false]
  clash_iff hnames := Api.exists_registryKey_eq_iff ha hb hnames

/-- Applications whose names do not run into each other have no published name in common. -/
theorem Separates.registryKey_ne {a b : Api σ} (h : Separates a b) (hnames : a.name ≠ b.name)
    (hab : ¬ Api.RunsInto a.name b.name) (hba : ¬ Api.RunsInto b.name a.name)
    (collection collection' : String) : a.registryKey collection ≠ b.registryKey collection' := by
  intro hkey
  rcases (h.clash_iff hnames).1 ⟨collection, collection', hkey⟩ with hinto | hinto
  · exact hab hinto
  · exact hba hinto

/-- With namespaces on, published names are told apart up to the colons at the seam of their two
parts. Applications can be published into one registry exactly if no two of them have a published
name in common, which different names that do not run into each other make sure of, whatever the
collections are called; and then every collection is found under its published name. -/
theorem publishAll_namespaced :
    (∀ a b : Api σ, a.routing.namespacing = true → b.routing.namespacing = true →
      Separates a b) ∧
    ∀ apis : List (Api σ), (∀ api ∈ apis, api.routing.namespacing = true ∧
        ∃ name clauses, Api.build name clauses = .ok api) →
      ((∃ r, empty.publishAll apis = .ok r) ↔
        apis.Pairwise fun a b => ∀ c ∈ a.collections, ∀ d ∈ b.collections,
          a.registryKey c.name ≠ b.registryKey d.name) ∧
      ((apis.Pairwise fun a b => a.name ≠ b.name ∧
          ¬ Api.RunsInto a.name b.name ∧ ¬ Api.RunsInto b.name a.name) →
        ∃ r, empty.publishAll apis = .ok r ∧ ∀ name c, r.lookup? name = some c ↔
          ∃ api ∈ apis, c ∈ api.collections ∧ api.registryKey c.name = name) := by
  refine ⟨fun a b => separates, fun apis hbuilt => ?_⟩
  have hdistinct : ∀ api ∈ apis, api.publishedNames.Nodup := by
    intro api hapi
    rcases (hbuilt api hapi).2 with ⟨name, clauses, hbuild⟩
    exact Api.nodup_publishedNames_of_build hbuild
  refine ⟨publishAll_isOk_iff hdistinct, fun hnames => ?_⟩
  have hkeys : apis.Pairwise fun a b => ∀ c ∈ a.collections, ∀ d ∈ b.collections,
      a.registryKey c.name ≠ b.registryKey d.name := by
    refine hnames.imp_of_mem fun {a b} ha hb hpair c _ d _ => ?_
    rcases hpair with ⟨hname, hab, hba⟩
    exact (separates (hbuilt a ha).1 (hbuilt b hb).1).registryKey_ne hname hab hba c.name d.name
  rcases (publishAll_isOk_iff hdistinct).2 hkeys with ⟨r, hpublish⟩
  exact ⟨r, hpublish, (Session.accounts_empty.publishAll hdistinct hpublish).lookup⟩

end Registry

/-! ## Shops -/

namespace Api

/-- An application with namespaces and one collection. -/
def stocked (collection : String) : List (ApiClause Unit) :=
  [.routing { namespacing := true }, .collection collection []]

end Api

namespace Registry

/-- Two shops, one of them with a colon in its name: both have orders, those of the second also
under a name with colons. -/
theorem publishAll_shops :
    ∃ shop outlet : Api Unit, Api.build "shop" (Api.stocked "orders") = .ok shop ∧
      Api.build "shop:eu" (Api.stocked "eu::orders") = .ok outlet ∧ Separates shop outlet ∧
      ∃ r, empty.publishAll [shop, outlet] = .ok r ∧ ∀ name c, r.lookup? name = some c ↔
        ∃ api ∈ [shop, outlet], c ∈ api.collections ∧ api.registryKey c.name = name := by
  rcases isOk_iff_exists.1
    (by decide +kernel : (Api.build "shop" (Api.stocked "orders")).isOk = true) with ⟨shop, hshop⟩
  rcases isOk_iff_exists.1
    (by decide +kernel : (Api.build "shop:eu" (Api.stocked "eu::orders")).isOk = true) with
    ⟨outlet, houtlet⟩
  have hnamespaces : shop.routing.namespacing = true ∧ outlet.routing.namespacing = true := by
    rw [(Api.build_eq_ok_iff.1 hshop).2, (Api.build_eq_ok_iff.1 houtlet).2]
    decide +kernel
  have hnames : shop.name = "shop" ∧ outlet.name = "shop:eu" := by
    rw [(Api.build_eq_ok_iff.1 hshop).2, (Api.build_eq_ok_iff.1 houtlet).2]
    decide +kernel
  have hbuilt : ∀ api ∈ [shop, outlet], api.routing.namespacing = true ∧
      ∃ name clauses, Api.build name clauses = .ok api := by
    intro api hapi
    have hone : api = shop ∨ api = outlet := by
      simpa using hapi
    rcases hone with rfl | rfl
    · exact ⟨hnamespaces.1, "shop", Api.stocked "orders", hshop⟩
    · exact ⟨hnamespaces.2, "shop:eu", Api.stocked "eu::orders", houtlet⟩
  rcases @publishAll_namespaced Unit with ⟨hseparates, hpublish⟩
  refine ⟨shop, outlet, hshop, houtlet, hseparates shop outlet hnamespaces.1 hnamespaces.2, ?_⟩
  refine (hpublish [shop, outlet] hbuilt).2 ?_
  simp only [List.pairwise_pair, hnames]
  decide

/-- The orders of the shop for the EU and the EU orders of the shop: one published name, and the
second of the two applications is refused. -/
theorem publishAll_shops_refused :
    ∃ shop outlet : Api Unit, Api.build "shop" (Api.stocked "eu::orders") = .ok shop ∧
      Api.build "shop::eu" (Api.stocked "orders") = .ok outlet ∧
      (shop.routing.namespacing = true ∧ outlet.routing.namespacing = true) ∧
      shop.name ≠ outlet.name ∧
      shop.registryKey "eu::orders" = outlet.registryKey "orders" ∧
      ¬ ∃ r, empty.publishAll [shop, outlet] = .ok r := by
  rcases isOk_iff_exists.1
    (by decide +kernel : (Api.build "shop" (Api.stocked "eu::orders")).isOk = true) with
    ⟨shop, hshop⟩
  rcases isOk_iff_exists.1
    (by decide +kernel : (Api.build "shop::eu" (Api.stocked "orders")).isOk = true) with
    ⟨outlet, houtlet⟩
  have hseam : (shop.routing.namespacing = true ∧ outlet.routing.namespacing = true) ∧
      shop.name ≠ outlet.name ∧
      shop.registryKey "eu::orders" = outlet.registryKey "orders" := by
    rw [(Api.build_eq_ok_iff.1 hshop).2, (Api.build_eq_ok_iff.1 houtlet).2]
    decide +kernel
  have hnames : shop.publishedNames = ["shop::eu::orders"] ∧
      outlet.publishedNames = ["shop::eu::orders"] := by
    rw [(Api.build_eq_ok_iff.1 hshop).2, (Api.build_eq_ok_iff.1 houtlet).2]
    decide +kernel
  refine ⟨shop, outlet, hshop, houtlet, hseam.1, hseam.2.1, hseam.2.2, ?_⟩
  rw [publishAll_isOk_iff (by simp [hnames]), List.pairwise_pair,
    ← Api.disjoint_publishedNames_iff, hnames.1, hnames.2]
  simp

end Registry
end ResourceRouting
