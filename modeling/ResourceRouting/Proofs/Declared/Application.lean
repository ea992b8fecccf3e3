import ResourceRouting.Api
import ResourceRouting.Proofs.Declared.Features
import ResourceRouting.Proofs.Declared.Tree

/-!
# Application — what the clauses of an application declare

`ApiDecl.declared` reads the clauses of an application with every root collection taken in, and
`WellDeclared` says when none of the clauses is at fault. Settings, features and collections do
not see each other: each is read off its own clauses.

* `ApiDecl.faultless_ofClauses_iff`: gathering records no fault at any depth exactly when the
  clauses are well declared.
* `ApiDecl.ofClauses_eq_declared`: what is gathered is then the declared application.
-/

namespace ResourceRouting

/-! ## What one clause says -/

namespace ApiClause

variable {σ : Type}

@[simp]
def routing? : ApiClause σ → Option Routing
  | .routing r => some r
  | _ => none

/-- The decision on features that a clause settles, which may be that there is none. -/
def featureCheck?? : ApiClause σ → Option (Option (String → String → Bool))
  | .hooks h => some h.featureCheck?
  | .featureCheck check => some (some check)
  | _ => none

def capabilityCheck?? : ApiClause σ → Option (Option (σ → String → Bool))
  | .hooks h => some h.capabilityCheck?
  | .capabilityCheck check => some (some check)
  | _ => none

/-- The name, the target and the body of the feature that a clause declares. -/
@[simp]
def featureCall? : ApiClause σ → Option (String × String × List FeatureClause)
  | .feature name target body => some (name, target, body)
  | _ => none

@[simp]
def collectionCall? : ApiClause σ → Option (String × List (CollectionClause σ))
  | .collection name body => some (name, body)
  | _ => none

end ApiClause

namespace ApiDecl

variable {σ : Type}

/-- The application that a name and clauses declare: the last settings, the features one after
the other, and every root collection. -/
def declared (name : String) (clauses : List (ApiClause σ)) : ApiDecl σ :=
  { name
    routing := (lastSaid? ApiClause.routing? clauses).getD {}
    hooks :=
      { featureCheck? := (lastSaid? ApiClause.featureCheck?? clauses).getD none
        capabilityCheck? := (lastSaid? ApiClause.capabilityCheck?? clauses).getD none }
    features := (clauses.filterMap ApiClause.featureCall?).foldl FeatureRegistry.declareOrKeep {}
    collections := (clauses.filterMap ApiClause.collectionCall?).map fun call =>
      .declared call.1 call.2 }

/-- The names of the features that are declared, each with the target that the call names. -/
def featureTargets (clauses : List (ApiClause σ)) : List (String × String) :=
  (clauses.filterMap ApiClause.featureCall?).map fun call => (call.1, call.2.1)

/-! ## Settings -/

/-- A setting that each step takes from its clause, or keeps, is what the last clause says. -/
theorem setting_foldl_apply {β : Type} (setting : ApiDecl σ → β)
    (said : ApiClause σ → Option β)
    (h : ∀ d clause, setting (apply d clause) = (said clause).getD (setting d))
    (clauses : List (ApiClause σ)) (d : ApiDecl σ) :
    setting (clauses.foldl apply d) = (lastSaid? said clauses).getD (setting d) := by
  induction clauses generalizing d with
  | nil =>
      rfl
  | cons clause rest ih =>
      rw [List.foldl_cons, ih, h, lastSaid?_cons]
      cases lastSaid? said rest <;> simp

theorem settings_addFeature (d : ApiDecl σ) (name target : String) (body : List FeatureClause) :
    (d.addFeature name target body).name = d.name ∧
      (d.addFeature name target body).routing = d.routing ∧
        (d.addFeature name target body).hooks = d.hooks := by
  rw [addFeature]
  split <;> exact ⟨rfl, rfl, rfl⟩

theorem settings_addCollection (d : ApiDecl σ) (c : CollectionDecl σ) :
    (d.addCollection c).name = d.name ∧ (d.addCollection c).routing = d.routing ∧
      (d.addCollection c).hooks = d.hooks ∧ (d.addCollection c).features = d.features := by
  rw [addCollection]
  split <;> exact ⟨rfl, rfl, rfl, rfl⟩

theorem name_apply (d : ApiDecl σ) (clause : ApiClause σ) : (d.apply clause).name = d.name := by
  cases clause with
  | feature name target body => exact (settings_addFeature d name target body).1
  | collection name body => exact (settings_addCollection d _).1
  | _ => rfl

theorem routing_apply (d : ApiDecl σ) (clause : ApiClause σ) :
    (d.apply clause).routing = clause.routing?.getD d.routing := by
  cases clause with
  | feature name target body => exact (settings_addFeature d name target body).2.1
  | collection name body => exact (settings_addCollection d _).2.1
  | _ => rfl

theorem featureCheck?_apply (d : ApiDecl σ) (clause : ApiClause σ) :
    (d.apply clause).hooks.featureCheck? =
      clause.featureCheck??.getD d.hooks.featureCheck? := by
  cases clause with
  | feature name target body =>
      exact congrArg Hooks.featureCheck? (settings_addFeature d name target body).2.2
  | collection name body =>
      exact congrArg Hooks.featureCheck? (settings_addCollection d _).2.2.1
  | _ => rfl

theorem capabilityCheck?_apply (d : ApiDecl σ) (clause : ApiClause σ) :
    (d.apply clause).hooks.capabilityCheck? =
      clause.capabilityCheck??.getD d.hooks.capabilityCheck? := by
  cases clause with
  | feature name target body =>
      exact congrArg Hooks.capabilityCheck? (settings_addFeature d name target body).2.2
  | collection name body =>
      exact congrArg Hooks.capabilityCheck? (settings_addCollection d _).2.2.1
  | _ => rfl

theorem features_addFeature (d : ApiDecl σ) (name target : String) (body : List FeatureClause) :
    (d.addFeature name target body).features =
      FeatureRegistry.declareOrKeep d.features (name, target, body) := by
  rw [addFeature, FeatureRegistry.declareOrKeep]
  cases d.features.declare name target body with
  | ok features => rfl
  | error fault => rfl

theorem name_foldl_apply (clauses : List (ApiClause σ)) (d : ApiDecl σ) :
    (clauses.foldl apply d).name = d.name := by
  induction clauses generalizing d with
  | nil => rfl
  | cons clause rest ih => rw [List.foldl_cons, ih, name_apply]

theorem features_foldl_apply (clauses : List (ApiClause σ)) (d : ApiDecl σ) :
    (clauses.foldl apply d).features =
      (clauses.filterMap ApiClause.featureCall?).foldl FeatureRegistry.declareOrKeep d.features := by
  induction clauses generalizing d with
  | nil =>
      rfl
  | cons clause rest ih =>
      rw [List.foldl_cons, ih]
      cases clause with
      | feature name target body =>
          rw [apply, features_addFeature]
          rfl
      | collection name body =>
          rw [apply, (settings_addCollection d _).2.2.2]
          rfl
      | _ =>
          rfl

/-! ## Gathering without a fault -/

theorem addCollection_of_fresh {d : ApiDecl σ} {c : CollectionDecl σ}
    (h : c.name ∉ d.collections.map CollectionDecl.name) :
    d.addCollection c = { d with collections := d.collections ++ [c] } := by
  have hany : ¬ (d.collections.any fun e => e.name == c.name) = true := by
    simpa using h
  simp [addCollection, hany]

theorem addCollection_of_repeated {d : ApiDecl σ} {c : CollectionDecl σ}
    (h : c.name ∈ d.collections.map CollectionDecl.name) :
    d.addCollection c = d.recordFault (.repeatedRoot d.name c.name) := by
  have hany : (d.collections.any fun e => e.name == c.name) = true := by
    simpa using h
  rw [addCollection, if_pos hany]

theorem faults_addCollection_of_repeated {d : ApiDecl σ} {c : CollectionDecl σ}
    (h : c.name ∈ d.collections.map CollectionDecl.name) : (d.addCollection c).faults ≠ [] := by
  simp [addCollection_of_repeated h, recordFault]

theorem faults_apply_ne_nil {d : ApiDecl σ} (h : d.faults ≠ []) (clause : ApiClause σ) :
    (d.apply clause).faults ≠ [] := by
  cases clause with
  | feature name target body =>
      rw [apply, addFeature]
      split
      · exact h
      · simp [recordFault]
  | collection name body =>
      rw [apply, addCollection]
      split
      · simp [recordFault]
      · exact h
  | _ =>
      exact h

theorem faults_foldl_apply_ne_nil {d : ApiDecl σ} (h : d.faults ≠ [])
    (clauses : List (ApiClause σ)) : (clauses.foldl apply d).faults ≠ [] := by
  induction clauses generalizing d with
  | nil =>
      exact h
  | cons clause rest ih =>
      exact ih (faults_apply_ne_nil h clause)

theorem faults_addFeature_iff {d : ApiDecl σ} {name target : String}
    {body : List FeatureClause} (hd : d.faults = []) :
    (d.addFeature name target body).faults = [] ↔
      FeatureAccepted (d.features.target? name) target := by
  have haccepted : (∃ features, d.features.declare name target body = .ok features) ↔
      FeatureAccepted (d.features.target? name) target := FeatureRegistry.declare_isOk_iff
  rw [← haccepted, addFeature]
  cases d.features.declare name target body with
  | ok features =>
      simp [hd]
  | error fault =>
      simp [recordFault]

theorem target?_addFeature {d : ApiDecl σ} {name target : String} {body : List FeatureClause}
    (h : FeatureAccepted (d.features.target? name) target)
    (other : String) :
    (d.addFeature name target body).features.target? other =
      (d.features.target? other).or ([(name, target)].lookup other) := by
  have haccepted : ∃ features, d.features.declare name target body = .ok features :=
    FeatureRegistry.declare_isOk_iff.2 h
  rcases haccepted with ⟨features, hok⟩
  rw [addFeature, hok]
  exact FeatureRegistry.target?_of_declare hok other

theorem collections_addFeature (d : ApiDecl σ) (name target : String)
    (body : List FeatureClause) :
    (d.addFeature name target body).collections = d.collections := by
  rw [addFeature]
  split <;> rfl

/-- What gathering keeps up while it records no fault; `earlier` are the features declared so
far, each with the target that its call names. -/
structure Gathered (d : ApiDecl σ) (earlier : List (String × String)) : Prop where
  faults : d.faults = []
  targets : ∀ name, d.features.target? name = earlier.lookup name
  roots : (d.collections.map CollectionDecl.name).Nodup

theorem Gathered.addFeature {d : ApiDecl σ} {earlier : List (String × String)}
    (h : d.Gathered earlier) {name target : String} {body : List FeatureClause}
    (haccepted : FeatureAccepted (earlier.lookup name) target) :
    (d.addFeature name target body).Gathered (earlier ++ [(name, target)]) := by
  rw [← h.targets name] at haccepted
  refine ⟨(faults_addFeature_iff h.faults).2 haccepted, ?_, ?_⟩
  · intro other
    rw [target?_addFeature haccepted, h.targets, List.lookup_append]
  · rw [collections_addFeature]
    exact h.roots

theorem Gathered.addCollection {d : ApiDecl σ} {earlier : List (String × String)}
    (h : d.Gathered earlier) {c : CollectionDecl σ}
    (hfresh : c.name ∉ d.collections.map CollectionDecl.name) :
    (d.addCollection c).Gathered earlier := by
  rw [addCollection_of_fresh hfresh]
  exact ⟨h.faults, h.targets, nodup_map_concat_iff.2 ⟨hfresh, h.roots⟩⟩

/-- The features and the root collections that were gathered before settle whether the clauses to
come record a fault. -/
theorem Gathered.faults_foldl_apply_iff {clauses : List (ApiClause σ)} {d : ApiDecl σ}
    {earlier : List (String × String)} (h : d.Gathered earlier) :
    (clauses.foldl apply d).faults = [] ↔
      FeaturesAcceptedAfter earlier (featureTargets clauses) ∧
        (d.collections.map CollectionDecl.name ++
          (clauses.filterMap ApiClause.collectionCall?).map Prod.fst).Nodup := by
  induction clauses generalizing d earlier with
  | nil =>
      simp [h.faults, h.roots, featureTargets, featuresAcceptedAfter_nil]
  | cons clause rest ih =>
      rw [List.foldl_cons]
      cases clause with
      | feature name target body =>
          simp only [featureTargets, List.filterMap_cons, ApiClause.featureCall?,
            ApiClause.collectionCall?, List.map_cons, apply]
          rw [featuresAcceptedAfter_cons_iff]
          by_cases haccepted : FeatureAccepted (earlier.lookup name) target
          · rw [ih (h.addFeature haccepted), collections_addFeature]
            simp [featureTargets, haccepted]
          · -- a refused call is still recorded at the end
            have hrefused : (d.addFeature name target body).faults ≠ [] := by
              rw [ne_eq, faults_addFeature_iff h.faults, h.targets]
              exact haccepted
            simp [faults_foldl_apply_ne_nil hrefused rest, haccepted]
      | collection name body =>
          simp only [featureTargets, List.filterMap_cons, ApiClause.featureCall?,
            ApiClause.collectionCall?, List.map_cons, apply]
          have hname := CollectionDecl.name_ofClauses name body
          by_cases hmem : (CollectionDecl.ofClauses name body).name ∈
              d.collections.map CollectionDecl.name
          · have hrepeated := faults_addCollection_of_repeated hmem
            have hdup : ¬ (d.collections.map CollectionDecl.name ++ name ::
                (rest.filterMap ApiClause.collectionCall?).map Prod.fst).Nodup := by
              intro hnodup
              rw [hname] at hmem
              exact (List.nodup_append.1 hnodup).2.2 name hmem name (by simp) rfl
            simp [faults_foldl_apply_ne_nil hrepeated rest, hdup]
          · rw [ih (h.addCollection hmem), addCollection_of_fresh hmem]
            simp [featureTargets, hname]
      | _ =>
          exact ih ⟨h.faults, h.targets, h.roots⟩

theorem collections_foldl_apply {clauses : List (ApiClause σ)} {d : ApiDecl σ}
    (h : (clauses.foldl apply d).faults = []) :
    (clauses.foldl apply d).collections =
      d.collections ++ (clauses.filterMap ApiClause.collectionCall?).map fun call =>
        .ofClauses call.1 call.2 := by
  induction clauses generalizing d with
  | nil =>
      simp
  | cons clause rest ih =>
      rw [List.foldl_cons] at h ⊢
      rw [ih h]
      cases clause with
      | feature name target body =>
          simp [apply, collections_addFeature, List.filterMap_cons, ApiClause.collectionCall?]
      | collection name body =>
          -- a name that repeats would be a fault at the end
          have hfresh : (CollectionDecl.ofClauses name body).name ∉
              d.collections.map CollectionDecl.name := by
            intro hmem
            exact faults_foldl_apply_ne_nil (faults_addCollection_of_repeated hmem) rest h
          simp [apply, addCollection_of_fresh hfresh, ApiClause.collectionCall?]
      | _ =>
          rfl

/-! ## Well declared applications -/

/-- None of the clauses is at fault, at any depth. -/
structure WellDeclared (clauses : List (ApiClause σ)) : Prop where
  features : FeaturesAccepted (featureTargets clauses)
  roots : ((clauses.filterMap ApiClause.collectionCall?).map Prod.fst).Nodup
  collections : ∀ call ∈ clauses.filterMap ApiClause.collectionCall?,
    (CollectionDecl.declared call.1 call.2).Sound
  controlFree : ∀ call ∈ clauses.filterMap ApiClause.collectionCall?,
    CollectionClause.ControlFree call.2

/-- No fault was recorded, by the application or by a collection at any depth. -/
def Faultless (d : ApiDecl σ) : Prop := d.faults = [] ∧ ∀ c ∈ d.collections, c.Faultless

theorem faults_ofClauses_iff {name : String} {clauses : List (ApiClause σ)} :
    (ofClauses name clauses).faults = [] ↔
      FeaturesAccepted (featureTargets clauses) ∧
        ((clauses.filterMap ApiClause.collectionCall?).map Prod.fst).Nodup :=
  Gathered.faults_foldl_apply_iff (d := { name }) ⟨rfl, fun _ => rfl, List.nodup_nil⟩

/-- What is gathered from well declared clauses is what they declare. -/
theorem ofClauses_eq_declared {name : String} {clauses : List (ApiClause σ)}
    (h : WellDeclared clauses) : ofClauses name clauses = declared name clauses := by
  have hfaults : (ofClauses name clauses).faults = [] :=
    faults_ofClauses_iff.2 ⟨h.features, h.roots⟩
  have hcollections : (ofClauses name clauses).collections =
      (declared name clauses).collections := by
    refine (collections_foldl_apply hfaults).trans (List.map_congr_left fun call hmem => ?_)
    exact CollectionDecl.ofClauses_eq_declared (h.collections call hmem) (h.controlFree call hmem)
  have hname : (ofClauses name clauses).name = name := name_foldl_apply clauses { name }
  have hrouting : (ofClauses name clauses).routing = (declared name clauses).routing :=
    setting_foldl_apply ApiDecl.routing _ routing_apply clauses { name }
  have hfeatureCheck : (ofClauses name clauses).hooks.featureCheck? =
      (declared name clauses).hooks.featureCheck? :=
    setting_foldl_apply (fun d => d.hooks.featureCheck?) _ featureCheck?_apply clauses { name }
  have hcapabilityCheck : (ofClauses name clauses).hooks.capabilityCheck? =
      (declared name clauses).hooks.capabilityCheck? :=
    setting_foldl_apply (fun d => d.hooks.capabilityCheck?) _ capabilityCheck?_apply clauses
      { name }
  have hfeatures : (ofClauses name clauses).features = (declared name clauses).features :=
    features_foldl_apply clauses { name }
  have hhooks : (ofClauses name clauses).hooks = (declared name clauses).hooks :=
    Hooks.ext hfeatureCheck hcapabilityCheck
  exact ApiDecl.ext hname hrouting hhooks hfeatures hcollections hfaults

/-- No fault is recorded exactly when every clause is well declared, at every depth. -/
theorem faultless_ofClauses_iff {name : String} {clauses : List (ApiClause σ)} :
    (ofClauses name clauses).Faultless ↔ WellDeclared clauses := by
  constructor
  · rintro ⟨hfaults, hcollections⟩
    rcases faults_ofClauses_iff.1 hfaults with ⟨hfeatures, hroots⟩
    have hbody : ∀ call ∈ clauses.filterMap ApiClause.collectionCall?,
        (CollectionDecl.declared call.1 call.2).Sound ∧
          CollectionClause.ControlFree call.2 := by
      intro call hmem
      refine CollectionDecl.faultless_ofClauses_iff.1 (hcollections _ ?_)
      have hgathered := collections_foldl_apply (d := { name }) hfaults
      rw [ofClauses, hgathered]
      exact List.mem_map_of_mem hmem
    exact ⟨hfeatures, hroots, fun call hmem => (hbody call hmem).1,
      fun call hmem => (hbody call hmem).2⟩
  · intro h
    rw [ofClauses_eq_declared h]
    refine ⟨rfl, fun c hc => ?_⟩
    rcases List.mem_map.1 hc with ⟨call, -, rfl⟩
    exact CollectionDecl.faultless_declared call.1 call.2

/-! ## Settings among other clauses -/

/-- Only features and collections can be declared badly. -/
theorem wellDeclared_iff_of_calls {clauses clauses' : List (ApiClause σ)}
    (hfeatures : FeaturesAccepted (featureTargets clauses) ↔
      FeaturesAccepted (featureTargets clauses'))
    (hcalls : clauses.filterMap ApiClause.collectionCall? =
      clauses'.filterMap ApiClause.collectionCall?) :
    WellDeclared clauses ↔ WellDeclared clauses' := by
  constructor
  · rintro ⟨haccepted, hroots, hcollections, hfree⟩
    rw [hcalls] at hroots hcollections hfree
    exact ⟨hfeatures.1 haccepted, hroots, hcollections, hfree⟩
  · rintro ⟨haccepted, hroots, hcollections, hfree⟩
    rw [← hcalls] at hroots hcollections hfree
    exact ⟨hfeatures.2 haccepted, hroots, hcollections, hfree⟩

section Clauses

variable {before after : List (ApiClause σ)} {routing : Routing}

/-- What settings do not speak of is said by the other clauses. -/
theorem filterMap_routing {β : Type} (said : ApiClause σ → Option β)
    (hnone : said (.routing routing) = none) :
    (before ++ .routing routing :: after).filterMap said = (before ++ after).filterMap said := by
  simp [List.filterMap_cons_none hnone]

theorem lastSaid?_routing {β : Type} (said : ApiClause σ → Option β)
    (hnone : said (.routing routing) = none) :
    lastSaid? said (before ++ .routing routing :: after) = lastSaid? said (before ++ after) := by
  simp [lastSaid?, List.findSome?_append, hnone]

/-- Settings that come last are those of the application, and say nothing else of it. -/
theorem declared_routing (name : String) (hafter : ∀ clause ∈ after, clause.routing? = none) :
    declared name (before ++ .routing routing :: after) =
      { declared name (before ++ after) with routing } := by
  have hrouting : lastSaid? ApiClause.routing? (before ++ .routing routing :: after) =
      some routing := by
    have hnone : after.reverse.findSome? ApiClause.routing? = none :=
      List.findSome?_eq_none_iff.2 fun clause hmem => hafter clause (List.mem_reverse.1 hmem)
    simp [lastSaid?, List.findSome?_append, List.findSome?_cons, hnone]
  simp only [declared, hrouting, lastSaid?_routing ApiClause.featureCheck?? rfl,
    lastSaid?_routing ApiClause.capabilityCheck?? rfl,
    filterMap_routing ApiClause.featureCall? rfl,
    filterMap_routing ApiClause.collectionCall? rfl, Option.getD_some]

theorem wellDeclared_routing_iff :
    WellDeclared (before ++ .routing routing :: after) ↔ WellDeclared (before ++ after) := by
  refine wellDeclared_iff_of_calls ?_ (filterMap_routing _ rfl)
  rw [featureTargets, filterMap_routing _ rfl, ← featureTargets]

end Clauses

end ApiDecl
end ResourceRouting
