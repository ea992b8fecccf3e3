import ResourceRouting.Proofs.Plan

/-!
# Rearranged — calls of one kind may be made before or after those of another

Features are declared by calls of one kind, root collections by calls of another, and all else that
is said of an application is a setting. Nothing that is declared looks at calls of another kind
before the application is built, so only the order among calls of one kind matters.

* `ApiClause.Rearranged`: the same calls of each kind, in the same order.
* `ApiDecl.declared_eq_of_rearranged`: they declare one application.
* `Api.build_rearranged`: and build one.
-/

namespace ResourceRouting

variable {σ : Type}

/-- A clause that sets what another one may set again. -/
def ApiClause.isSetting : ApiClause σ → Bool
  | .routing _ | .hooks _ | .featureCheck _ | .capabilityCheck _ => true
  | .feature _ _ _ | .collection _ _ => false

/-- The clauses have the same features, the same root collections and the same settings, each in
the same order. -/
structure ApiClause.Rearranged (clauses clauses' : List (ApiClause σ)) : Prop where
  features : clauses.filterMap featureCall? = clauses'.filterMap featureCall?
  collections : clauses.filterMap collectionCall? = clauses'.filterMap collectionCall?
  settings : clauses.filter isSetting = clauses'.filter isSetting

/-- What is said last is said by a clause that says anything. -/
theorem lastSaid?_filter {α β : Type} {said : α → Option β} {p : α → Bool}
    (hsilent : ∀ clause, ¬ p clause = true → said clause = none) (clauses : List α) :
    lastSaid? said (clauses.filter p) = lastSaid? said clauses := by
  induction clauses with
  | nil =>
      rfl
  | cons clause rest ih =>
      by_cases hp : p clause = true
      · simp only [List.filter_cons_of_pos hp, lastSaid?_cons, ih]
      · simp only [List.filter_cons_of_neg hp, lastSaid?_cons, ih, hsilent clause hp,
          Option.or_none]

namespace ApiClause.Rearranged

variable {clauses clauses' : List (ApiClause σ)}

theorem lastSaid?_eq (h : Rearranged clauses clauses') {β : Type} {said : ApiClause σ → Option β}
    (hfeature : ∀ name target body, said (.feature name target body) = none)
    (hcollection : ∀ name body, said (.collection name body) = none) :
    lastSaid? said clauses = lastSaid? said clauses' := by
  have hsilent : ∀ clause : ApiClause σ, ¬ clause.isSetting = true → said clause = none := by
    intro clause hsetting
    cases clause with
    | feature name target body => exact hfeature name target body
    | collection name body => exact hcollection name body
    | _ => exact absurd rfl hsetting
  calc
    lastSaid? said clauses = lastSaid? said (clauses.filter isSetting) :=
      (lastSaid?_filter hsilent clauses).symm
    _ = lastSaid? said (clauses'.filter isSetting) := by rw [h.settings]
    _ = lastSaid? said clauses' := lastSaid?_filter hsilent clauses'

theorem wellDeclared_iff (h : Rearranged clauses clauses') :
    ApiDecl.WellDeclared clauses ↔ ApiDecl.WellDeclared clauses' := by
  have htargets : ApiDecl.featureTargets clauses = ApiDecl.featureTargets clauses' := by
    rw [ApiDecl.featureTargets, ApiDecl.featureTargets, h.features]
  exact ApiDecl.wellDeclared_iff_of_calls (by rw [htargets]) h.collections

end ApiClause.Rearranged

-- the registry, the tree and each setting are read off the calls of one kind alone
theorem ApiDecl.declared_eq_of_rearranged (name : String) {clauses clauses' : List (ApiClause σ)}
    (h : ApiClause.Rearranged clauses clauses') :
    declared name clauses = declared name clauses' := by
  have hrouting : lastSaid? ApiClause.routing? clauses = lastSaid? ApiClause.routing? clauses' :=
    h.lastSaid?_eq (fun _ _ _ => rfl) fun _ _ => rfl
  have hfeatureCheck : lastSaid? ApiClause.featureCheck?? clauses =
      lastSaid? ApiClause.featureCheck?? clauses' :=
    h.lastSaid?_eq (fun _ _ _ => rfl) fun _ _ => rfl
  have hcapabilityCheck : lastSaid? ApiClause.capabilityCheck?? clauses =
      lastSaid? ApiClause.capabilityCheck?? clauses' :=
    h.lastSaid?_eq (fun _ _ _ => rfl) fun _ _ => rfl
  simp only [declared, hrouting, hfeatureCheck, hcapabilityCheck, h.features, h.collections]

namespace Api

/-- Only the order among features, among root collections and among settings matters. Clauses that
have the same of each in the same order, however they come between each other, are all built or
none, and what is built is one and the same application: its collections with their operations,
parameters and features, its registry of features, its bindings and its hooks, and with them the
reply to every request. -/
theorem build_rearranged {name : String} {clauses clauses' : List (ApiClause σ)}
    (h : ApiClause.Rearranged clauses clauses') (api : Api σ) :
    build name clauses = .ok api ↔ build name clauses' = .ok api := by
  rw [build_eq_ok_iff, build_eq_ok_iff, ApiDecl.declared_eq_of_rearranged name h,
    h.wellDeclared_iff]

/-- A site that closes its feature before it declares the pages that the feature extends, and opens
it again after. -/
def auditedEarly : List (ApiClause Unit) :=
  [.featureCheck fun _ _ => false,
    .feature "audit" "pages" [.operation "show" [.declare "trace" .string []]],
    .collection "pages" [.operation "show" []],
    .featureCheck fun _ _ => true,
    .feature "audit" "" [.operation "show" [.declare "actor" .string [.required]]]]

/-- The pages come first, and what decides on the feature comes last. -/
def auditedLate : List (ApiClause Unit) :=
  [.collection "pages" [.operation "show" []],
    .feature "audit" "pages" [.operation "show" [.declare "trace" .string []]],
    .feature "audit" "" [.operation "show" [.declare "actor" .string [.required]]],
    .featureCheck fun _ _ => false,
    .featureCheck fun _ _ => true]

theorem build_rearranged_audited :
    ApiClause.Rearranged auditedEarly auditedLate ∧
      ∃ api : Api Unit, build "site" auditedEarly = .ok api ∧
        build "site" auditedLate = .ok api ∧
        (Collection.walkAll api.collections).map (fun c => c.node.operations.map fun o =>
          (o.name, o.params.map fun p => (p.name, p.required))) =
            [[("show", [("id", true), ("trace", false), ("actor", true)])]] := by
  have hrearranged : ApiClause.Rearranged auditedEarly auditedLate := ⟨rfl, rfl, rfl⟩
  have hbuild : ∃ api : Api Unit, build "site" auditedEarly = .ok api :=
    isOk_iff_exists.1 (by decide +kernel)
  rcases hbuild with ⟨api, h⟩
  refine ⟨hrearranged, api, h, (build_rearranged hrearranged api).1 h, ?_⟩
  rw [(build_eq_ok_iff.1 h).2]
  decide +kernel

end Api
end ResourceRouting
