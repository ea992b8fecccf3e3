import ResourceRouting.Proofs.Catalog.Duties
import ResourceRouting.Proofs.Faults.Recorded
import ResourceRouting.Proofs.Paths.Rooted
import ResourceRouting.Proofs.Variation.Switches
import ResourceRouting.Server

/-!
# Building — catalogs under any settings

The clauses of a catalog are fixed; its settings, the decisions of its host and what the host
keeps beside the store are not. None of them decides whether a catalog is built. Routes are
settled without the decisions of the host, a root in front of all of them makes no clash, and
switching auxiliaries off only takes bindings away. So one table is left to be looked through: the
one under the root `/` with everything switched on.

* `exists_build`: every catalog is built.
* `Server.Lacks`: which file of its certificate a server lacks.
* `builds_under_any_settings`: nothing else keeps a server from being built.
-/

namespace ResourceRouting
namespace Catalog

variable {κ : Type}

-- full paths are compared as they stand, and computed only where nothing of the host is in them
attribute [local irreducible] Routing.route Path.join Path.joinParam

/-- The catalog as its clauses declare it. -/
def declaration (routing : Routing) (hooks : Hooks (Deployment κ)) : ApiDecl (Deployment κ) :=
  ApiDecl.declared appName (clauses routing hooks)

/-! ## What the host has no part in -/

theorem wellDeclared_clauses (routing : Routing) (hooks : Hooks (Deployment κ)) :
    ApiDecl.WellDeclared (clauses routing hooks) := by
  have hsame : ApiClause.offencesAll appName (clauses routing hooks) =
      ApiClause.offencesAll appName (clauses {} ({} : Hooks (Deployment Unit))) := rfl
  have hnone : ApiClause.offencesAll appName (clauses {} ({} : Hooks (Deployment Unit))) = [] := by
    decide +kernel
  exact ApiDecl.offencesAll_eq_nil_iff.1 (hsame.trans hnone)

/-- The paths of the tree relative to the root, those of each collection apart. -/
def relatives (d : ApiDecl (Deployment κ)) : List (List String) :=
  (Collection.walkAll d.tree).map fun c =>
    c.node.relative :: c.node.operations.map (Operation.relative c.node)

theorem relatives_declaration (routing : Routing) (hooks : Hooks (Deployment κ)) :
    relatives (declaration routing hooks) =
      relatives (declaration {} ({} : Hooks (Deployment Unit))) := rfl

theorem distinctPlaceholders_tree (routing : Routing) (hooks : Hooks (Deployment κ)) :
    ∀ c ∈ Collection.walkAll (declaration routing hooks).tree, c.node.DistinctPlaceholders := by
  have hpaths : ∀ paths ∈ relatives (declaration {} ({} : Hooks (Deployment Unit))),
      ∀ path ∈ paths, (Path.params path).Nodup := by
    decide +kernel
  rw [← relatives_declaration routing hooks, relatives, List.forall_mem_map] at hpaths
  intro c hc
  rcases List.forall_mem_cons.1 (hpaths c hc) with ⟨hown, hoperations⟩
  exact ⟨hown, fun o ho => hoperations _ (List.mem_map_of_mem ho)⟩

/-! ## Tables without clashes -/

/-- With everything switched on and the root `/`, methods and paths are the same whatever the host
decides. -/
theorem routes_declaration (hooks : Hooks (Deployment κ)) :
    (declaration {} hooks).plan.map (fun b => (b.method, b.path)) =
      (declaration {} ({} : Hooks (Deployment Unit))).plan.map fun b => (b.method, b.path) := rfl

theorem distinct_plan_default (hooks : Hooks (Deployment κ)) :
    (declaration {} hooks).plan.Distinct := by
  have hroutes : ((declaration {} ({} : Hooks (Deployment Unit))).plan.map fun b =>
      (b.method, b.path)).Pairwise fun a b =>
        ¬ (a.1 = b.1 ∧ Path.shape a.2 = Path.shape b.2) := by
    decide +kernel
  rw [← routes_declaration hooks, List.pairwise_map] at hroutes
  exact hroutes

/-- The default settings switch every kind of auxiliary on. -/
theorem narrows_default (routing : Routing) : (routing.withRoot "/").Narrows {} := by
  refine ⟨rfl, ?_⟩
  intro kind _
  cases kind <;> rfl

theorem distinct_plan (routing : Routing) (hooks : Hooks (Deployment κ)) :
    (declaration routing hooks).plan.Distinct := by
  -- first the root is taken off, and then everything is switched on
  rw [← ApiDecl.distinct_plan_based_iff]
  have hbased : (declaration routing hooks).based =
      { declaration {} hooks with routing := routing.withRoot "/" } := rfl
  have hless : (routing.withRoot "/").Narrows (declaration {} hooks).routing :=
    narrows_default routing
  rw [hbased, ApiDecl.plan_narrowed hless]
  exact (distinct_plan_default hooks).sublist List.filter_sublist

/-! ## Built catalogs and servers -/

theorem exists_build (routing : Routing) (hooks : Hooks (Deployment κ)) :
    ∃ api, build routing hooks = .ok api := by
  have hbuilt : ApiDecl.WellDeclared (clauses routing hooks) ∧
      (∀ c ∈ Collection.walkAll (declaration routing hooks).tree, c.node.DistinctPlaceholders) ∧
        (declaration routing hooks).plan.Distinct :=
    ⟨wellDeclared_clauses routing hooks, distinctPlaceholders_tree routing hooks,
      distinct_plan routing hooks⟩
  exact ⟨_, Api.build_eq_ok_iff.2 ⟨hbuilt, rfl⟩⟩

end Catalog

/-- The first file that a server needs for its certificate and does not have. -/
inductive Server.Lacks (exist : String → Bool) (settings : Settings) : ServerError → Prop
  | cert {ssl : SslSettings} (hssl : settings.server.ssl? = some ssl)
      (hcert : exist ssl.cert = false) : Lacks exist settings (.certMissing ssl.cert)
  | key {ssl : SslSettings} (hssl : settings.server.ssl? = some ssl)
      (hcert : exist ssl.cert = true) (hkey : exist ssl.key = false) :
      Lacks exist settings (.keyMissing ssl.key)

theorem Server.checkSsl_eq_error_iff {exist : String → Bool} {settings : Settings}
    {e : ServerError} : checkSsl exist settings = .error e ↔ Lacks exist settings e := by
  unfold checkSsl
  constructor
  · intro h
    split at h
    · cases h
    · rename_i ssl hssl
      split at h
      · rename_i hcert
        cases h
        exact .cert hssl (by simpa using hcert)
      · rename_i hcert
        split at h
        · rename_i hkey
          cases h
          exact .key hssl (by simpa using hcert) (by simpa using hkey)
        · cases h
  · intro h
    cases h with
    | cert hssl hcert => simp [hssl, hcert]
    | key hssl hcert hkey => simp [hssl, hcert, hkey]

namespace Catalog

variable {κ : Type}

/-- A catalog is built under any settings, whatever their root and their switches are, and
whatever the host decides. So a server over any store is built unless it lacks a file of its
certificate, and then this is the error that it reports. -/
theorem builds_under_any_settings :
    (∀ (routing : Routing) (hooks : Hooks (Deployment κ)), ∃ api, build routing hooks = .ok api) ∧
    ∀ (exist : String → Bool) (settings : Settings) (hooks : Hooks (Deployment κ))
      (store? : Option Store),
      (∀ e, Server.build exist settings hooks store? = .error e ↔
        Server.Lacks exist settings e) ∧
      ((∀ e, ¬ Server.Lacks exist settings e) →
        ∃ server, Server.build exist settings hooks store? = .ok server ∧
          server.settings = settings ∧ build settings.routing hooks = .ok server.api ∧
            server.store = store?.getD .seeded) := by
  refine ⟨exists_build, ?_⟩
  intro exist settings hooks store?
  rcases exists_build settings.routing hooks with ⟨api, hbuild⟩
  have hserver : Server.build exist settings hooks store? =
      (Server.checkSsl exist settings).map fun _ =>
        { settings, api, store := store?.getD .seeded } := by
    unfold Server.build
    rw [hbuild]
    cases Server.checkSsl exist settings <;> rfl
  simp only [hserver, ← Server.checkSsl_eq_error_iff]
  cases Server.checkSsl exist settings with
  | ok _ =>
      exact ⟨fun e => ⟨nofun, nofun⟩, fun _ => ⟨_, rfl, rfl, hbuild, rfl⟩⟩
  | error e =>
      exact ⟨fun e' => by simp [Except.map], fun hnone => absurd rfl (hnone e)⟩

end Catalog
end ResourceRouting
