import ResourceRouting.Proofs.Dispatch.Selection
import ResourceRouting.Proofs.Host.Mounting

/-!
# Agreement — the host and the application choose a binding

An application looks among the bindings of one method for the pattern with the fewest captures.
The host looks among the patterns of all methods for the one that it prefers, and only then for
the method. They choose alike where the application selects from the preferred pattern, and where
it selects nothing that the host would answer with a `GET`.

* `Router.agree_iff`: where, exactly, the two choose alike.
* `Router.agree_of_sole`: they do wherever all bindings that match have one pattern.
-/

namespace ResourceRouting
namespace Http
namespace Router

variable {σ : Type}

/-- For a method and a path the host runs the very binding that the application selects. -/
def Agree (api : Api σ) (router : Router σ) (method : Method) (path : String) : Prop :=
  ∀ b, router.handler? method path = some b ↔
    ∃ captures, api.find? method path = some ⟨b, captures⟩

section Mounted

variable {api : Api σ} {router : Router σ} {method : Method} {path : String}

theorem not_matches_of_find? (h : api.find? method path = none) {b : Binding σ}
    (hb : b ∈ api.bindings) (hmethod : b.method = method) : ¬ Path.Matches b.path path := by
  have hnone := Api.find?_eq_none_iff.1 h b hb hmethod
  rw [Path.Matches, hnone]
  simp

/-- Where the application selects a binding, the host runs it exactly if its pattern is the
preferred one. -/
theorem agree_iff_of_find? (h : Mounted api router) (hdistinct : api.bindings.Distinct)
    {sel : Api.Selection σ} (hfind : api.find? method path = some sel) :
    Agree api router method path ↔ Preferred api path sel.binding.path := by
  rcases Api.mem_of_find? hfind with ⟨hmem, hmethod, -⟩
  constructor
  · intro hagree
    have hhandler := (hagree sel.binding).2 ⟨sel.captures, hfind⟩
    exact ((h.handler?_eq_some_iff hdistinct).1 hhandler).2.1
  · intro hpreferred
    have hhandler : router.handler? method path = some sel.binding :=
      (h.handler?_eq_some_iff hdistinct).2 ⟨hmem, hpreferred, Or.inl hmethod⟩
    intro b
    rw [hhandler, hfind]
    constructor
    · intro hsome
      rw [← Option.some.inj hsome]
      exact ⟨sel.captures, rfl⟩
    · rintro ⟨captures, hsome⟩
      rw [Option.some.inj hsome]

/-- Where the application selects nothing, the host runs nothing unless a `GET` stands in for
`HEAD`. -/
theorem agree_iff_of_find?_eq_none (h : Mounted api router) (hdistinct : api.bindings.Distinct)
    (hfind : api.find? method path = none) :
    Agree api router method path ↔
      (method = .head → ∀ b ∈ api.bindings, b.method = .get → ¬ Preferred api path b.path) := by
  constructor
  · rintro hagree rfl b hb hget hpreferred
    -- no binding for `HEAD` has the pattern, because none matches the path
    have hnone : ∀ other ∈ api.bindings, other.path = b.path → other.method ≠ .head := by
      intro other hother hpath hhead
      refine not_matches_of_find? hfind hother hhead ?_
      rw [hpath]
      exact hpreferred.1
    have hhandler : router.handler? .head path = some b :=
      (h.handler?_eq_some_iff hdistinct).2 ⟨hb, hpreferred, Or.inr ⟨rfl, hget, hnone⟩⟩
    rcases (hagree b).1 hhandler with ⟨captures, hsome⟩
    rw [hfind] at hsome
    cases hsome
  · intro hhead b
    rw [hfind]
    constructor
    · intro hhandler
      rcases (h.handler?_eq_some_iff hdistinct).1 hhandler with
        ⟨hb, hpreferred, hmethod | ⟨hmethod, hget, -⟩⟩
      · exact absurd hpreferred.1 (not_matches_of_find? hfind hb hmethod)
      · exact absurd hpreferred (hhead hmethod b hb hget)
    · rintro ⟨captures, hsome⟩
      cases hsome

/-- The host and the application choose alike wherever all bindings that match have one pattern,
unless `HEAD` is asked for where only a `GET` is bound. -/
theorem agree_of_sole (h : Mounted api router) (hdistinct : api.bindings.Distinct)
    (hsole : ∀ a ∈ api.bindings, ∀ b ∈ api.bindings, Path.Matches a.path path →
      Path.Matches b.path path → a.path = b.path)
    (hhead : method = .head → ∀ b ∈ api.bindings, b.method = .get → Path.Matches b.path path →
      ∃ other ∈ api.bindings, other.method = .head ∧ Path.Matches other.path path) :
    Agree api router method path := by
  cases hfind : api.find? method path with
  | none =>
      refine (agree_iff_of_find?_eq_none h hdistinct hfind).2 ?_
      rintro rfl b hb hget hpreferred
      rcases hhead rfl b hb hget hpreferred.1 with ⟨other, hother, hmethod, hmatch⟩
      exact not_matches_of_find? hfind hother hmethod hmatch
  | some sel =>
      refine (agree_iff_of_find? h hdistinct hfind).2 ?_
      rcases Api.mem_of_find? hfind with ⟨hmem, -, hcaptures⟩
      have hmatch : Path.Matches sel.binding.path path := by
        rw [Path.Matches, hcaptures]
        rfl
      refine ⟨hmatch, ?_⟩
      intro other hother hmatch' hprecedes
      rw [hsole other hother sel.binding hmem hmatch' hmatch] at hprecedes
      exact hprecedes.asymm hprecedes

/-- Where, exactly, the host and the application choose alike. -/
theorem agree_iff (h : Mounted api router) (hdistinct : api.bindings.Distinct) :
    Agree api router method path ↔
      (∀ sel, api.find? method path = some sel → Preferred api path sel.binding.path) ∧
        (api.find? method path = none → method = .head →
          ∀ b ∈ api.bindings, b.method = .get → ¬ Preferred api path b.path) := by
  cases hfind : api.find? method path with
  | none =>
      have hnone := agree_iff_of_find?_eq_none h hdistinct hfind
      simpa using hnone
  | some sel =>
      have hsome := agree_iff_of_find? h hdistinct hfind
      simpa using hsome

end Mounted

/-- A mounted application and the application itself know the same paths. A request that the host
runs no binding for leaves the state as it is, and one that it runs a binding for is answered by
it. The host runs the binding that the application selects exactly where its pattern is the
preferred one, and nothing else: where the application selects nothing, only a `GET` that stands
in for a missing `HEAD` is run. Wherever all bindings that match have one pattern, the two choose
alike. -/
theorem agree_iff_of_build {name : String} {clauses : List (ApiClause σ)} {api : Api σ}
    {router : Router σ} (hbuild : Api.build name clauses = .ok api)
    (hmount : mount? api = some router) (method : Method) (path : String) :
    (router.route? path = none ↔ ∀ b ∈ api.bindings, ¬ Path.Matches b.path path) ∧
    (∀ request s, request.method = method.text → request.path = path →
      (router.handler? method path = none → (router.serve request s).2 = s) ∧
      ∀ b, router.handler? method path = some b →
        router.serve request s = router.answer method b request s) ∧
    (Agree api router method path ↔
      (∀ sel, api.find? method path = some sel → Preferred api path sel.binding.path) ∧
        (api.find? method path = none → method = .head →
          ∀ b ∈ api.bindings, b.method = .get → ¬ Preferred api path b.path)) ∧
    ((∀ a ∈ api.bindings, ∀ b ∈ api.bindings, Path.Matches a.path path →
        Path.Matches b.path path → a.path = b.path) →
      (method = .head → ∀ b ∈ api.bindings, b.method = .get → Path.Matches b.path path →
        ∃ other ∈ api.bindings, other.method = .head ∧ Path.Matches other.path path) →
      Agree api router method path) := by
  have hmounted := mounted_of_mount? hmount
  have hdistinct := Api.distinct_bindings_of_build hbuild
  refine ⟨hmounted.route?_eq_none_iff, ?_, agree_iff hmounted hdistinct, ?_⟩
  · rintro request s hmethod rfl
    refine ⟨serve_of_handler?_eq_none s hmethod, ?_⟩
    intro b hhandler
    exact serve_of_handler? s hmethod hhandler
  · intro hsole hhead
    exact agree_of_sole hmounted hdistinct hsole hhead

/-- Only the pattern of a page matches the path of one, so it is answered alike. -/
theorem agree_pages :
    ∃ (api : Api Unit) (router : Router Unit), Api.build "site" Api.pages = .ok api ∧
      mount? api = some router ∧ Agree api router .get "/pages/42" ∧
        ∃ b captures, b.path = "/pages/:id" ∧ api.find? .get "/pages/42" = some ⟨b, captures⟩ ∧
          router.handler? .get "/pages/42" = some b := by
  rcases Api.exists_build_pages with ⟨api, hbuild⟩
  have happ := (Api.build_eq_ok_iff.1 hbuild).2
  have hmount : (mount? api).isSome = true := by
    rw [happ]
    decide +kernel
  rcases Option.isSome_iff_exists.1 hmount with ⟨router, hmount⟩
  have hsole : ∀ a ∈ api.bindings, ∀ b ∈ api.bindings, Path.Matches a.path "/pages/42" →
      Path.Matches b.path "/pages/42" → a.path = b.path := by
    rw [happ]
    decide +kernel
  have hfind : (api.find? .get "/pages/42").map (fun sel => sel.binding.path) =
      some "/pages/:id" := by
    rw [happ]
    decide +kernel
  have hagree : Agree api router .get "/pages/42" :=
    (agree_iff_of_build hbuild hmount .get "/pages/42").2.2.2 hsole (by simp)
  rcases Option.map_eq_some_iff.1 hfind with ⟨⟨b, captures⟩, hsel, hpath⟩
  exact ⟨api, router, hbuild, hmount, hagree, b, captures, hpath, hsel,
    (hagree b).2 ⟨captures, hsel⟩⟩

/-- The host prefers the auxiliary path of the operation, which has no `GET`, and runs nothing;
the application takes the name of the operation for the identifier of a page. -/
theorem not_agree_pages :
    ∃ (api : Api Unit) (router : Router Unit), Api.build "site" Api.pages = .ok api ∧
      mount? api = some router ∧ ¬ Agree api router .get "/pages/show" ∧
        router.handler? .get "/pages/show" = none ∧
          ∃ b captures, b.path = "/pages/:id" ∧ captures.toList = [("id", "show")] ∧
            api.find? .get "/pages/show" = some ⟨b, captures⟩ := by
  rcases Api.exists_build_pages with ⟨api, hbuild⟩
  have happ := (Api.build_eq_ok_iff.1 hbuild).2
  have hrouter : ((mount? api).map fun router =>
      (router.handler? .get "/pages/show").isNone) = some true := by
    rw [happ]
    decide +kernel
  rcases Option.map_eq_some_iff.1 hrouter with ⟨router, hmount, hhandler⟩
  have hnone : router.handler? .get "/pages/show" = none := Option.isNone_iff_eq_none.1 hhandler
  have hfind : (api.find? .get "/pages/show").map
      (fun sel => (sel.binding.path, sel.captures.toList)) =
        some ("/pages/:id", [("id", "show")]) := by
    rw [happ]
    decide +kernel
  rcases Option.map_eq_some_iff.1 hfind with ⟨⟨b, captures⟩, hsel, hpair⟩
  have hpath : b.path = "/pages/:id" := (Prod.mk.inj hpair).1
  have hcaptures : captures.toList = [("id", "show")] := (Prod.mk.inj hpair).2
  refine ⟨api, router, hbuild, hmount, ?_, hnone, b, captures, hpath, hcaptures, hsel⟩
  intro hagree
  have hhandler := (hagree b).2 ⟨captures, hsel⟩
  rw [hnone] at hhandler
  cases hhandler

end Router
end Http
end ResourceRouting
