import ResourceRouting.Proofs.Host.Precedence
import ResourceRouting.Proofs.Plan

/-!
# Mounting — the routes of a mounted application

Mounting gathers the bindings of each pattern into one route. `Gathers` is what this keeps up from
binding to binding, and `Router.handler?` is the binding that the host runs: the route is chosen
first, and the method is looked up in that route alone.

* `Router.gathers_of_mount`: the routes of a mounted application have its bindings, each in the
  route of its pattern.
* `Router.handler?_eq_some_iff`: a binding is run exactly if its pattern is preferred on the path
  and it answers the method there.
-/

namespace ResourceRouting
namespace Http

variable {σ : Type}

/-! ## Gathering -/

namespace Route

/-- There is one route a pattern, and it has the bindings of that pattern in their order. -/
structure Gathers (routes : List (Route σ)) (bs : List (Binding σ)) : Prop where
  nodup : (routes.map Route.pattern).Nodup
  bindings : ∀ r ∈ routes, r.bindings = bs.filter fun b => b.path == r.pattern
  patterns : ∀ pattern, pattern ∈ routes.map Route.pattern ↔ ∃ b ∈ bs, b.path = pattern

theorem gathers_nil : Gathers ([] : List (Route σ)) [] := by
  refine ⟨List.nodup_nil, ?_, ?_⟩
  · intro r hr
    cases hr
  · intro pattern
    simp

/-- A pattern that has a route already gets no second one. -/
theorem map_pattern_add (b : Binding σ) (routes : List (Route σ)) :
    (add b routes).map Route.pattern =
      if b.path ∈ routes.map Route.pattern then routes.map Route.pattern
      else routes.map Route.pattern ++ [b.path] := by
  induction routes with
  | nil =>
      simp [add]
  | cons r rest ih =>
      by_cases hpattern : r.pattern = b.path
      · simp [add, hpattern]
      · have hne : b.path ≠ r.pattern := fun heq => hpattern heq.symm
        by_cases hmem : b.path ∈ rest.map Route.pattern
        · simp [add, hpattern, ih, hmem]
        · simp [add, hpattern, ih, hmem, hne]

theorem mem_map_pattern_add {b : Binding σ} {routes : List (Route σ)} {pattern : String} :
    pattern ∈ (add b routes).map Route.pattern ↔
      pattern ∈ routes.map Route.pattern ∨ pattern = b.path := by
  rw [map_pattern_add]
  by_cases hmem : b.path ∈ routes.map Route.pattern
  · rw [if_pos hmem]
    constructor
    · exact Or.inl
    · rintro (hold | rfl)
      · exact hold
      · exact hmem
  · rw [if_neg hmem, List.mem_append, List.mem_singleton]

/-- The routes of other patterns stay as they are, and that of the pattern has the binding at its
end. -/
theorem mem_add {b : Binding σ} {routes : List (Route σ)} {r : Route σ}
    (hnodup : (routes.map Route.pattern).Nodup) (h : r ∈ add b routes) :
    (r ∈ routes ∧ r.pattern ≠ b.path) ∨
      (∃ old ∈ routes, old.pattern = b.path ∧ r = { old with bindings := old.bindings ++ [b] }) ∨
        (b.path ∉ routes.map Route.pattern ∧ r = ⟨b.path, [b]⟩) := by
  induction routes with
  | nil =>
      have hr : r = ⟨b.path, [b]⟩ := by
        simpa [add] using h
      exact Or.inr (Or.inr ⟨List.not_mem_nil, hr⟩)
  | cons first rest ih =>
      rw [List.map_cons, List.nodup_cons] at hnodup
      rcases hnodup with ⟨hfresh, hrest⟩
      by_cases hpattern : first.pattern = b.path
      · have hmem : r = { first with bindings := first.bindings ++ [b] } ∨ r ∈ rest := by
          simpa [add, hpattern] using h
        rcases hmem with rfl | hmem
        · exact Or.inr (Or.inl ⟨first, List.mem_cons_self, hpattern, rfl⟩)
        · -- no route further on has the pattern again
          have hne : r.pattern ≠ b.path := by
            intro heq
            refine hfresh ?_
            rw [hpattern, ← heq]
            exact List.mem_map_of_mem hmem
          exact Or.inl ⟨List.mem_cons_of_mem first hmem, hne⟩
      · have hmem : r = first ∨ r ∈ add b rest := by
          simpa [add, hpattern] using h
        rcases hmem with rfl | hmem
        · exact Or.inl ⟨List.mem_cons_self, hpattern⟩
        · rcases ih hrest hmem with ⟨hold, hne⟩ | ⟨old, hold, hpath, rfl⟩ | ⟨hnew, rfl⟩
          · exact Or.inl ⟨List.mem_cons_of_mem first hold, hne⟩
          · exact Or.inr (Or.inl ⟨old, List.mem_cons_of_mem first hold, hpath, rfl⟩)
          · refine Or.inr (Or.inr ⟨?_, rfl⟩)
            rw [List.map_cons, List.mem_cons, not_or]
            exact ⟨fun heq => hpattern heq.symm, hnew⟩

theorem Gathers.add {routes : List (Route σ)} {bs : List (Binding σ)} (h : Gathers routes bs)
    (b : Binding σ) : Gathers (Route.add b routes) (bs ++ [b]) := by
  refine ⟨?_, ?_, ?_⟩
  · rw [map_pattern_add]
    by_cases hmem : b.path ∈ routes.map Route.pattern
    · rw [if_pos hmem]
      exact h.nodup
    · rw [if_neg hmem, ← List.concat_eq_append, List.nodup_concat]
      exact ⟨hmem, h.nodup⟩
  · intro r hr
    rw [List.filter_append]
    rcases mem_add h.nodup hr with ⟨hold, hne⟩ | ⟨old, hold, hpath, rfl⟩ | ⟨hnew, rfl⟩
    · have hother : (b.path == r.pattern) = false := by
        simpa using hne.symm
      simp [h.bindings r hold, hother]
    · have hself : (b.path == old.pattern) = true := by
        simp [hpath]
      simp [h.bindings old hold, hself]
    · have hnone : bs.filter (fun other => other.path == b.path) = [] := by
        rw [List.filter_eq_nil_iff]
        intro other hother heq
        refine hnew ((h.patterns b.path).2 ⟨other, hother, ?_⟩)
        simpa using heq
      simp [hnone]
  · intro pattern
    rw [mem_map_pattern_add, h.patterns pattern]
    simp only [List.mem_append, List.mem_singleton, or_and_right, exists_or, exists_eq_left]
    rw [eq_comm]

/-- Gathering all bindings of a table gathers the table. -/
theorem gathers_foldl (bs : List (Binding σ)) :
    Gathers (bs.foldl (fun routes b => Route.add b routes) []) bs := by
  have hfrom : ∀ (rest : List (Binding σ)) {routes : List (Route σ)} {seen : List (Binding σ)},
      Gathers routes seen →
        Gathers (rest.foldl (fun routes b => Route.add b routes) routes) (seen ++ rest) := by
    intro rest
    induction rest with
    | nil =>
        intro routes seen h
        simpa using h
    | cons b rest ih =>
        intro routes seen h
        have hnext := ih (h.add b)
        rw [List.append_assoc] at hnext
        exact hnext
  exact hfrom bs gathers_nil

end Route

/-! ## Mounted applications -/

/-- The pattern matches the path, and no pattern of the application that matches it too has a
literal where, at the first segment that tells the two apart, this one has a placeholder. -/
def Preferred (api : Api σ) (path pattern : String) : Prop :=
  Path.Matches pattern path ∧ ∀ b ∈ api.bindings, Path.Matches b.path path →
    ¬ Path.Precedes (Path.segments b.path) (Path.segments pattern)

namespace Router

/-- The binding that is run for a method and a path. -/
def handler? (router : Router σ) (method : Method) (path : String) : Option (Binding σ) :=
  (router.route? path).bind fun route => route.binding? method.text

/-- The routes of an application, no two of one shape. -/
structure Mounted (api : Api σ) (router : Router σ) : Prop where
  source : router.api = api
  gathers : Route.Gathers router.routes api.bindings
  shapes : ∀ a ∈ router.routes, ∀ b ∈ router.routes,
    Path.shape a.pattern = Path.shape b.pattern → a.pattern = b.pattern

theorem mounted_of_mount? {api : Api σ} {router : Router σ} (h : mount? api = some router) :
    Mounted api router := by
  unfold mount? at h
  by_cases hfits : ((api.bindings.foldl (fun routes b => Route.add b routes) []).all fun r =>
      (Path.segments r.pattern).all takesSegment) = true
  · by_cases hclash : ((api.bindings.foldl (fun routes b => Route.add b routes) []).any fun a =>
        (api.bindings.foldl (fun routes b => Route.add b routes) []).any fun b =>
          conflicts a b) = true
    · simp [hfits, hclash] at h
    · simp only [hfits, hclash] at h
      have hrouter := Option.some.inj h
      subst hrouter
      refine ⟨rfl, Route.gathers_foldl api.bindings, ?_⟩
      intro a ha b hb hshape
      by_contra hne
      refine hclash (List.any_eq_true.2 ⟨a, ha, List.any_eq_true.2 ⟨b, hb, ?_⟩⟩)
      simp [conflicts, hne, hshape]
  · simp [hfits] at h

namespace Mounted

variable {api : Api σ} {router : Router σ} {path : String}

theorem mem_routes (h : Mounted api router) {b : Binding σ} (hb : b ∈ api.bindings) :
    ∃ r ∈ router.routes, r.pattern = b.path :=
  List.mem_map.1 ((h.gathers.patterns b.path).2 ⟨b, hb, rfl⟩)

theorem exists_binding (h : Mounted api router) {r : Route σ} (hr : r ∈ router.routes) :
    ∃ b ∈ api.bindings, b.path = r.pattern :=
  (h.gathers.patterns r.pattern).1 (List.mem_map_of_mem hr)

/-- The host takes bindings of one shape for bindings of one pattern. -/
theorem path_eq (h : Mounted api router) {a b : Binding σ} (ha : a ∈ api.bindings)
    (hb : b ∈ api.bindings) (hshape : Path.shape a.path = Path.shape b.path) : a.path = b.path := by
  rcases h.mem_routes ha with ⟨r, hr, hra⟩
  rcases h.mem_routes hb with ⟨r', hr', hrb⟩
  rw [← hra, ← hrb] at hshape ⊢
  exact h.shapes r hr r' hr' hshape

/-! ## The route of a path -/

theorem route?_eq_none_iff (h : Mounted api router) :
    router.route? path = none ↔ ∀ b ∈ api.bindings, ¬ Path.Matches b.path path := by
  rw [route?, pick_eq_none_iff, List.forall_mem_map]
  constructor
  · intro hnone b hb hmatch
    rcases h.mem_routes hb with ⟨r, hr, hpattern⟩
    refine hnone r hr ?_
    rw [hpattern]
    exact Path.matches_iff_accepts.1 hmatch
  · intro hnone r hr haccepts
    rcases h.exists_binding hr with ⟨b, hb, hpattern⟩
    refine hnone b hb ?_
    rw [hpattern]
    exact Path.matches_iff_accepts.2 haccepts

theorem preferred_of_route? (h : Mounted api router) {r : Route σ}
    (hroute : router.route? path = some r) : r ∈ router.routes ∧ Preferred api path r.pattern := by
  rcases picks_of_pick hroute with ⟨wants, hmem, haccepts, hbest⟩
  rcases List.mem_map.1 hmem with ⟨r', hr', hpair⟩
  rcases Prod.mk.inj hpair with ⟨rfl, rfl⟩
  refine ⟨hr', Path.matches_iff_accepts.2 haccepts, ?_⟩
  intro b hb hmatch
  rcases h.mem_routes hb with ⟨other, hother, hpattern⟩
  have hentry : (Path.segments other.pattern, other) ∈
      router.routes.map fun r => (Path.segments r.pattern, r) := List.mem_map_of_mem hother
  have hmatches : Path.Accepts (Path.segments other.pattern) (Path.segments path) := by
    rw [hpattern]
    exact Path.matches_iff_accepts.1 hmatch
  rw [← hpattern]
  rcases hbest _ hentry hmatches with hsame | hbefore
  · intro hprecedes
    exact hprecedes.map_anonymous_ne hsame
  · exact hbefore.asymm

/-- Only one pattern of an application is preferred on a path. -/
theorem path_eq_of_preferred (h : Mounted api router) {a b : Binding σ} (ha : a ∈ api.bindings)
    (hb : b ∈ api.bindings) (hpa : Preferred api path a.path) (hpb : Preferred api path b.path) :
    a.path = b.path := by
  -- preference is total on the patterns that match, so neither precedes the other
  have hmatchA := Path.matches_iff_accepts.1 hpa.1
  have hmatchB := Path.matches_iff_accepts.1 hpb.1
  rcases Path.Precedes.total hmatchA hmatchB with hshape | hbefore | hafter
  · exact h.path_eq ha hb (Path.shape_eq_iff.2 hshape)
  · exact absurd hbefore (hpb.2 a ha hpa.1)
  · exact absurd hafter (hpa.2 b hb hpb.1)

/-- A preferred pattern is that of the route. -/
theorem route?_of_preferred (h : Mounted api router) {b : Binding σ} (hb : b ∈ api.bindings)
    (hpreferred : Preferred api path b.path) :
    ∃ r ∈ router.routes, router.route? path = some r ∧ r.pattern = b.path := by
  cases hroute : router.route? path with
  | none =>
      exact absurd hpreferred.1 (h.route?_eq_none_iff.1 hroute b hb)
  | some r =>
      rcases h.preferred_of_route? hroute with ⟨hr, hpattern⟩
      rcases h.exists_binding hr with ⟨other, hother, hpath⟩
      rw [← hpath] at hpattern
      refine ⟨r, hr, rfl, ?_⟩
      rw [← hpath]
      exact h.path_eq_of_preferred hother hb hpattern hpreferred

end Mounted

end Router

/-! ## The binding for a method -/

theorem text_eq_head_iff {m : Method} : m.text = "HEAD" ↔ m = .head := by
  constructor
  · intro htext
    exact Method.text_inj htext
  · rintro rfl
    rfl

namespace Route

variable {r : Route σ} {bs : Table σ} {m : Method} {b : Binding σ}

/-- The binding of the route for exactly this method. -/
def own? (r : Route σ) (m : Method) : Option (Binding σ) :=
  r.bindings.find? fun b => b.method.text == m.text

theorem binding?_eq (r : Route σ) (m : Method) :
    r.binding? m.text = (r.own? m).or (if m = .head then r.own? .get else none) := by
  simp only [binding?, text_eq_head_iff]
  rfl

theorem own?_eq_none_iff : r.own? m = none ↔ ∀ b ∈ r.bindings, b.method ≠ m := by
  unfold own?
  rw [List.find?_eq_none]
  refine forall₂_congr fun b _ => ?_
  have htext : b.method.text = m.text ↔ b.method = m := ⟨Method.text_inj, congrArg Method.text⟩
  simp [htext]

theorem mem_of_own? (h : r.own? m = some b) : b ∈ r.bindings ∧ b.method = m := by
  have htext : b.method.text = m.text := by
    simpa using List.find?_some h
  exact ⟨List.mem_of_find?_eq_some h, Method.text_inj htext⟩

section Gathered

variable (hdistinct : bs.Distinct)
  (hbindings : r.bindings = bs.filter fun b => b.path == r.pattern)
include hbindings

theorem mem_bindings_iff : b ∈ r.bindings ↔ b ∈ bs ∧ b.path = r.pattern := by
  simp [hbindings]

include hdistinct

theorem own?_eq_some_iff :
    r.own? m = some b ↔ b ∈ bs ∧ b.path = r.pattern ∧ b.method = m := by
  have hmem : ∀ {b : Binding σ}, b ∈ r.bindings ↔ b ∈ bs ∧ b.path = r.pattern :=
    mem_bindings_iff hbindings
  constructor
  · intro h
    rcases mem_of_own? h with ⟨hb, hmethod⟩
    exact ⟨(hmem.1 hb).1, (hmem.1 hb).2, hmethod⟩
  · rintro ⟨hb, hpath, hmethod⟩
    cases hown : r.own? m with
    | none =>
        exact absurd hmethod (own?_eq_none_iff.1 hown b (hmem.2 ⟨hb, hpath⟩))
    | some other =>
        rcases mem_of_own? hown with ⟨hother, hmethod'⟩
        rcases hmem.1 hother with ⟨hother, hpath'⟩
        -- bindings of one pattern and one method are one
        have hshape : Path.shape other.path = Path.shape b.path := by
          rw [hpath', hpath]
        exact congrArg some (hdistinct.eq_of_mem hother hb (hmethod'.trans hmethod.symm) hshape)

/-- A route answers a method with its binding for it, and `HEAD` with that for `GET` if it has
none for `HEAD`. -/
theorem binding?_eq_some_iff :
    r.binding? m.text = some b ↔
      b ∈ bs ∧ b.path = r.pattern ∧
        (b.method = m ∨ m = .head ∧ b.method = .get ∧
          ∀ other ∈ bs, other.path = r.pattern → other.method ≠ .head) := by
  have hmem : ∀ {b : Binding σ}, b ∈ r.bindings ↔ b ∈ bs ∧ b.path = r.pattern :=
    mem_bindings_iff hbindings
  rw [binding?_eq, Option.or_eq_some_iff, own?_eq_some_iff hdistinct hbindings, own?_eq_none_iff]
  constructor
  · rintro (⟨hb, hpath, hmethod⟩ | ⟨hnone, hget⟩)
    · exact ⟨hb, hpath, Or.inl hmethod⟩
    · by_cases hhead : m = .head
      · subst hhead
        rw [if_pos rfl, own?_eq_some_iff hdistinct hbindings] at hget
        rcases hget with ⟨hb, hpath, hmethod⟩
        refine ⟨hb, hpath, Or.inr ⟨rfl, hmethod, ?_⟩⟩
        intro other hother hpath'
        exact hnone other (hmem.2 ⟨hother, hpath'⟩)
      · rw [if_neg hhead] at hget
        cases hget
  · rintro ⟨hb, hpath, hmethod | ⟨rfl, hmethod, hnone⟩⟩
    · exact Or.inl ⟨hb, hpath, hmethod⟩
    · refine Or.inr ⟨?_, ?_⟩
      · intro other hother
        rcases hmem.1 hother with ⟨hother, hpath'⟩
        exact hnone other hother hpath'
      · rw [if_pos rfl, own?_eq_some_iff hdistinct hbindings]
        exact ⟨hb, hpath, hmethod⟩

end Gathered

end Route

/-! ## The binding that is run -/

namespace Router

variable {api : Api σ} {router : Router σ}

/-- The host runs a binding exactly if its pattern is preferred on the path and the binding is for
the method, or is the `GET` that stands in for a missing `HEAD`. -/
theorem Mounted.handler?_eq_some_iff (h : Mounted api router) (hdistinct : api.bindings.Distinct)
    {method : Method} {path : String} {b : Binding σ} :
    router.handler? method path = some b ↔
      b ∈ api.bindings ∧ Preferred api path b.path ∧
        (b.method = method ∨ method = .head ∧ b.method = .get ∧
          ∀ other ∈ api.bindings, other.path = b.path → other.method ≠ .head) := by
  rw [handler?, Option.bind_eq_some_iff]
  constructor
  · rintro ⟨r, hroute, hbinding⟩
    rcases h.preferred_of_route? hroute with ⟨hr, hpreferred⟩
    rcases (Route.binding?_eq_some_iff hdistinct (h.gathers.bindings r hr)).1 hbinding with
      ⟨hb, hpath, hmethod⟩
    rw [← hpath] at hpreferred hmethod
    exact ⟨hb, hpreferred, hmethod⟩
  · rintro ⟨hb, hpreferred, hmethod⟩
    rcases h.route?_of_preferred hb hpreferred with ⟨r, hr, hroute, hpattern⟩
    rw [← hpattern] at hmethod
    have hbinding := (Route.binding?_eq_some_iff hdistinct (h.gathers.bindings r hr)).2
      ⟨hb, hpattern.symm, hmethod⟩
    exact ⟨r, hroute, hbinding⟩

/-- The answer of a binding that is run; a response to `HEAD` loses its body. -/
def answer (router : Router σ) (method : Method) (b : Binding σ) (request : Request) (s : σ) :
    Response × σ :=
  let answer := dispatch router.api b request s
  (if method = .head then answer.1.withoutBody else answer.1, answer.2)

theorem serve_of_handler? {method : Method} {request : Request} {b : Binding σ} (s : σ)
    (hmethod : request.method = method.text)
    (h : router.handler? method request.path = some b) :
    router.serve request s = router.answer method b request s := by
  rcases Option.bind_eq_some_iff.1 h with ⟨r, hroute, hbinding⟩
  have hhead : request.method = "HEAD" ↔ method = .head := by
    rw [hmethod]
    exact text_eq_head_iff
  rw [← hmethod] at hbinding
  simp only [serve, answer, hroute, hbinding, hhead]

/-- A request that no binding is run for leaves the state as it is. -/
theorem serve_of_handler?_eq_none {method : Method} {request : Request} (s : σ)
    (hmethod : request.method = method.text)
    (h : router.handler? method request.path = none) : (router.serve request s).2 = s := by
  cases hroute : router.route? request.path with
  | none =>
      simp only [serve, hroute]
  | some r =>
      have hbinding : r.binding? request.method = none := by
        rw [hmethod]
        exact Option.bind_eq_none_iff.1 h r hroute
      simp only [serve, hroute, hbinding]

end Router

end Http
end ResourceRouting
