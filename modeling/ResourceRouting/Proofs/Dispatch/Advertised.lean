import Mathlib.Data.List.Flatten
import ResourceRouting.Proofs.Lists
import ResourceRouting.Proofs.Paths.Relative

/-!
# Advertised — the methods that a collection names

A collection answers `OPTIONS` with the methods of its operations, which it gathers from its own
list of them. The table is put together by a walk that asks each operation for its gate and for its
method once more. Both come to the same methods in the same order.

* `Collection.methods_eq_eraseDups`: the methods are the first mentions, `OPTIONS` in front.
* `Table.runs_sublist_plan`, `Table.mem_runs_iff`: the bindings that run the operations of a
  collection, as they stand in a plan.
* `Api.advertises_of_build`: what the answer to `OPTIONS` says of the table.
-/

namespace ResourceRouting

variable {σ : Type}

/-! ## Methods of a collection -/

namespace Collection

theorem addMethod_eq (methods : List Method) (m : Method) :
    addMethod methods m = if m ∈ methods then methods else methods ++ [m] := by
  simp [addMethod]

theorem foldl_addMethod (methods : List Method) :
    methods.foldl addMethod [.options] = (.options :: methods).eraseDups := by
  -- by the last method: it is added unless it was mentioned before
  induction methods using List.reverseRecOn with
  | nil =>
      rfl
  | append_singleton methods m ih =>
      rw [List.foldl_append, ih, ← List.cons_append, eraseDups_concat, List.foldl_cons,
        List.foldl_nil, addMethod_eq]
      simp only [List.mem_eraseDups]

/-- The bindings that run the operations of a collection, but for those that are never open. -/
def runs (c : Collection σ) : Table σ :=
  (c.node.operations.filter fun o => o.gate.isRegistered).map fun o =>
    ⟨o.method, o.path, .operation o⟩

theorem methods_eq_eraseDups (c : Collection σ) :
    c.methods = (.options :: c.runs.map Binding.method).eraseDups := by
  rw [methods, foldl_addMethod, runs, List.map_map]
  rfl

end Collection

/-! ## Bindings that run operations of a collection -/

/-- The binding runs an operation of the collection, one of its own and none of a subcollection. -/
def Binding.RunsFor (b : Binding σ) (c : Collection σ) : Prop :=
  ∃ o ∈ c.node.operations, b.endpoint = .operation o

namespace Table

variable {app : String} {routing : Routing} {collections : List (Collection σ)}

theorem runs_sublist_ownBindings (routing : Routing) (c : Collection σ) :
    c.runs.Sublist (c.ownBindings routing) := by
  have hself : ∀ o : Operation σ, [⟨o.method, o.path, .operation o⟩].Sublist
      (o.bindings routing c.node) := by
    intro o
    rw [Operation.bindings, List.append_assoc, List.append_assoc]
    exact List.sublist_append_left _ _
  rw [Collection.runs, List.map_eq_flatMap, Collection.ownBindings]
  exact (List.Sublist.flatMap_right _ fun o _ => hself o).trans (List.sublist_append_right _ _)

theorem ownBindings_sublist_plan {c : Collection σ} (hc : c ∈ Collection.walkAll collections) :
    (c.ownBindings routing).Sublist (plan app routing collections) := by
  have hown : (c.ownBindings routing).Sublist
      ((Collection.walkAll collections).flatMap (Collection.ownBindings routing)) := by
    rw [List.flatMap_def]
    exact List.sublist_flatten_of_mem (List.mem_map_of_mem hc)
  exact hown.trans (List.sublist_append_left _ _)

theorem runs_sublist_plan {c : Collection σ} (hc : c ∈ Collection.walkAll collections) :
    c.runs.Sublist (plan app routing collections) :=
  (runs_sublist_ownBindings routing c).trans (ownBindings_sublist_plan hc)

/-- What runs an operation of a collection is bound for that operation. -/
theorem mem_runs_iff {c : Collection σ} (hc : c ∈ Collection.walkAll collections)
    {b : Binding σ} : b ∈ c.runs ↔ b ∈ plan app routing collections ∧ b.RunsFor c := by
  constructor
  · intro hb
    refine ⟨(runs_sublist_plan hc).subset hb, ?_⟩
    rcases List.mem_map.1 hb with ⟨o, ho, rfl⟩
    exact ⟨o, (List.mem_filter.1 ho).1, rfl⟩
  · rintro ⟨hb, o, ho, hendpoint⟩
    have hregistered : o.gate.isRegistered = true := isRegistered_of_mem_plan hb hendpoint
    rw [(eq_of_mem_plan hb hendpoint).1]
    exact List.mem_map.2 ⟨o, List.mem_filter.2 ⟨ho, hregistered⟩, rfl⟩

/-- Where `OPTIONS` is answered at all, it is answered for every collection. -/
theorem options_mem_plan (hoptions : routing.optionsRoutes = true) {c : Collection σ}
    (hc : c ∈ Collection.walkAll collections) :
    ⟨.options, c.node.path, .options c.allow⟩ ∈ plan app routing collections := by
  refine (ownBindings_sublist_plan hc).subset ?_
  have hallows : routing.allows .options = true := hoptions
  simp [Collection.ownBindings, auxiliary, hallows]

end Table

/-! ## Built applications -/

/-- The methods are those that a table has for a collection: `OPTIONS` first, no method twice, and
besides `OPTIONS` just the methods of bindings that run operations of the collection itself, in the
order of their first bindings. -/
structure Collection.Advertises (c : Collection σ) (t : Table σ) (methods : List Method) :
    Prop where
  first : methods.head? = some .options
  distinct : methods.Nodup
  mem_iff : ∀ m, m ≠ .options → (m ∈ methods ↔ ∃ b ∈ t, b.RunsFor c ∧ b.method = m)
  order : ∃ bs : Table σ, bs.Sublist t ∧ (∀ b, b ∈ bs ↔ b ∈ t ∧ b.RunsFor c) ∧
    methods = (.options :: bs.map Binding.method).eraseDups

theorem Collection.advertises_methods {app : String} {routing : Routing}
    {collections : List (Collection σ)} {c : Collection σ}
    (hc : c ∈ Collection.walkAll collections) :
    c.Advertises (Table.plan app routing collections) c.methods := by
  have hmem : ∀ b, b ∈ c.runs ↔ b ∈ Table.plan app routing collections ∧ b.RunsFor c :=
    fun b => Table.mem_runs_iff hc
  refine ⟨?_, ?_, ?_, c.runs, Table.runs_sublist_plan hc, hmem, c.methods_eq_eraseDups⟩
  · rw [methods_eq_eraseDups, List.eraseDups_cons, List.head?_cons]
  · rw [methods_eq_eraseDups]
    exact nodup_eraseDups _
  · intro m hm
    rw [methods_eq_eraseDups, List.mem_eraseDups, List.mem_cons, or_iff_right hm, List.mem_map]
    simp only [hmem, and_assoc]

namespace Api

/-- The answer to `OPTIONS` on a collection agrees with the table. Where a built application has
such answers, each collection has one at its path, and no other binding answers `OPTIONS` there. It
names, with commas between them, the methods that the table has for the collection. -/
theorem advertises_of_build {name : String} {clauses : List (ApiClause σ)} {api : Api σ}
    (hbuild : build name clauses = .ok api) (hoptions : api.routing.optionsRoutes = true) :
    ∀ c ∈ Collection.walkAll api.collections, ∃ methods : List Method,
      c.Advertises api.bindings methods ∧
        ∀ b, b ∈ api.bindings ∧ b.method = .options ∧ b.path = c.node.path ↔
          b = ⟨.options, c.node.path, .options (Text.commaList (methods.map Method.text))⟩ := by
  intro c hc
  have hdistinct : api.bindings.Distinct := distinct_bindings_of_build hbuild
  have hplan : api.bindings = Table.plan api.name api.routing api.collections := by
    rw [bindings_of_build hbuild, (build_eq_ok_iff.1 hbuild).2]
    rfl
  have hbound : ⟨.options, c.node.path, .options c.allow⟩ ∈ api.bindings := by
    rw [hplan]
    exact Table.options_mem_plan hoptions hc
  refine ⟨c.methods, ?_, fun b => ⟨?_, ?_⟩⟩
  · rw [hplan]
    exact Collection.advertises_methods hc
  · rintro ⟨hb, hmethod, hpath⟩
    exact hdistinct.eq_of_mem hb hbound hmethod (congrArg Path.shape hpath)
  · rintro rfl
    exact ⟨hbound, rfl, rfl⟩

/-- Pages with an operation that is never open, one that is closed at the moment, two of one method
and one that answers `OPTIONS` itself, and drafts below them. -/
def advertisedPages : List (ApiClause Bool) :=
  [.collection "pages" [.operation "create" [], .operation "index" [],
    .operation "destroy" [.gate .never], .operation "update" [.gate (.dynamic id)],
    .operation "show" [], .operation "probe" [.method .options],
    .collection "drafts" [.operation "replace" [.method .put]]]]

theorem advertises_advertisedPages :
    ∃ api : Api Bool, build "site" advertisedPages = .ok api ∧
      api.routing.optionsRoutes = true ∧
        ∃ c ∈ Collection.walkAll api.collections, c.node.path = "/pages" ∧
          ∃ methods, c.Advertises api.bindings methods ∧
            Text.commaList (methods.map Method.text) = "OPTIONS,POST,GET,PATCH" ∧
              ⟨.options, "/pages", .options "OPTIONS,POST,GET,PATCH"⟩ ∈ api.bindings := by
  have hbuild : ∃ api : Api Bool, build "site" advertisedPages = .ok api :=
    isOk_iff_exists.1 (by decide +kernel)
  rcases hbuild with ⟨api, h⟩
  have hoptions : api.routing.optionsRoutes = true := by
    rw [(build_eq_ok_iff.1 h).2]
    decide +kernel
  have hpages : "/pages" ∈ (Collection.walkAll api.collections).map fun c => c.node.path := by
    rw [(build_eq_ok_iff.1 h).2]
    decide +kernel
  have hanswers : ∀ b ∈ api.bindings, b.method = .options → b.path = "/pages" →
      b.endpoint.fixedReply? = some (Reply.ok.withHeader "allow" "OPTIONS,POST,GET,PATCH") := by
    rw [bindings_of_build h]
    decide +kernel
  rcases List.mem_map.1 hpages with ⟨c, hc, hpath⟩
  rcases advertises_of_build h hoptions c hc with ⟨methods, hadvertises, hbound⟩
  rcases (hbound _).2 rfl with ⟨hmem, -, -⟩
  have htext : Text.commaList (methods.map Method.text) = "OPTIONS,POST,GET,PATCH" := by
    simpa [Endpoint.fixedReply?, Reply.withHeader] using hanswers _ hmem rfl hpath
  rw [hpath, htext] at hmem
  exact ⟨api, h, hoptions, c, hc, hpath, methods, hadvertises, htext, hmem⟩

end Api
end ResourceRouting
