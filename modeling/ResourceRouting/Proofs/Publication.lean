import Mathlib.Algebra.GroupWithZero.Nat
import ResourceRouting.Proofs.Declared.Names
import ResourceRouting.Proofs.OctetOrder
import ResourceRouting.Proofs.Plan
import ResourceRouting.Registry

/-!
# Publication — what a registry holds after a run of calls

A registry is changed in place: `Registry.publishing` looks every name up and then adds the root
collections one by one, and wherever it stops the registry stays as it was changed so far. Calls
on one registry follow each other in a `Session`, which keeps account of the applications that
were published since the registry was last cleared.

* `Registry.Settles`: a publication is refused exactly if a name is taken, and then nothing has
  changed; otherwise all of its collections are added and nothing else changes.
* `Registry.Session.Accounts`: what every run of calls keeps up between a registry and the
  account of its publications.
* `Registry.publications_of_calls`: both together, for every run of calls.
-/

namespace ResourceRouting

/-! ## Names of root collections -/

namespace Api

variable {σ : Type}

/-- The names of its root collections as an application publishes them. -/
def publishedNames (api : Api σ) : List String :=
  api.collections.map fun c => api.registryKey c.name

theorem nodup_names_of_build {name : String} {clauses : List (ApiClause σ)} {api : Api σ}
    (h : build name clauses = .ok api) : (api.collections.map Collection.name).Nodup := by
  rcases build_eq_ok_iff.1 h with ⟨⟨hdeclared, -, -⟩, rfl⟩
  have hroots : ((ApiDecl.declared name clauses).collections.map CollectionDecl.name).Nodup :=
    (ApiDecl.namesApart_declared hdeclared).roots
  rw [← CollectionDecl.map_name_settledAll (ApiDecl.declared name clauses).context none] at hroots
  exact hroots

/-- One application publishes different collections under different names. -/
theorem registryKey_inj {api : Api σ} {a b : String} :
    api.registryKey a = api.registryKey b ↔ a = b := by
  cases hnamespacing : api.routing.namespacing <;> simp [registryKey, hnamespacing]

theorem nodup_publishedNames_of_build {name : String} {clauses : List (ApiClause σ)} {api : Api σ}
    (h : build name clauses = .ok api) : api.publishedNames.Nodup := by
  have hkeys : api.publishedNames = (api.collections.map Collection.name).map api.registryKey := by
    simp [publishedNames, Function.comp_def]
  rw [hkeys]
  exact (nodup_names_of_build h).map fun a b => registryKey_inj.1

end Api

namespace Registry

variable {σ : Type}

/-! ## Publications in place -/

/-- Adds entries one by one to a registry that is changed in place. -/
def adding (entries : List (String × Collection σ)) :
    ExceptT Fault (StateM (Registry σ)) Unit :=
  entries.forM fun e => modify fun r => ⟨r.entries.insert e.1 e.2⟩

/-- A publication on a registry that is changed in place. -/
def publishing (api : Api σ) : ExceptT Fault (StateM (Registry σ)) Unit := do
  let r ← get
  match (entriesOf api).find? fun e => r.entries.contains e.1 with
  | some (key, _) => throw (.alreadyPublished api.name key)
  | none => adding (entriesOf api)

/-- A call on a registry. -/
inductive Call (σ : Type)
  | publish (api : Api σ)
  | clear

/-- What a call answers, and the registry after it. -/
def answer (r : Registry σ) : Call σ → Except Fault Unit × Registry σ
  | .publish api => (publishing api).run.run r
  | .clear => (.ok (), empty)

theorem adding_run (entries : List (String × Collection σ)) (r : Registry σ) :
    (adding entries).run.run r =
      (.ok (), ⟨entries.foldl (fun m e => m.insert e.1 e.2) r.entries⟩) := by
  induction entries generalizing r with
  | nil =>
      rfl
  | cons e rest ih =>
      exact ih ⟨r.entries.insert e.1 e.2⟩

/-- Changed in place or not, a registry is published into alike. -/
theorem answer_publish (r : Registry σ) (api : Api σ) :
    r.answer (.publish api) =
      match r.publish api with
      | .ok published => (.ok (), published)
      | .error fault => (.error fault, r) := by
  have hlooks : r.answer (.publish api) =
      (match (entriesOf api).find? fun e => r.entries.contains e.1 with
        | some (key, _) => throw (.alreadyPublished api.name key)
        | none => adding (entriesOf api) : ExceptT Fault (StateM (Registry σ)) Unit).run.run r :=
    rfl
  unfold publish
  cases htaken : (entriesOf api).find? fun e => r.entries.contains e.1 with
  | some e =>
      simp only [htaken] at hlooks
      exact hlooks
  | none =>
      simp only [htaken, adding_run] at hlooks
      exact hlooks

/-! ## One publication -/

theorem lookup?_foldl_insert {entries : List (String × Collection σ)} {r : Registry σ}
    (hdistinct : (entries.map Prod.fst).Nodup)
    (hfresh : ∀ e ∈ entries, r.lookup? e.1 = none) (name : String) (c : Collection σ) :
    lookup? ⟨entries.foldl (fun m e => m.insert e.1 e.2) r.entries⟩ name = some c ↔
      r.lookup? name = some c ∨ (name, c) ∈ entries := by
  have hmany : lookup? ⟨entries.foldl (fun m e => m.insert e.1 e.2) r.entries⟩ name =
      (r.entries.insertMany entries)[name]? := by
    simp [lookup?, Std.ExtTreeMap.insertMany_list_eq_foldl]
  have hpairs : entries.Pairwise fun a b => ¬ compare a.1 b.1 = .eq := by
    simpa [List.Nodup, List.pairwise_map] using hdistinct
  rw [hmany]
  by_cases hname : name ∈ entries.map Prod.fst
  · -- a name that is added was not there before, and is added once
    rcases List.mem_map.1 hname with ⟨e, he, rfl⟩
    have hadded : (r.entries.insertMany entries)[e.1]? = some e.2 :=
      Std.ExtTreeMap.getElem?_insertMany_list_of_mem (by simp) hpairs he
    have honly : (e.1, c) ∈ entries ↔ e.2 = c := by
      constructor
      · intro hc
        have hsame : (e.1, c) = e := List.inj_on_of_nodup_map hdistinct hc he rfl
        exact (congrArg Prod.snd hsame).symm
      · rintro rfl
        exact he
    simp [hadded, hfresh e he, honly]
  · have hkept : (r.entries.insertMany entries)[name]? = r.entries[name]? :=
      Std.ExtTreeMap.getElem?_insertMany_list_of_contains_eq_false (by simpa using hname)
    have hnot : (name, c) ∉ entries := by
      intro hmem
      exact hname (List.mem_map_of_mem (f := Prod.fst) hmem)
    simp [hkept, hnot, lookup?]

theorem size_foldl_insert {entries : List (String × Collection σ)} {r : Registry σ}
    (hdistinct : (entries.map Prod.fst).Nodup)
    (hfresh : ∀ e ∈ entries, r.lookup? e.1 = none) :
    size ⟨entries.foldl (fun m e => m.insert e.1 e.2) r.entries⟩ =
      r.size + entries.length := by
  have hpairs : entries.Pairwise fun a b => ¬ compare a.1 b.1 = .eq := by
    simpa [List.Nodup, List.pairwise_map] using hdistinct
  have hnew : ∀ name, name ∈ r.entries → (entries.map Prod.fst).contains name = false := by
    intro name hname
    by_contra hmem
    have hadded : name ∈ entries.map Prod.fst := by simpa using hmem
    rcases List.mem_map.1 hadded with ⟨e, he, rfl⟩
    have hnone := hfresh e he
    simp [lookup?, hname] at hnone
  simpa [size, Std.ExtTreeMap.insertMany_list_eq_foldl] using
    Std.ExtTreeMap.size_insertMany_list hpairs hnew

/-- What a publication comes to. It is refused exactly if one of its names is taken, and then the
registry is as before; otherwise its collections are added, each under a name of its own, and
nothing else changes. -/
structure Settles (r : Registry σ) (api : Api σ) (answer : Except Fault Unit)
    (after : Registry σ) : Prop where
  refused_iff : (∃ fault, answer = .error fault) ↔
    ∃ name ∈ api.publishedNames, (r.lookup? name).isSome
  refused : ∀ fault, answer = .error fault →
    fault.report.kind = .duplicateCollection ∧ after = r
  distinct : api.publishedNames.Nodup
  added : answer = .ok () → ∀ name c, after.lookup? name = some c ↔
    r.lookup? name = some c ∨ c ∈ api.collections ∧ api.registryKey c.name = name
  size : answer = .ok () → after.size = r.size + api.collections.length

theorem map_fst_entriesOf (api : Api σ) : (entriesOf api).map Prod.fst = api.publishedNames := by
  simp [entriesOf, Api.publishedNames, Function.comp_def]

theorem mem_entriesOf_iff {api : Api σ} {name : String} {c : Collection σ} :
    (name, c) ∈ entriesOf api ↔ c ∈ api.collections ∧ api.registryKey c.name = name := by
  simp [entriesOf, and_comm]

theorem forall_mem_entriesOf_iff {r : Registry σ} {api : Api σ} :
    (∀ e ∈ entriesOf api, r.lookup? e.1 = none) ↔
      ¬ ∃ name ∈ api.publishedNames, (r.lookup? name).isSome := by
  simp [entriesOf, Api.publishedNames]

/-- The names of a publication are free exactly if the registry has none of them. -/
theorem find?_entriesOf_eq_none_iff {r : Registry σ} {api : Api σ} :
    (entriesOf api).find? (fun e => r.entries.contains e.1) = none ↔
      ∀ e ∈ entriesOf api, r.lookup? e.1 = none := by
  simp [lookup?, List.find?_eq_none]

theorem settles_answer {api : Api σ} (hdistinct : api.publishedNames.Nodup) (r : Registry σ) :
    r.Settles api (r.answer (.publish api)).1 (r.answer (.publish api)).2 := by
  cases hfind : (entriesOf api).find? fun e => r.entries.contains e.1 with
  | some e =>
      have hanswer : r.answer (.publish api) = (.error (.alreadyPublished api.name e.1), r) := by
        simp [answer_publish, publish, hfind]
      have htaken : ∃ name ∈ api.publishedNames, (r.lookup? name).isSome := by
        by_contra hfree
        have hnone := find?_entriesOf_eq_none_iff.2 (forall_mem_entriesOf_iff.2 hfree)
        simp [hnone] at hfind
      simp only [hanswer]
      refine ⟨⟨fun _ => htaken, fun _ => ⟨_, rfl⟩⟩, ?_, hdistinct, ?_, ?_⟩
      · intro fault hfault
        cases hfault
        exact ⟨rfl, rfl⟩
      · intro hok
        cases hok
      · intro hok
        cases hok
  | none =>
      have hanswer : r.answer (.publish api) =
          (.ok (), ⟨(entriesOf api).foldl (fun m e => m.insert e.1 e.2) r.entries⟩) := by
        simp [answer_publish, publish, hfind]
      have hfree := find?_entriesOf_eq_none_iff.1 hfind
      have hentries : ((entriesOf api).map Prod.fst).Nodup := by
        simpa [map_fst_entriesOf] using hdistinct
      simp only [hanswer]
      refine ⟨⟨?_, ?_⟩, ?_, hdistinct, ?_, ?_⟩
      · rintro ⟨fault, hfault⟩
        cases hfault
      · intro htaken
        exact absurd htaken (forall_mem_entriesOf_iff.1 hfree)
      · intro fault hfault
        cases hfault
      · intro _ name c
        simpa [mem_entriesOf_iff] using lookup?_foldl_insert hentries hfree name c
      · intro _
        simpa [entriesOf] using size_foldl_insert hentries hfree

/-! ## Runs of calls -/

/-- A registry, and the applications that were published into it since it was last cleared, the
first one first. -/
structure Session (σ : Type) where
  registry : Registry σ := {}
  published : List (Api σ) := []

namespace Session

/-- One more call. -/
def call (s : Session σ) (c : Call σ) : Session σ :=
  let (answer, registry) := s.registry.answer c
  match c, answer with
  | .publish api, .ok () => ⟨registry, s.published ++ [api]⟩
  | .publish _, .error _ => ⟨registry, s.published⟩
  | .clear, _ => ⟨registry, []⟩

/-- The session of a run of calls on a new registry. -/
def ofCalls (calls : List (Call σ)) : Session σ := calls.foldl call {}

/-- The registry holds what the published applications have put there, and no two of these have
put something under one name. -/
structure Accounts (s : Session σ) : Prop where
  lookup : ∀ name c, s.registry.lookup? name = some c ↔
    ∃ api ∈ s.published, c ∈ api.collections ∧ api.registryKey c.name = name
  distinct : (s.published.flatMap Api.publishedNames).Nodup
  size : s.registry.size = (s.published.map fun api => api.collections.length).sum

theorem accounts_empty : Accounts ({} : Session σ) := by
  refine ⟨?_, List.nodup_nil, ?_⟩
  · intro name c
    simp [lookup?]
  · simp [Registry.size]

/-- A name that an account has is taken in the registry. -/
theorem Accounts.isSome_lookup?_iff {s : Session σ} (h : s.Accounts) {name : String} :
    (s.registry.lookup? name).isSome ↔ ∃ api ∈ s.published, name ∈ api.publishedNames := by
  rw [Option.isSome_iff_exists]
  constructor
  · rintro ⟨c, hc⟩
    rcases (h.lookup name c).1 hc with ⟨api, hapi, hmem, hkey⟩
    exact ⟨api, hapi, List.mem_map.2 ⟨c, hmem, hkey⟩⟩
  · rintro ⟨api, hapi, hname⟩
    rcases List.mem_map.1 hname with ⟨c, hmem, hkey⟩
    exact ⟨c, (h.lookup name c).2 ⟨api, hapi, hmem, hkey⟩⟩

theorem Accounts.published {s : Session σ} (h : s.Accounts) {api : Api σ} {after : Registry σ}
    (hsettles : s.registry.Settles api (.ok ()) after) :
    Accounts ⟨after, s.published ++ [api]⟩ := by
  have hfree : ∀ name ∈ api.publishedNames, ∀ other ∈ s.published,
      name ∉ other.publishedNames := by
    intro name hname other hother hmem
    have htaken := h.isSome_lookup?_iff.2 ⟨other, hother, hmem⟩
    rcases hsettles.refused_iff.2 ⟨name, hname, htaken⟩ with ⟨fault, hfault⟩
    cases hfault
  refine ⟨?_, ?_, ?_⟩
  · intro name c
    simp [hsettles.added rfl name c, h.lookup name c, or_and_right, exists_or]
  · have happend : ((s.published ++ [api]).flatMap Api.publishedNames) =
        s.published.flatMap Api.publishedNames ++ api.publishedNames := by simp
    rw [happend, List.nodup_append]
    refine ⟨h.distinct, hsettles.distinct, ?_⟩
    rintro name hname _ hmem rfl
    rcases List.mem_flatMap.1 hname with ⟨other, hother, hin⟩
    exact hfree name hmem other hother hin
  · simp [hsettles.size rfl, h.size]

/-- Each call keeps the account right, whatever it answers. -/
theorem Accounts.call {s : Session σ} (h : s.Accounts) {c : Call σ}
    (hdistinct : ∀ api, c = .publish api → api.publishedNames.Nodup) : (s.call c).Accounts := by
  cases c with
  | clear =>
      exact accounts_empty
  | publish api =>
      have hsettles := settles_answer (hdistinct api rfl) s.registry
      unfold Session.call
      cases hanswer : s.registry.answer (.publish api) with
      | mk answer after =>
          simp only [hanswer] at hsettles ⊢
          cases answer with
          | ok _ =>
              exact h.published hsettles
          | error fault =>
              have hkept : after = s.registry := (hsettles.refused fault rfl).2
              simpa [hkept] using h

theorem accounts_foldl_call {calls : List (Call σ)} {s : Session σ} (h : s.Accounts)
    (hdistinct : ∀ api, .publish api ∈ calls → api.publishedNames.Nodup) :
    (calls.foldl call s).Accounts := by
  induction calls generalizing s with
  | nil =>
      exact h
  | cons c rest ih =>
      have hfirst : (s.call c).Accounts := by
        refine h.call fun api hc => hdistinct api ?_
        simp [hc]
      exact ih hfirst fun api hmem => hdistinct api (List.mem_cons_of_mem c hmem)

/-- Where a collection is found, exactly one publication has put it there. -/
theorem Accounts.lookup?_eq_some_iff {s : Session σ} (h : s.Accounts) {name : String}
    {c : Collection σ} :
    s.registry.lookup? name = some c ↔
      ∃ before api after, s.published = before ++ api :: after ∧ c ∈ api.collections ∧
        api.registryKey c.name = name ∧
          ∀ other ∈ before ++ after, name ∉ other.publishedNames := by
  rw [h.lookup]
  constructor
  · rintro ⟨api, hapi, hmem, hkey⟩
    rcases List.append_of_mem hapi with ⟨before, after, hsplit⟩
    refine ⟨before, api, after, hsplit, hmem, hkey, ?_⟩
    have hname : name ∈ api.publishedNames := List.mem_map.2 ⟨c, hmem, hkey⟩
    have hdistinct := h.distinct
    simp only [hsplit, List.flatMap_append, List.flatMap_cons] at hdistinct
    rcases List.nodup_append.1 hdistinct with ⟨-, hrest, hbefore⟩
    rcases List.nodup_append.1 hrest with ⟨-, -, hafter⟩
    intro other hother hin
    rcases List.mem_append.1 hother with hother | hother
    · have hout : name ∈ before.flatMap Api.publishedNames :=
        List.mem_flatMap.2 ⟨other, hother, hin⟩
      exact hbefore name hout name (List.mem_append_left _ hname) rfl
    · have hout : name ∈ after.flatMap Api.publishedNames := List.mem_flatMap.2 ⟨other, hother, hin⟩
      exact hafter name hname name hout rfl
  · rintro ⟨before, api, after, hsplit, hmem, hkey, -⟩
    exact ⟨api, by simp [hsplit], hmem, hkey⟩

end Session

theorem keys_ascending (r : Registry σ) : r.keys.Pairwise (· < ·) := Text.pairwise_keys r.entries

/-- Over every run of calls each publication is all or nothing, and at the end the registry holds
what was published since it was last cleared: each name leads to the collection of the one
publication that has it, and the names are listed once, in ascending order. -/
theorem publications_of_calls {calls : List (Call σ)}
    (hbuilt : ∀ api, .publish api ∈ calls → ∃ name clauses, Api.build name clauses = .ok api) :
    (∀ before api after, calls = before ++ .publish api :: after →
      let r := (Session.ofCalls before).registry
      r.Settles api (r.answer (.publish api)).1 (r.answer (.publish api)).2) ∧
    let s := Session.ofCalls calls
    (∀ name c, s.registry.lookup? name = some c ↔
      ∃ before api after, s.published = before ++ api :: after ∧ c ∈ api.collections ∧
        api.registryKey c.name = name ∧
          ∀ other ∈ before ++ after, name ∉ other.publishedNames) ∧
    (∀ name, name ∈ s.registry.keys ↔ ∃ api ∈ s.published, name ∈ api.publishedNames) ∧
    s.registry.keys.Pairwise (· < ·) ∧
    s.registry.size = (s.published.map fun api => api.collections.length).sum := by
  have hdistinct : ∀ api, .publish api ∈ calls → api.publishedNames.Nodup := by
    intro api hmem
    rcases hbuilt api hmem with ⟨name, clauses, hbuild⟩
    exact Api.nodup_publishedNames_of_build hbuild
  have haccounts : (Session.ofCalls calls).Accounts :=
    Session.accounts_foldl_call Session.accounts_empty hdistinct
  refine ⟨?_, ?_, ?_, keys_ascending _, haccounts.size⟩
  · intro before api after hsplit
    exact settles_answer (hdistinct api (by simp [hsplit])) _
  · intro name c
    exact haccounts.lookup?_eq_some_iff
  · intro name
    have hkeys : name ∈ (Session.ofCalls calls).registry.keys ↔
        ((Session.ofCalls calls).registry.lookup? name).isSome := by
      simp [keys, lookup?]
    exact hkeys.trans haccounts.isSome_lookup?_iff

/-- Two applications of one collection: the second is refused until the registry is cleared. -/
theorem publications_pages :
    ∃ site guide : Api Unit, Api.build "site" Api.pages = .ok site ∧
      Api.build "guide" Api.pages = .ok guide ∧
      (let r := (Session.ofCalls [.publish site]).registry
       r.Settles guide (r.answer (.publish guide)).1 (r.answer (.publish guide)).2) ∧
      let s := Session.ofCalls [.publish site, .publish guide, .clear, .publish guide]
      s.registry.keys.Pairwise (· < ·) ∧
        s.registry.size = (s.published.map fun api => api.collections.length).sum := by
  rcases isOk_iff_exists.1
    (by decide +kernel : (Api.build "site" Api.pages).isOk = true) with ⟨site, hsite⟩
  rcases isOk_iff_exists.1
    (by decide +kernel : (Api.build "guide" Api.pages).isOk = true) with ⟨guide, hguide⟩
  have hbuilt : ∀ api, .publish api ∈ [Call.publish site, .publish guide, .clear, .publish guide] →
      ∃ name clauses, Api.build name clauses = .ok api := by
    intro api hmem
    have hone : api = site ∨ api = guide := by
      simpa using hmem
    rcases hone with rfl | rfl
    · exact ⟨"site", Api.pages, hsite⟩
    · exact ⟨"guide", Api.pages, hguide⟩
  rcases publications_of_calls hbuilt with ⟨hsettles, -, -, hascending, hsize⟩
  refine ⟨site, guide, hsite, hguide, ?_, hascending, hsize⟩
  exact hsettles [.publish site] guide [.clear, .publish guide] rfl

end Registry
end ResourceRouting
