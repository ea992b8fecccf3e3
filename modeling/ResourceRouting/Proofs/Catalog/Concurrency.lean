import Mathlib.Logic.Relation
import ResourceRouting.Proofs.Catalog.Books
import ResourceRouting.Proofs.Catalog.Tasks

/-!
# Concurrency — calls on a catalog that are made at the same time

A `System` is a deployment with all the calls that were made on it, each as far as it has come.
In one step a call is made, or one of the calls goes on by one step of its task, or the host
changes what it keeps. Nothing else is agreed between calls.

* `Task.Owns`: a task puts in what it was given, and each of it once.
* `Ledger`: what every step keeps up between the store, the identifiers that were given out, and
  the calls that hold them.
* `exists_ledger`: so it is in every state that a new system comes to.
-/

namespace ResourceRouting
namespace Catalog

variable {κ : Type}

/-! ## What tasks do with identifiers -/

namespace Task

/-- The task puts in records under the identifiers that it holds or is still to be given, the last
one first, each of them once. -/
def Owns : Task κ → List String → Prop
  | done _, _ => True
  | look next, owned => ∀ d, (next d).Owns owned
  | grant _ next, owned => ∀ granted, (next granted).Owns owned
  | issue _ next, owned => ∀ id, (next id).Owns (id :: owned)
  | putImage image next, owned => owned = [image.id] ∧ next.Owns []
  | putInstance inst next, owned =>
      (∃ volume, inst.volumes = [volume] ∧ owned = [volume, inst.id]) ∧ next.Owns []
  | removeImage _ next, owned => ∀ removed, (next removed).Owns owned
  | removeInstance _ next, owned => ∀ removed, (next removed).Owns owned
  | setState _ _ next, owned => ∀ changed, (next changed).Owns owned
  | setMaintenance _ next, owned => next.Owns owned

/-- The task removes the record of an identifier before it answers with the status 204. -/
def Awaits (id : String) : Task κ → Prop
  | done answer => answer.status? ≠ some 204
  | look next => ∀ d, (next d).Awaits id
  | grant _ next => ∀ granted, (next granted).Awaits id
  | removeImage removed next => removed = id ∧ (next none).Awaits id
  | removeInstance removed next => removed = id ∧ (next none).Awaits id
  -- a call that destroys does nothing else
  | _ => False

end Task

/-! ## Systems -/

/-- A call under way. `denied` tells whether it asked for a capability that was not granted. -/
structure Thread (κ : Type) where
  call : Call
  task : Task κ
  denied : Bool := false

/-- A deployment with the calls that were made on it, in this order, and all identifiers that were
given out. -/
structure System (κ : Type) where
  deployment : Deployment κ
  threads : List (Thread κ) := []
  issued : List String := []

namespace System

/-- Makes a call. -/
def made (api : Api (Deployment κ)) (s : System κ) (call : Call) : System κ :=
  { s with threads := s.threads ++ [{ call, task := call.task api }] }

/-- Takes the next step of one of the calls. -/
def advanced (hooks : Hooks (Deployment κ)) (s : System κ) (i : Nat) (t : Thread κ) : System κ :=
  { deployment := (t.task.step hooks s.deployment).2
    threads := s.threads.set i
      { t with
        task := (t.task.step hooks s.deployment).1
        denied := t.denied || t.task.isDenied hooks s.deployment }
    issued := s.issued ++ t.task.draws s.deployment }

inductive Step (api : Api (Deployment κ)) : System κ → System κ → Prop
  | call (s : System κ) (call : Call) : Step api s (s.made api call)
  | advance (s : System κ) (i : Nat) (t : Thread κ) (ht : s.threads[i]? = some t) :
      Step api s (s.advanced api.hooks i t)
  | host (s : System κ) (host : κ) :
      Step api s { s with deployment := { s.deployment with host } }

/-- Whatever steps lead from one system to another. -/
abbrev Reaches (api : Api (Deployment κ)) : System κ → System κ → Prop :=
  Relation.ReflTransGen (Step api)

/-- The empty store, before any call. -/
def empty (host : κ) : System κ := { deployment := ⟨.empty, host⟩ }

/-- The seeded store, before any call. Its records were given four identifiers. -/
def seeded (host : κ) : System κ :=
  { deployment := ⟨.seeded, host⟩
    issued := ["img-1", "img-2", "inst-3", "vol-4"] }

inductive Starts : System κ → Prop
  | empty (host : κ) : Starts (empty host)
  | seeded (host : κ) : Starts (seeded host)

/-! ### Calls that go on alone -/

section Alone

variable {api : Api (Deployment κ)}

/-- A call with this task comes to its end if it is the only one that goes on. -/
def EndsAlone (api : Api (Deployment κ)) (t : Task κ) : Prop :=
  ∀ (s : System κ) (i : Nat) (thread : Thread κ), s.threads[i]? = some thread →
    thread.task = t → ∃ denied, Reaches api s
      { deployment := (t.run api.hooks s.deployment).2
        threads := s.threads.set i
          { thread with
            task := .done (t.run api.hooks s.deployment).1
            denied }
        issued := s.issued ++ t.drawn api.hooks s.deployment }

theorem EndsAlone.of_step {t : Task κ} (h : ∀ d, EndsAlone api (t.step api.hooks d).1) :
    EndsAlone api t := by
  rintro s i thread hi rfl
  have hlt : i < s.threads.length := (List.getElem?_eq_some_iff.1 hi).1
  rcases h s.deployment (s.advanced api.hooks i thread) i _ (List.getElem?_set_self hlt) rfl with
    ⟨denied, hreach⟩
  refine ⟨denied, .head (.advance s i thread hi) ?_⟩
  simpa [advanced, Task.run_step, Task.drawn_step] using hreach

theorem endsAlone (api : Api (Deployment κ)) (t : Task κ) : EndsAlone api t := by
  induction t with
  | done answer =>
      rintro s i ⟨call, _, denied⟩ hi rfl
      rcases List.getElem?_eq_some_iff.1 hi with ⟨hlt, hthread⟩
      have hkept : s.threads.set i ⟨call, .done answer, denied⟩ = s.threads := by
        simp [← hthread]
      exact ⟨denied, by simpa [Task.run, Task.drawn, hkept] using Relation.ReflTransGen.refl⟩
  | look next ih => exact .of_step fun d => ih d
  | grant capability next ih => exact .of_step fun d => ih _
  | issue sort next ih => exact .of_step fun d => ih _
  | putImage image next ih => exact .of_step fun d => ih
  | putInstance inst next ih => exact .of_step fun d => ih
  | removeImage id next ih => exact .of_step fun d => ih _
  | removeInstance id next ih => exact .of_step fun d => ih _
  | setState id state next ih => exact .of_step fun d => ih _
  | setMaintenance enabled next ih => exact .of_step fun d => ih

end Alone

end System

/-! ## What calls hold -/

/-- The identifiers that a call holds are those that its task puts in. -/
def Holds (place : String → Place) (i : Nat) (t : Task κ) : Prop :=
  ∃ owned, t.Owns owned ∧ owned.Nodup ∧ ∀ id ∈ owned, place id = .held i

/-- What one call changes about places: another call keeps what it holds, and what is spent
remains so. -/
structure Moves (i : Nat) (place place' : String → Place) : Prop where
  others : ∀ j, j ≠ i → ∀ id, place id = .held j → place' id = .held j
  spent : ∀ id, place id = .spent → place' id = .spent

namespace Moves

variable {i : Nat} {place place' place'' : String → Place}

theorem refl : Moves i place place := ⟨fun _ _ _ h => h, fun _ h => h⟩

theorem trans (h : Moves i place place') (h' : Moves i place' place'') :
    Moves i place place'' :=
  ⟨fun j hj id hid => h'.others j hj id (h.others j hj id hid),
    fun id hid => h'.spent id (h.spent id hid)⟩

theorem update {id : String} (hothers : ∀ j, j ≠ i → place id ≠ .held j)
    (hspent : place id ≠ .spent) (p : Place) : Moves i place (Function.update place id p) := by
  refine ⟨?_, ?_⟩
  · intro j hj other hother
    have hne : other ≠ id := by
      rintro rfl
      exact hothers j hj hother
    simpa [hne] using hother
  · intro other hother
    have hne : other ≠ id := by
      rintro rfl
      exact hspent hother
    simpa [hne] using hother

theorem put {id : String} (hheld : place id = .held i) (p : Place) :
    Moves i place (Function.update place id p) := by
  refine update ?_ (by simp [hheld]) p
  intro j hj
  simpa [hheld] using Ne.symm hj

end Moves

theorem held_update {i : Nat} {place : String → Place} {owned : List String} {id : String}
    (hheld : ∀ other ∈ owned, place other = .held i) (hid : place id ≠ .held i) (p : Place) :
    ∀ other ∈ owned, Function.update place id p other = .held i := by
  intro other hother
  have hne : other ≠ id := by
    rintro rfl
    exact hid (hheld other hother)
  simpa [hne] using hheld other hother

theorem Holds.move {i j : Nat} {place place' : String → Place} {t : Task κ}
    (h : Holds place j t) (hmoves : Moves i place place') (hj : j ≠ i) : Holds place' j t := by
  rcases h with ⟨owned, howns, hnodup, hheld⟩
  exact ⟨owned, howns, hnodup, fun id hid => hmoves.others j hj id (hheld id hid)⟩

/-- What is known of a task's step: the books are kept, the others keep what they hold, and so
does the task itself. A task that awaits a removal still does, unless this was it. -/
structure Stepped (hooks : Hooks (Deployment κ)) (issued : List String) (i : Nat) (t : Task κ)
    (d : Deployment κ) (place place' : String → Place) : Prop where
  books : Books place' (issued ++ t.draws d) (t.step hooks d).2.store
  moves : Moves i place place'
  holds : Holds place' i (t.step hooks d).1
  awaits : ∀ id, t.Awaits id → (t.step hooks d).1.Awaits id ∨ place' id = .spent

/-- One step of one call. -/
theorem Books.exists_stepped {hooks : Hooks (Deployment κ)} {place : String → Place}
    {issued : List String} {i : Nat} {t : Task κ} {d : Deployment κ}
    (hbooks : Books place issued d.store) (hholds : Holds place i t)
    (hroom : (issued ++ t.draws d).length < twoTo 64) :
    ∃ place', Stepped hooks issued i t d place place' := by
  rcases hholds with ⟨owned, howns, hnodup, hheld⟩
  cases t with
  | done answer =>
      exact ⟨place, by simpa [Task.draws, Task.step] using hbooks, .refl,
        ⟨owned, howns, hnodup, hheld⟩, fun id hawaits => .inl hawaits⟩
  | look next =>
      exact ⟨place, by simpa [Task.draws, Task.step] using hbooks, .refl,
        ⟨owned, howns d, hnodup, hheld⟩, fun id hawaits => .inl (hawaits d)⟩
  | grant capability next =>
      exact ⟨place, by simpa [Task.draws, Task.step] using hbooks, .refl,
        ⟨owned, howns _, hnodup, hheld⟩, fun id hawaits => .inl (hawaits _)⟩
  | issue sort next =>
      have hroom' : issued.length + 1 < twoTo 64 := by simpa [Task.draws] using hroom
      have hfresh := hbooks.place_next hroom' sort
      -- what has not been given out is held by nobody, by this call neither
      have hnew : (d.store.issue sort).1 ∉ owned := by
        intro hmem
        simpa [hfresh] using hheld _ hmem
      have hheld' : ∀ id ∈ (d.store.issue sort).1 :: owned,
          Function.update place (d.store.issue sort).1 (.held i) id = .held i :=
        List.forall_mem_cons.2 ⟨by simp, held_update hheld (by simp [hfresh]) _⟩
      exact ⟨_, hbooks.issue hroom' sort i, .update (by simp [hfresh]) (by simp [hfresh]) _,
        ⟨_, howns _, List.nodup_cons.2 ⟨hnew, hnodup⟩, hheld'⟩, fun id hawaits => hawaits.elim⟩
  | putImage image next =>
      rcases howns with ⟨rfl, hnext⟩
      have himage : place image.id = .held i := hheld _ (by simp)
      exact ⟨_, by simpa [Task.draws, Task.step] using hbooks.putImage himage, .put himage _,
        ⟨[], hnext, by simp, by simp⟩, fun id hawaits => hawaits.elim⟩
  | putInstance inst next =>
      -- the volume goes first, while the call still holds the identifier of the instance
      rcases howns with ⟨⟨volume, hvolumes, rfl⟩, hnext⟩
      have hinst : place inst.id = .held i := hheld _ (by simp)
      have hvolume : place volume = .held i := hheld _ (by simp)
      have hne : volume ≠ inst.id := by simpa using hnodup
      have hinst' : Function.update place volume (.volume inst.id) inst.id = .held i := by
        simpa [Ne.symm hne] using hinst
      have hput := hbooks.putInstance hinst hvolume hvolumes hne
      exact ⟨_, by simpa [Task.draws, Task.step] using hput,
        (Moves.put hvolume _).trans (.put hinst' _), ⟨[], hnext, by simp, by simp⟩,
        fun id hawaits => hawaits.elim⟩
  | removeImage id next =>
      by_cases hmem : id ∈ d.store.images
      · have hplace := (hbooks.image_iff id).1 hmem
        refine ⟨_, by simpa [Task.draws, Task.step] using hbooks.removeImage hmem,
          .update (by simp [hplace]) (by simp [hplace]) _,
          ⟨owned, howns _, hnodup, held_update hheld (by simp [hplace]) _⟩, ?_⟩
        rintro other ⟨rfl, -⟩
        exact .inr (by simp)
      · -- nothing is removed, so the store is as it was
        have hnone : d.store.images[id]? = none := Std.ExtTreeMap.getElem?_eq_none hmem
        refine ⟨place, ?_, .refl, ⟨owned, howns _, hnodup, hheld⟩, ?_⟩
        · simpa [Task.draws, Task.step, Store.removeImage, Store.erase_of_none hnone] using hbooks
        · rintro other ⟨rfl, hawaits⟩
          exact .inl (by simpa [Task.step, Store.removeImage, hnone] using hawaits)
  | removeInstance id next =>
      by_cases hmem : id ∈ d.store.instances
      · have hplace := (hbooks.inst_iff id).1 hmem
        refine ⟨_, by simpa [Task.draws, Task.step] using hbooks.removeInstance hmem,
          .update (by simp [hplace]) (by simp [hplace]) _,
          ⟨owned, howns _, hnodup, held_update hheld (by simp [hplace]) _⟩, ?_⟩
        rintro other ⟨rfl, -⟩
        exact .inr (by simp)
      · have hnone : d.store.instances[id]? = none := Std.ExtTreeMap.getElem?_eq_none hmem
        refine ⟨place, ?_, .refl, ⟨owned, howns _, hnodup, hheld⟩, ?_⟩
        · simpa [Task.draws, Task.step, Store.removeInstance, Store.erase_of_none hnone]
            using hbooks
        · rintro other ⟨rfl, hawaits⟩
          exact .inl (by simpa [Task.step, Store.removeInstance, hnone] using hawaits)
  | setState id state next =>
      exact ⟨place, by simpa [Task.draws, Task.step] using hbooks.setState id state, .refl,
        ⟨owned, howns _, hnodup, hheld⟩, fun other hawaits => hawaits.elim⟩
  | setMaintenance enabled next =>
      exact ⟨place, by simpa [Task.draws, Task.step] using hbooks.setMaintenance enabled, .refl,
        ⟨owned, howns, hnodup, hheld⟩, fun other hawaits => hawaits.elim⟩

/-! ## Calls that begin -/

section Tasks

variable {id : String} {owned : List String}

@[simp]
theorem owns_replies (reply : Reply) : (Task.replies reply : Task κ).Owns owned := trivial

@[simp]
theorem awaits_replies {reply : Reply} :
    (Task.replies reply : Task κ).Awaits id ↔ reply.status ≠ 204 := by
  simp [Task.replies, Task.Awaits, Answer.status?]

@[simp]
theorem owns_addImage (name arch owner : String) (next : Image → Task κ) :
    (addImage name arch owner next).Owns [] ↔ ∀ id, (next { id, name, arch, owner }).Owns [] := by
  simp [addImage, Task.Owns]

@[simp]
theorem owns_addInstance (imageId : String) (next : Instance → Task κ) :
    (addInstance imageId next).Owns [] ↔
      ∀ id volume, (next { id, imageId, state := .running, volumes := [volume] }).Owns [] := by
  simp [addInstance, Task.Owns]

theorem owns_changing (state : InstanceState) : (changing id state : Task κ).Owns [] := by
  intro changed
  cases changed <;> simp

theorem Duty.owns_task (duty : Duty) (inputs : Inputs) : (duty.task inputs : Task κ).Owns [] := by
  cases duty with
  | createImage => simp [task]
  | createInstance =>
      intro d
      cases himage : d.store.image? (inputs.text "image_id") <;> simp [himage]
  | destroyImage | destroyInstance =>
      intro removed
      cases removed <;> simp
  | startInstance | stopInstance => exact owns_changing _
  | listImages | showImage | listInstances | showInstance | rebootInstance | listVolumes =>
      exact fun _ => owns_replies _

/-- A body that destroys has removed the record of its identifier before it answers so. -/
theorem Duty.awaits_task {duty : Duty} (h : duty.operation = "destroy") (inputs : Inputs) :
    (duty.task inputs : Task κ).Awaits (inputs.text "id") := by
  cases duty with
  | destroyImage | destroyInstance => exact ⟨rfl, by simp [notFound]⟩
  | _ => simp [operation] at h

theorem owns_checked (o : Operation (Deployment κ)) (inputs : Inputs) {body : Task κ}
    (hbody : body.Owns owned) : (checked o inputs body).Owns owned := by
  have hvalidated : (validated o inputs body).Owns owned := by
    unfold validated
    split
    · simp
    · exact hbody
  intro d
  dsimp only
  split
  · simp
  · split
    · exact hvalidated
    · rintro (_ | _)
      · simp
      · exact hvalidated

theorem awaits_checked (o : Operation (Deployment κ)) (inputs : Inputs) {body : Task κ}
    (hbody : body.Awaits id) : (checked o inputs body).Awaits id := by
  have hvalidated : (validated o inputs body).Awaits id := by
    unfold validated
    split
    · simp [Refusal.reply, ValidationError.status]
    · exact hbody
  intro d
  dsimp only
  split
  · simp [Refusal.reply]
  · split
    · exact hvalidated
    · rintro (_ | _)
      · simp [Refusal.reply, Reply.withHeader]
      · exact hvalidated

end Tasks

namespace Call

variable {routing : Routing} {hooks : Hooks (Deployment κ)} {api : Api (Deployment κ)}

theorem owns_task (api : Api (Deployment κ)) (call : Call) : (call.task api).Owns [] := by
  cases call with
  | request method path inputs =>
      simp only [task]
      split
      · simp
      · unfold respond
        split
        · split
          · exact owns_checked _ _ (Duty.owns_task _ _)
          · simp
        · simp
  | insertImage | insertInstance => simp [task, Task.Owns]
  | setMaintenance enabled => trivial
  | images | image | instances | inst | inMaintenance => exact fun _ => trivial

/-- What a call with a target does. -/
theorem exists_duty_of_target? (hbuild : build routing hooks = .ok api) {call : Call}
    {name id : String} (htarget : call.target? api = some (name, id)) :
    ∃ (duty : Duty) (o : Operation (Deployment κ)) (inputs : Inputs),
      duty.Fits o ∧ duty.operation = name ∧ inputs["id"]? = some id ∧
        call.task api = checked o inputs (duty.task inputs) := by
  cases call with
  | request method path inputs =>
      simp only [target?] at htarget
      split at htarget
      · rename_i boundMethod boundPath o captures hfind
        rcases exists_duty_of_find? hbuild hfind rfl with ⟨duty, hfits, -⟩
        rcases Option.map_eq_some_iff.1 htarget with ⟨given, hgiven, hsame⟩
        cases hsame
        exact ⟨duty, o, _, hfits, hfits.operation.symm, hgiven,
          by simp [task, hfind, respond, Duty.of?_of_fits hfits]⟩
      · simp at htarget
  | _ => simp [target?] at htarget

theorem awaits_task (hbuild : build routing hooks = .ok api) {call : Call} {id : String}
    (htarget : call.target? api = some ("destroy", id)) : (call.task api).Awaits id := by
  rcases exists_duty_of_target? hbuild htarget with ⟨duty, o, inputs, -, hoperation, hid, htask⟩
  have hawaits : (duty.task inputs : Task κ).Awaits id := by
    have htext : inputs.text "id" = id := by simp [Inputs.text, hid]
    rw [← htext]
    exact duty.awaits_task hoperation inputs
  simpa [htask] using awaits_checked o inputs hawaits

end Call

/-! ## What every step keeps up -/

/-- The store agrees with the books, every call holds what its task puts in, and every call that
destroys has removed the record it is about once it has answered so. -/
structure System.Ledger (api : Api (Deployment κ)) (s : System κ) (place : String → Place) :
    Prop where
  books : Books place s.issued s.deployment.store
  holds : ∀ (i : Nat) (t : Thread κ), s.threads[i]? = some t → Holds place i t.task
  destroys : ∀ (i : Nat) (t : Thread κ), s.threads[i]? = some t → ∀ id,
    t.call.target? api = some ("destroy", id) → t.task.Awaits id ∨ place id = .spent

namespace System

variable {routing : Routing} {hooks : Hooks (Deployment κ)} {api : Api (Deployment κ)}
  {s s' : System κ} {place : String → Place}

theorem Step.issued_le (h : Step api s s') : s.issued.length ≤ s'.issued.length := by
  cases h with
  | call call => exact Nat.le_refl _
  | advance i t ht => simp [advanced]
  | host host => exact Nat.le_refl _

/-- A call is one that was under way, or the one that is made. -/
theorem made_cases {call : Call} {i : Nat} {t : Thread κ}
    (h : (s.made api call).threads[i]? = some t) :
    s.threads[i]? = some t ∨ i = s.threads.length ∧ t = { call, task := call.task api } := by
  rcases Nat.lt_or_ge i s.threads.length with hi | hi
  · exact .inl (by simpa [made, List.getElem?_append_left hi] using h)
  · have hlast : ({ call, task := call.task api } : Thread κ) = t ∧ i - s.threads.length = 0 := by
      simpa [made, List.getElem?_append_right hi, List.getElem?_singleton, and_comm] using h
    exact .inr ⟨by omega, hlast.1.symm⟩

theorem advanced_cases {hooks : Hooks (Deployment κ)} {i j : Nat} {t t' : Thread κ}
    (h : (s.advanced hooks i t).threads[j]? = some t') :
    j ≠ i ∧ s.threads[j]? = some t' ∨
      j = i ∧ t'.call = t.call ∧ t'.task = (t.task.step hooks s.deployment).1 ∧
        t'.denied = (t.denied || t.task.isDenied hooks s.deployment) := by
  by_cases hj : j = i
  · subst hj
    simp only [advanced, List.getElem?_set, ↓reduceIte, Option.ite_none_right_eq_some,
      Option.some.injEq] at h
    rcases h with ⟨-, rfl⟩
    exact .inr ⟨rfl, rfl, rfl, rfl⟩
  · exact .inl ⟨hj, by simpa [advanced, List.getElem?_set_ne (Ne.symm hj)] using h⟩

theorem Ledger.step (hbuild : build routing hooks = .ok api) (h : s.Ledger api place)
    (hstep : Step api s s') (hfew : s'.issued.length < twoTo 64) :
    ∃ place', s'.Ledger api place' ∧ ∀ id, place id = .spent → place' id = .spent := by
  cases hstep with
  | call call =>
      refine ⟨place, ⟨h.books, ?_, ?_⟩, fun id hid => hid⟩
      · intro i t ht
        rcases made_cases ht with ht | ⟨rfl, rfl⟩
        · exact h.holds i t ht
        · exact ⟨[], call.owns_task api, by simp, by simp⟩
      · intro i t ht id htarget
        rcases made_cases ht with ht | ⟨rfl, rfl⟩
        · exact h.destroys i t ht id htarget
        · exact .inl (Call.awaits_task hbuild htarget)
  | advance i t ht =>
      rcases h.books.exists_stepped (h.holds i t ht) hfew with ⟨place', hstepped⟩
      refine ⟨place', ⟨hstepped.books, ?_, ?_⟩, hstepped.moves.spent⟩
      · intro j t' ht'
        -- either another call, which keeps what it holds, or the one that went on
        rcases advanced_cases ht' with ⟨hj, hsame⟩ | ⟨rfl, -, htask, -⟩
        · exact (h.holds j t' hsame).move hstepped.moves hj
        · simpa [htask] using hstepped.holds
      · intro j t' ht' id htarget
        rcases advanced_cases ht' with ⟨hj, hsame⟩ | ⟨rfl, hcall, htask, -⟩
        · exact (h.destroys j t' hsame id htarget).imp_right (hstepped.moves.spent id)
        · rw [hcall] at htarget
          rcases h.destroys j t ht id htarget with hawaits | hspent
          · simpa [htask] using hstepped.awaits id hawaits
          · exact .inr (hstepped.moves.spent id hspent)
  | host host =>
      exact ⟨place, ⟨h.books, h.holds, h.destroys⟩, fun id hid => hid⟩

theorem Starts.exists_ledger (h : s.Starts) : ∃ place, s.Ledger api place := by
  cases h with
  | empty host => exact ⟨_, .empty, by simp [System.empty], by simp [System.empty]⟩
  | seeded host => exact ⟨_, .seeded, by simp [System.seeded], by simp [System.seeded]⟩

/-- A new system is in order for as long as the sequence does not begin again. -/
theorem exists_ledger (hbuild : build routing hooks = .ok api) (hstart : s.Starts)
    (hreach : Reaches api s s') (hfew : s'.issued.length < twoTo 64) :
    ∃ place, s'.Ledger api place := by
  induction hreach with
  | refl => exact hstart.exists_ledger
  | tail _ hstep ih =>
      rcases ih (Nat.lt_of_le_of_lt hstep.issued_le hfew) with ⟨place, hledger⟩
      rcases hledger.step hbuild hstep hfew with ⟨place', hledger', -⟩
      exact ⟨place', hledger'⟩

end System
end Catalog
end ResourceRouting
