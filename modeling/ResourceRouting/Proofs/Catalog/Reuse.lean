import ResourceRouting.Proofs.Catalog.Concurrency

/-!
# Reuse — identifiers of a catalog are used once

Whatever calls are made at the same time, no identifier is given out twice, no record is put in
place of another, and an identifier whose record was destroyed is not found again.

* `System.Distinct`: what identifiers are worth in one state of a system.
* `Task.Misses`: a call that finds no record of the identifier it is about.
* `identifiers_never_reused`: both hold in every state that a new system comes to, as long as the
  sequence does not begin again.
-/

namespace ResourceRouting
namespace Catalog

variable {κ : Type}

/-! ## Distinct identifiers -/

/-- The numbers that were given out are distinct, every record is kept under an identifier of its
own, and no call is about to put a record in place of another. -/
structure System.Distinct (s : System κ) : Prop where
  numbers : (s.issued.map Store.number?).Nodup
  reached : ∀ id ∈ s.issued, ∃ n ≤ s.deployment.store.sequence, Store.number? id = some n
  images : ∀ (id : String) (image : Image), s.deployment.store.images[id]? = some image →
    image.id = id ∧ id ∈ s.issued
  instances : ∀ (id : String) (inst : Instance), s.deployment.store.instances[id]? = some inst →
    inst.id = id ∧ id ∈ s.issued ∧ id ∉ s.deployment.store.images ∧
      ∃ volume ∈ s.issued, inst.volumes = [volume]
  volumes : ∀ (id : String) (inst : Instance), s.deployment.store.instances[id]? = some inst →
    ∀ volume ∈ inst.volumes,
      volume ∉ s.deployment.store.images ∧ volume ∉ s.deployment.store.instances ∧
        ∀ (other : String) (inst' : Instance), s.deployment.store.instances[other]? = some inst' →
          volume ∈ inst'.volumes → other = id
  putImage : ∀ t ∈ s.threads, ∀ image next, t.task = .putImage image next →
    image.id ∈ s.issued ∧ image.id ∉ s.deployment.store.images
  putInstance : ∀ t ∈ s.threads, ∀ inst next, t.task = .putInstance inst next →
    inst.id ∈ s.issued ∧ inst.id ∉ s.deployment.store.instances

theorem System.Ledger.distinct {api : Api (Deployment κ)} {s : System κ}
    {place : String → Place} (h : s.Ledger api place) : s.Distinct := by
  have hbooks := h.books
  refine ⟨hbooks.nodup_numbers, fun id hid => hbooks.exists_number hid, ?_, ?_, ?_, ?_, ?_⟩
  · intro id image himage
    exact ⟨hbooks.ownImage id image himage, hbooks.issued_of_image (Store.mem_of_getElem? himage)⟩
  · intro id inst hinst
    have hmem := Store.mem_of_getElem? hinst
    have hplace := (hbooks.inst_iff id).1 hmem
    rcases hbooks.ownInst id inst hinst with ⟨hown, volume, hvolumes, hvolume⟩
    exact ⟨hown, hbooks.issued_of_inst hmem, by simp [hbooks.image_iff, hplace], volume,
      (hbooks.issued_iff volume).2 (by simp [hvolume]), hvolumes⟩
  · intro id inst hinst volume hmem
    rcases hbooks.ownInst id inst hinst with ⟨-, volume', hvolumes, hvolume⟩
    have hsame : volume = volume' := by simpa [hvolumes] using hmem
    subst hsame
    refine ⟨by simp [hbooks.image_iff, hvolume], by simp [hbooks.inst_iff, hvolume], ?_⟩
    intro other inst' hinst' hmem'
    rcases hbooks.ownInst other inst' hinst' with ⟨-, volume', hvolumes', hvolume'⟩
    have hsame : volume = volume' := by simpa [hvolumes'] using hmem'
    subst hsame
    simpa [hvolume] using hvolume'.symm
  · intro t ht image next htask
    rcases List.mem_iff_getElem?.1 ht with ⟨i, hi⟩
    rcases h.holds i t hi with ⟨owned, howns, -, hheld⟩
    rw [htask] at howns
    rcases howns with ⟨rfl, -⟩
    have hplace : place image.id = .held i := hheld _ (by simp)
    exact ⟨(hbooks.issued_iff _).2 (by simp [hplace]), by simp [hbooks.image_iff, hplace]⟩
  · intro t ht inst next htask
    rcases List.mem_iff_getElem?.1 ht with ⟨i, hi⟩
    rcases h.holds i t hi with ⟨owned, howns, -, hheld⟩
    rw [htask] at howns
    rcases howns with ⟨⟨volume, -, rfl⟩, -⟩
    have hplace : place inst.id = .held i := hheld _ (by simp)
    exact ⟨(hbooks.issued_iff _).2 (by simp [hplace]), by simp [hbooks.inst_iff, hplace]⟩

/-! ## Calls that find nothing -/

/-- The task answers with the status 404 if it is granted what it asks for and if there is no
record of an identifier whenever it looks for one. -/
def Task.Misses (id : String) : Task κ → Prop
  | done answer => answer.status? = some 404
  | look next => ∀ d, id ∉ d.store.images → id ∉ d.store.instances → (next d).Misses id
  | grant _ next => (next true).Misses id
  | removeImage removed next => removed = id ∧ (next none).Misses id
  | removeInstance removed next => removed = id ∧ (next none).Misses id
  | setState changed _ next => changed = id ∧ (next none).Misses id
  -- a call about one record neither adds one nor switches maintenance
  | _ => False

/-- The operations that are about one record. -/
def recordOperations : List String := ["show", "start", "stop", "reboot", "destroy"]

section Misses

variable {id : String}

@[simp]
theorem misses_replies {reply : Reply} :
    (Task.replies reply : Task κ).Misses id ↔ reply.status = 404 := by
  simp [Task.replies, Task.Misses, Answer.status?]

theorem Task.Misses.step {t : Task κ} {d : Deployment κ} (h : t.Misses id)
    (hooks : Hooks (Deployment κ)) (himages : id ∉ d.store.images)
    (hinstances : id ∉ d.store.instances) :
    t.isDenied hooks d = true ∨ (t.step hooks d).1.Misses id := by
  have himage : d.store.images[id]? = none := Std.ExtTreeMap.getElem?_eq_none himages
  have hinst : d.store.instances[id]? = none := Std.ExtTreeMap.getElem?_eq_none hinstances
  cases t with
  | done answer => exact .inr h
  | look next => exact .inr (h d himages hinstances)
  | grant capability next =>
      cases hgrants : hooks.grants d capability with
      | false => exact .inl (by simp [isDenied, hgrants])
      | true =>
          -- what is said of the task is said of how it goes on once it is granted
          have hnext : (next true).Misses id := h
          exact .inr (by simpa [Task.step, hgrants] using hnext)
  | removeImage removed next =>
      rcases h with ⟨rfl, hnext⟩
      exact .inr (by simpa [Task.step, Store.removeImage, himage] using hnext)
  | removeInstance removed next =>
      rcases h with ⟨rfl, hnext⟩
      exact .inr (by simpa [Task.step, Store.removeInstance, hinst] using hnext)
  | setState changed state next =>
      rcases h with ⟨rfl, hnext⟩
      exact .inr (by simpa [Task.step, Store.setState, hinst] using hnext)
  | issue | putImage | putInstance | setMaintenance => exact h.elim

theorem Duty.misses_task {duty : Duty} (h : duty.operation ∈ recordOperations) (inputs : Inputs) :
    (duty.task inputs : Task κ).Misses (inputs.text "id") := by
  cases duty with
  | showImage =>
      intro d himages hinstances
      simp [Catalog.showImage, Store.image?, Std.ExtTreeMap.getElem?_eq_none himages, notFound]
  | showInstance =>
      intro d himages hinstances
      simp [Catalog.showInstance, Store.instance?, Std.ExtTreeMap.getElem?_eq_none hinstances,
        notFound]
  | rebootInstance =>
      intro d himages hinstances
      simp [Catalog.rebootInstance, Store.instance?, Std.ExtTreeMap.getElem?_eq_none hinstances,
        notFound]
  | destroyImage | destroyInstance | startInstance | stopInstance =>
      exact ⟨rfl, by simp [notFound]⟩
  | _ => simp [operation, recordOperations] at h

/-- The only input that these operations check is the identifier. -/
theorem validate_of_fits {duty : Duty} {o : Operation (Deployment κ)} {inputs : Inputs}
    (hfits : duty.Fits o) (hoperation : duty.operation ∈ recordOperations)
    (hid : inputs["id"]? = some id) : validate inputs o.params = .ok () := by
  have hindex : duty.operation ≠ "index" := by
    intro hindex
    simp [hindex, recordOperations] at hoperation
  have hparams : duty.params = [] ∨ duty.params = [.identifier "id"] := by
    cases duty <;> simp_all [Duty.params, Duty.operation, recordOperations]
  have hmem : "id" ∈ inputs := by simp [Std.ExtTreeMap.mem_iff_isSome_getElem?, hid]
  rw [hfits.params hindex]
  rcases hparams with hparams | hparams
  · rw [hparams]
    rfl
  · simp [hparams, validate, Parameter.lacks, Parameter.offence?, Parameter.identifier,
      Parameter.declare, Parameter.apply, Parameter.allows, Parameter.isEnum, hmem]

theorem misses_checked {o : Operation (Deployment κ)} {inputs : Inputs} {body : Task κ}
    (hvalid : validate inputs o.params = .ok ()) (hbody : body.Misses id) :
    (checked o inputs body).Misses id := by
  have hvalidated : (validated o inputs body).Misses id := by
    simpa [validated, hvalid] using hbody
  intro d _ _
  dsimp only
  split
  · simp [Refusal.reply]
  · split
    · exact hvalidated
    · exact hvalidated

end Misses

section Runs

variable {routing : Routing} {hooks : Hooks (Deployment κ)} {api : Api (Deployment κ)}
  {s s' : System κ} {place : String → Place} {id : String}

theorem Call.misses_task (hbuild : build routing hooks = .ok api) {call : Call} {name : String}
    (htarget : call.target? api = some (name, id)) (hname : name ∈ recordOperations) :
    (call.task api).Misses id := by
  rcases exists_duty_of_target? hbuild htarget with ⟨duty, o, inputs, hfits, rfl, hid, htask⟩
  have hmisses : (duty.task inputs : Task κ).Misses id := by
    have htext : inputs.text "id" = id := by simp [Inputs.text, hid]
    rw [← htext]
    exact duty.misses_task hname inputs
  simpa [htask] using misses_checked (validate_of_fits hfits hname hid) hmisses

namespace System

/-- The calls from a certain one on that are about an identifier find nothing. -/
def MissesFrom (api : Api (Deployment κ)) (s : System κ) (first : Nat) (id : String) : Prop :=
  ∀ i t, first ≤ i → s.threads[i]? = some t → ∀ name ∈ recordOperations,
    t.call.target? api = some (name, id) → t.denied = true ∨ t.task.Misses id

theorem MissesFrom.step (hbuild : build routing hooks = .ok api) {first : Nat}
    (h : s.MissesFrom api first id) (hstep : Step api s s')
    (himages : id ∉ s.deployment.store.images)
    (hinstances : id ∉ s.deployment.store.instances) : s'.MissesFrom api first id := by
  intro i t hi ht name hname htarget
  cases hstep with
  | call call =>
      rcases made_cases ht with ht | ⟨rfl, rfl⟩
      · exact h i t hi ht name hname htarget
      · exact .inr (Call.misses_task hbuild htarget hname)
  | advance j t' ht' =>
      rcases advanced_cases ht with ⟨hj, hsame⟩ | ⟨rfl, hcall, htask, hdenied⟩
      · exact h i t hi hsame name hname htarget
      · rw [hcall] at htarget
        rcases h i t' hi ht' name hname htarget with hbefore | hmisses
        · exact .inl (by simp [hdenied, hbefore])
        · rcases hmisses.step api.hooks himages hinstances with hnow | hmisses'
          · exact .inl (by simp [hdenied, hnow])
          · exact .inr (by simpa [htask] using hmisses')
  | host host => exact h i t hi ht name hname htarget

/-- What is spent remains so, and calls that are made after it find nothing. -/
theorem Ledger.missesFrom (hbuild : build routing hooks = .ok api) (h : s.Ledger api place)
    (hspent : place id = .spent) (hreach : Reaches api s s')
    (hfew : s'.issued.length < twoTo 64) :
    s'.MissesFrom api s.threads.length id ∧
      ∃ place', s'.Ledger api place' ∧ place' id = .spent := by
  induction hreach with
  | refl =>
      -- no call has been made since
      refine ⟨?_, place, h, hspent⟩
      intro i t hi ht
      simp [List.getElem?_eq_none hi] at ht
  | tail _ hstep ih =>
      rcases ih (Nat.lt_of_le_of_lt hstep.issued_le hfew) with ⟨hmisses, place', hledger, hspent'⟩
      have himages := (hledger.books.image_iff id).not.2 (by simp [hspent'])
      have hinstances := (hledger.books.inst_iff id).not.2 (by simp [hspent'])
      rcases hledger.step hbuild hstep hfew with ⟨place'', hledger', hkept⟩
      exact ⟨hmisses.step hbuild hstep himages hinstances, place'', hledger', hkept id hspent'⟩

/-- However the system goes on, calls about an identifier that are made from now on are answered
with the status 404, unless a capability that they ask for is not granted. -/
def Forgotten (api : Api (Deployment κ)) (s : System κ) (id : String) : Prop :=
  ∀ s', Reaches api s s' → s'.issued.length < twoTo 64 →
    ∀ i t, s.threads.length ≤ i → s'.threads[i]? = some t → ∀ name ∈ recordOperations,
      t.call.target? api = some (name, id) → t.denied = false →
      ∀ answer, t.task = .done answer → answer.status? = some 404

theorem Ledger.forgotten (hbuild : build routing hooks = .ok api) (h : s.Ledger api place)
    (hspent : place id = .spent) : s.Forgotten api id := by
  intro s' hreach hfew i t hi ht name hname htarget hgranted answer hdone
  rcases (h.missesFrom hbuild hspent hreach hfew).1 i t hi ht name hname htarget with
    hdenied | hmisses
  · simp [hgranted] at hdenied
  · rw [hdone] at hmisses
    exact hmisses

/-- Whatever calls were made, a request finds the store in order: a record that it adds has an
identifier that no other record has. -/
theorem numbered_of_reaches (hbuild : build routing hooks = .ok api) {start : System κ}
    (hstart : start.Starts) (hreach : Reaches api start s)
    (hroom : s.issued.length + 2 < twoTo 64) : s.deployment.store.Numbered := by
  rcases exists_ledger hbuild hstart hreach (by omega) with ⟨place, hledger⟩
  have hbooks := hledger.books
  have hsequence := hbooks.sequence
  exact ⟨fun id hid => hbooks.exists_number (hbooks.issued_of_image hid),
    fun id hid => hbooks.exists_number (hbooks.issued_of_inst hid), by omega⟩

end System

/-- Start from the empty or the seeded store, and let calls be made and go on in any order, with
changes of the host in between. As long as the sequence does not begin again, the numbers of all
identifiers that were given out are distinct, every record is kept under its own identifier, every
instance has one volume, and no call puts a record in place of another. An identifier is forgotten
once a call that destroys its record has answered with the status 204. A call whose steps follow
each other does what the program does at once, and every call comes to its end if it goes on. -/
theorem identifiers_never_reused (hbuild : build routing hooks = .ok api) {start : System κ}
    (hstart : start.Starts) (hreach : System.Reaches api start s)
    (hfew : s.issued.length < twoTo 64) :
    (∀ (call : Call) (d : Deployment κ), (call.task api).run api.hooks d = call.atOnce api d) ∧
    (∀ t ∈ s.threads, System.EndsAlone api t.task) ∧
    s.Distinct ∧
    ∀ t ∈ s.threads, ∀ id answer, t.call.target? api = some ("destroy", id) →
      t.task = .done answer → answer.status? = some 204 → s.Forgotten api id := by
  rcases System.exists_ledger hbuild hstart hreach hfew with ⟨place, hledger⟩
  refine ⟨run_task hbuild, fun t _ => System.endsAlone api t.task, hledger.distinct, ?_⟩
  intro t ht id answer htarget hdone hstatus
  rcases List.mem_iff_getElem?.1 ht with ⟨i, hi⟩
  rcases hledger.destroys i t hi id htarget with hawaits | hspent
  · rw [hdone] at hawaits
    exact absurd hstatus hawaits
  · exact hledger.forgotten hbuild hspent

end Runs

/-- The request that destroys the first seeded image. -/
def deletion : Call := .request .delete "/api/images/img-1" .empty

/-- Once the first seeded image is destroyed, its identifier is forgotten. -/
theorem identifiers_never_reused_deletion :
    ∃ api : Api (Deployment Unit), build bare {} = .ok api ∧ ∃ s : System Unit,
      System.Reaches api (.seeded ()) s ∧ s.issued.length < twoTo 64 ∧ s.Distinct ∧
        s.Forgotten api "img-1" := by
  have hall : ((build bare {}).toOption.any fun api : Api (Deployment Unit) =>
      decide (deletion.target? api = some ("destroy", "img-1")) &&
      decide (((deletion.task api).run api.hooks ⟨.seeded, ()⟩).1.status? = some 204) &&
      decide ((deletion.task api).drawn api.hooks ⟨.seeded, ()⟩ = [])) = true := by
    decide +kernel
  rcases exists_build_bare with ⟨api, hbuild⟩
  simp only [hbuild, Except.toOption, Option.any_some, Bool.and_eq_true, decide_eq_true_eq] at hall
  rcases hall with ⟨⟨htarget, hstatus⟩, hdrawn⟩
  -- the request is made, and then goes on alone
  have hmade : System.Reaches api (.seeded ()) ((System.seeded ()).made api deletion) :=
    .single (.call _ deletion)
  rcases System.endsAlone api (deletion.task api) ((System.seeded ()).made api deletion) 0
      { call := deletion, task := deletion.task api } rfl rfl with ⟨denied, hended⟩
  have hreach := hmade.trans hended
  have hfew : (["img-1", "img-2", "inst-3", "vol-4"] ++
      (deletion.task api).drawn api.hooks ⟨.seeded, ()⟩).length < twoTo 64 := by
    simp [hdrawn, twoTo]
  have hreused := identifiers_never_reused hbuild (.seeded ()) hreach hfew
  exact ⟨api, hbuild, _, hreach, hfew, hreused.2.2.1,
    hreused.2.2.2 _ (List.mem_singleton_self _) "img-1" _ htarget rfl hstatus⟩

end Catalog
end ResourceRouting
