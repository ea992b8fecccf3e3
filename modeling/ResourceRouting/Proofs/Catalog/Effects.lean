import ResourceRouting.Proofs.Catalog.Duties
import ResourceRouting.Proofs.Catalog.Identifiers

/-!
# Effects — what a request does to the store of a catalog

A request adds or removes one record, or changes the state of one instance, or does nothing at
all. `Store.Changes` lists the changes; each of them keeps everything that it does not name.

* `Effect`: a request by a method that only reads, and one that is answered with an error, does
  nothing, and any other makes one change at most.
* `Duty.effect_answer`: so it is for every duty.
* `handle_changes_one_record`: and so for every request to a built catalog, under any settings.
-/

namespace ResourceRouting
namespace Catalog

/-! ## Changes -/

namespace Store

/-- The changes that one request may make. A record is added under the identifier that the store
issues next; unless the sequence has run through, no record has that identifier yet. -/
inductive Changes (s : Store) : Store → Prop
  | nothing : Changes s s
  | imageAdded (image : Image) (hid : image.id = (s.issue "img").1)
      (hfresh : s.Numbered → image.id ∉ s.images) :
      Changes s { s with
        images := s.images.insert image.id image
        sequence := (s.issue "img").2.sequence }
  | imageRemoved (id : String) (hmem : id ∈ s.images) :
      Changes s { s with images := s.images.erase id }
  | instanceAdded (inst : Instance) (hid : inst.id = (s.issue "inst").1)
      (hfresh : s.Numbered → inst.id ∉ s.instances) :
      Changes s { s with
        instances := s.instances.insert inst.id inst
        sequence := ((s.issue "inst").2.issue "vol").2.sequence }
  | instanceRemoved (id : String) (hmem : id ∈ s.instances) :
      Changes s { s with instances := s.instances.erase id }
  | stateChanged (id : String) (inst : Instance) (hinst : s.instances[id]? = some inst)
      (state : InstanceState) :
      Changes s { s with instances := s.instances.insert id { inst with state } }

/-- The identifier that is issued next is not in use, whatever its sort. -/
theorem Numbered.issue_fresh {s : Store} (h : s.Numbered) (sort : String) :
    (s.issue sort).1 ∉ s.images ∧ (s.issue sort).1 ∉ s.instances := by
  have hroom := h.room
  have hnumber : s.nextNumber = s.sequence + 1 := nextNumber_of_lt (by omega)
  exact h.fresh (by omega) sort

end Store

/-! ## Effects of duties -/

/-- How a reply is related to the stores before and after it. -/
structure Effect (method : Method) (s : Store) (reply : Reply) (s' : Store) : Prop where
  kept : (method ≠ .post ∧ method ≠ .delete) ∨ 400 ≤ reply.status → s' = s
  changes : s.Changes s'

theorem Effect.keeping (method : Method) (s : Store) (reply : Reply) :
    Effect method s reply s :=
  ⟨fun _ => rfl, .nothing⟩

theorem Effect.changing {method : Method} {s s' : Store} {reply : Reply}
    (hmethod : method = .post ∨ method = .delete) (hstatus : reply.status < 400)
    (hchanges : s.Changes s') : Effect method s reply s' := by
  refine ⟨?_, hchanges⟩
  rintro (⟨hpost, hdelete⟩ | herror)
  · rcases hmethod with rfl | rfl
    · exact absurd rfl hpost
    · exact absurd rfl hdelete
  · omega

section Bodies

variable (inputs : Inputs) (s : Store)

theorem effect_createImage :
    Effect .post s (createImage inputs s).1 (createImage inputs s).2 := by
  refine .changing (.inl rfl) (by simp [createImage]) ?_
  exact .imageAdded _ rfl fun hnumbered => (hnumbered.issue_fresh "img").1

theorem effect_destroyImage :
    Effect .delete s (destroyImage inputs s).1 (destroyImage inputs s).2 := by
  cases himage : s.images[inputs.text "id"]? with
  | none =>
      have hkept : (destroyImage inputs s).2 = s := by
        simp [destroyImage, Store.removeImage, himage, Store.erase_of_none]
      rw [hkept]
      exact .keeping ..
  | some image =>
      have hanswer : destroyImage inputs s =
          ({ status := 204 }, { s with images := s.images.erase (inputs.text "id") }) := by
        simp [destroyImage, Store.removeImage, himage]
      rw [hanswer]
      exact .changing (.inr rfl) (by simp) (.imageRemoved _ (Store.mem_of_getElem? himage))

theorem effect_createInstance :
    Effect .post s (createInstance inputs s).1 (createInstance inputs s).2 := by
  cases himage : s.image? (inputs.text "image_id") with
  | none =>
      have hkept : (createInstance inputs s).2 = s := by
        simp [createInstance, himage]
      rw [hkept]
      exact .keeping ..
  | some image =>
      have hanswer : createInstance inputs s =
          (Reply.json 201 (s.insertInstance (inputs.text "image_id")).1.json,
            (s.insertInstance (inputs.text "image_id")).2) := by
        simp [createInstance, himage]
      rw [hanswer]
      refine .changing (.inl rfl) (by simp) ?_
      exact .instanceAdded _ rfl fun hnumbered => (hnumbered.issue_fresh "inst").2

theorem effect_destroyInstance :
    Effect .delete s (destroyInstance inputs s).1 (destroyInstance inputs s).2 := by
  cases hinst : s.instances[inputs.text "id"]? with
  | none =>
      have hkept : (destroyInstance inputs s).2 = s := by
        simp [destroyInstance, Store.removeInstance, hinst, Store.erase_of_none]
      rw [hkept]
      exact .keeping ..
  | some inst =>
      have hanswer : destroyInstance inputs s =
          ({ status := 204 }, { s with instances := s.instances.erase (inputs.text "id") }) := by
        simp [destroyInstance, Store.removeInstance, hinst]
      rw [hanswer]
      exact .changing (.inr rfl) (by simp) (.instanceRemoved _ (Store.mem_of_getElem? hinst))

theorem effect_changeState (state : InstanceState) :
    Effect .post s (changeState state inputs s).1 (changeState state inputs s).2 := by
  cases hinst : s.instances[inputs.text "id"]? with
  | none =>
      have hkept : (changeState state inputs s).2 = s := by
        simp [changeState, Store.setState, hinst]
      rw [hkept]
      exact .keeping ..
  | some inst =>
      have hanswer : changeState state inputs s =
          (Reply.json 200 { inst with state }.json,
            { s with instances := s.instances.insert (inputs.text "id") { inst with state } }) := by
        simp [changeState, Store.setState, hinst]
      rw [hanswer]
      exact .changing (.inl rfl) (by simp) (.stateChanged _ inst hinst state)

end Bodies

theorem Duty.effect_answer (duty : Duty) (inputs : Inputs) (s : Store) :
    Effect duty.method s (duty.answer inputs s).1 (duty.answer inputs s).2 := by
  cases duty with
  | createImage => exact effect_createImage inputs s
  | destroyImage => exact effect_destroyImage inputs s
  | createInstance => exact effect_createInstance inputs s
  | destroyInstance => exact effect_destroyInstance inputs s
  | startInstance => exact effect_changeState inputs s .running
  | stopInstance => exact effect_changeState inputs s .stopped
  | listImages | showImage | listInstances | showInstance | rebootInstance | listVolumes =>
      -- the body only reads
      exact .keeping ..

/-! ## Requests -/

variable {κ : Type}

/-- Under any settings and decisions of the host, a request to a built catalog is answered with a
reply. A request by a method other than `POST` and `DELETE`, and one that is answered with an
error, leaves the store as it is, whether the path, a check, an input or a record is at fault; any
other request makes one change at most. What the host keeps beside the store stays as it is. -/
theorem handle_changes_one_record {routing : Routing} {hooks : Hooks (Deployment κ)}
    {api : Api (Deployment κ)} (hbuild : build routing hooks = .ok api) (method : Method)
    (path : String) (inputs : Inputs) (d : Deployment κ) :
    ∃ reply store, api.handle method path inputs d = (.ok reply, { d with store }) ∧
      ((method ≠ .post ∧ method ≠ .delete) ∨ 400 ≤ reply.status → store = d.store) ∧
        d.store.Changes store := by
  rcases api.declines_or_admits method path inputs d with ⟨reply, hdeclines⟩ | ⟨run, hadmits⟩
  · exact ⟨reply, d.store, (Api.ends_of_declines hdeclines).1, fun _ => rfl, .nothing⟩
  · rcases hadmits.selected with ⟨sel, hfind, hendpoint, -⟩
    rcases exists_duty_of_find? hbuild hfind hendpoint with ⟨duty, hfits, rfl⟩
    have heffect := duty.effect_answer run.inputs d.store
    refine ⟨_, _, ?_, heffect.kept, heffect.changes⟩
    calc
      api.handle duty.method path inputs d
          = run.operation.control run.inputs d := (Api.ends_of_admits hadmits).1
      _ = writing duty.answer run.inputs d := by rw [hfits.control]
      _ = (.ok (duty.answer run.inputs d.store).1,
            { d with store := (duty.answer run.inputs d.store).2 }) := rfl

/-- The start of the seeded instance. -/
theorem handle_changes_one_record_start :
    ∃ api : Api (Deployment Unit), build bare {} = .ok api ∧
      ∃ reply store, api.handle .post "/api/instances/inst-3/start" .empty ⟨.seeded, ()⟩ =
          (.ok reply, ⟨store, ()⟩) ∧
        ((Method.post ≠ .post ∧ Method.post ≠ .delete) ∨ 400 ≤ reply.status →
          store = .seeded) ∧
        Store.seeded.Changes store := by
  rcases exists_build_bare with ⟨api, hbuild⟩
  exact ⟨api, hbuild,
    handle_changes_one_record hbuild .post "/api/instances/inst-3/start" .empty ⟨.seeded, ()⟩⟩

end Catalog
end ResourceRouting
