import ResourceRouting.Proofs.Catalog.Duties

/-!
# Tasks — calls on a catalog, step by step

Calls that are made at the same time share one store. A call does not keep the store for itself:
it draws a number, or looks up, puts in, removes or changes one record, and in between other calls
go on. `Call.task` takes a call apart into these steps.

* `Task.step`: one step, which nothing else divides.
* `Task.run`: all steps of a task with nothing in between.
* `run_task`: a call whose steps follow each other does what the program does at once.
-/

namespace ResourceRouting
namespace Catalog

variable {κ : Type}

/-! ## Tasks -/

/-- What a call comes to. -/
inductive Answer
  | outcome (result : Outcome)
  | images (records : List Image)
  | image (record? : Option Image)
  | instances (records : List Instance)
  | inst (record? : Option Instance)
  | maintenance (enabled : Bool)
  | nothing

/-- The status of the reply, if the answer is one. -/
def Answer.status? : Answer → Option Nat
  | outcome (.ok reply) => some reply.status
  | _ => none

/-- What is left of a call: its next step, and how it goes on after that. -/
inductive Task (κ : Type)
  | done (answer : Answer)
  | look (next : Deployment κ → Task κ)
  | grant (capability : String) (next : Bool → Task κ)
  | issue (sort : String) (next : String → Task κ)
  | putImage (image : Image) (next : Task κ)
  | putInstance (inst : Instance) (next : Task κ)
  | removeImage (id : String) (next : Option Image → Task κ)
  | removeInstance (id : String) (next : Option Instance → Task κ)
  | setState (id : String) (state : InstanceState) (next : Option Instance → Task κ)
  | setMaintenance (enabled : Bool) (next : Task κ)

namespace Task

def replies (reply : Reply) : Task κ := done (.outcome (.ok reply))

/-- The next step, and the deployment after it. -/
def step (hooks : Hooks (Deployment κ)) : Task κ → Deployment κ → Task κ × Deployment κ
  | done answer, d => (done answer, d)
  | look next, d => (next d, d)
  | grant capability next, d => (next (hooks.grants d capability), d)
  | issue sort next, d =>
      let (id, store) := d.store.issue sort
      (next id, { d with store })
  | putImage image next, d => (next, { d with store := d.store.putImage image })
  | putInstance inst next, d => (next, { d with store := d.store.putInstance inst })
  | removeImage id next, d =>
      let (removed, store) := d.store.removeImage id
      (next removed, { d with store })
  | removeInstance id next, d =>
      let (removed, store) := d.store.removeInstance id
      (next removed, { d with store })
  | setState id state next, d =>
      let (changed, store) := d.store.setState id state
      (next changed, { d with store })
  | setMaintenance enabled next, d =>
      (next, { d with store := d.store.setMaintenance enabled })

/-- All steps one after the other. -/
def run (hooks : Hooks (Deployment κ)) : Task κ → Deployment κ → Answer × Deployment κ
  | done answer, d => (answer, d)
  | look next, d => (next d).run hooks d
  | grant capability next, d => (next (hooks.grants d capability)).run hooks d
  | issue sort next, d =>
      let (id, store) := d.store.issue sort
      (next id).run hooks { d with store }
  | putImage image next, d => next.run hooks { d with store := d.store.putImage image }
  | putInstance inst next, d => next.run hooks { d with store := d.store.putInstance inst }
  | removeImage id next, d =>
      let (removed, store) := d.store.removeImage id
      (next removed).run hooks { d with store }
  | removeInstance id next, d =>
      let (removed, store) := d.store.removeInstance id
      (next removed).run hooks { d with store }
  | setState id state next, d =>
      let (changed, store) := d.store.setState id state
      (next changed).run hooks { d with store }
  | setMaintenance enabled next, d =>
      next.run hooks { d with store := d.store.setMaintenance enabled }

/-- The identifiers that the next step gives out. -/
def draws : Task κ → Deployment κ → List String
  | issue sort _, d => [(d.store.issue sort).1]
  | _, _ => []

/-- The identifiers that all steps together give out. -/
def drawn (hooks : Hooks (Deployment κ)) : Task κ → Deployment κ → List String
  | done _, _ => []
  | look next, d => (next d).drawn hooks d
  | grant capability next, d => (next (hooks.grants d capability)).drawn hooks d
  | issue sort next, d =>
      let (id, store) := d.store.issue sort
      id :: (next id).drawn hooks { d with store }
  | putImage image next, d => next.drawn hooks { d with store := d.store.putImage image }
  | putInstance inst next, d => next.drawn hooks { d with store := d.store.putInstance inst }
  | removeImage id next, d =>
      let (removed, store) := d.store.removeImage id
      (next removed).drawn hooks { d with store }
  | removeInstance id next, d =>
      let (removed, store) := d.store.removeInstance id
      (next removed).drawn hooks { d with store }
  | setState id state next, d =>
      let (changed, store) := d.store.setState id state
      (next changed).drawn hooks { d with store }
  | setMaintenance enabled next, d =>
      next.drawn hooks { d with store := d.store.setMaintenance enabled }

/-- Whether the next step asks for a capability that is not granted. -/
def isDenied (hooks : Hooks (Deployment κ)) : Task κ → Deployment κ → Bool
  | grant capability _, d => !hooks.grants d capability
  | _, _ => false

theorem run_step (hooks : Hooks (Deployment κ)) (t : Task κ) (d : Deployment κ) :
    (t.step hooks d).1.run hooks (t.step hooks d).2 = t.run hooks d := by
  cases t <;> rfl

theorem drawn_step (hooks : Hooks (Deployment κ)) (t : Task κ) (d : Deployment κ) :
    t.draws d ++ (t.step hooks d).1.drawn hooks (t.step hooks d).2 = t.drawn hooks d := by
  cases t <;> rfl

end Task

/-! ## Calls -/

def addImage (name arch owner : String) (next : Image → Task κ) : Task κ :=
  .issue "img" fun id =>
    let image : Image := { id, name, arch, owner }
    .putImage image (next image)

def addInstance (imageId : String) (next : Instance → Task κ) : Task κ :=
  .issue "inst" fun id =>
    .issue "vol" fun volume =>
      let inst : Instance := { id, imageId, state := .running, volumes := [volume] }
      .putInstance inst (next inst)

/-- Starts or stops an instance. -/
def changing (id : String) (state : InstanceState) : Task κ :=
  .setState id state fun
    | some inst => .replies (Reply.json 200 inst.json)
    | none => .replies (notFound "Instance" id)

/-- The body of a duty. -/
def Duty.task (inputs : Inputs) : Duty → Task κ
  | listImages => .look fun d => .replies (Catalog.listImages inputs d.store)
  | showImage => .look fun d => .replies (Catalog.showImage inputs d.store)
  | createImage =>
      addImage (inputs.text "name") (inputs.text "arch") (inputs["owner"]?.getD "anonymous")
        fun image => .replies (Reply.json 201 image.json)
  | destroyImage =>
      .removeImage (inputs.text "id") fun
        | some _ => .replies { status := 204 }
        | none => .replies (notFound "Image" (inputs.text "id"))
  | listInstances => .look fun d => .replies (Catalog.listInstances inputs d.store)
  | showInstance => .look fun d => .replies (Catalog.showInstance inputs d.store)
  | createInstance =>
      .look fun d =>
        match d.store.image? (inputs.text "image_id") with
        | none => .replies (notFound "Image" (inputs.text "image_id"))
        | some _ =>
            -- the image may be gone before the instance is put in
            addInstance (inputs.text "image_id") fun inst => .replies (Reply.json 201 inst.json)
  | destroyInstance =>
      .removeInstance (inputs.text "id") fun
        | some _ => .replies { status := 204 }
        | none => .replies (notFound "Instance" (inputs.text "id"))
  | startInstance => changing (inputs.text "id") .running
  | stopInstance => changing (inputs.text "id") .stopped
  | rebootInstance => .look fun d => .replies (Catalog.rebootInstance inputs d.store)
  | listVolumes => .look fun d => .replies (Catalog.listVolumes inputs d.store)

/-- What follows when the gate and the capability have let a request pass. -/
def validated (o : Operation (Deployment κ)) (inputs : Inputs) (body : Task κ) : Task κ :=
  match validate inputs o.params with
  | .error error => .replies (Refusal.invalid error).reply
  | .ok () => body

/-- The checks of an operation, each at its own time, and then the body. -/
def checked (o : Operation (Deployment κ)) (inputs : Inputs) (body : Task κ) : Task κ :=
  .look fun d =>
    if !o.gate.isOpen d then .replies (Refusal.unavailable o.name).reply
    else
      match o.capability? with
      | none => validated o inputs body
      | some capability =>
          .grant capability fun granted =>
            if granted then validated o inputs body
            else .replies (Refusal.missingCapability capability).reply

/-- The duty that an operation has by its collection and its name. -/
def Duty.of? (o : Operation (Deployment κ)) : Option Duty :=
  all.find? fun duty => duty.collection == o.collection && duty.operation == o.name

def respond (inputs : Inputs) : Endpoint (Deployment κ) → Task κ
  | .operation o =>
      match Duty.of? o with
      | some duty => checked o inputs (duty.task inputs)
      -- a catalog has no such operation
      | none => .replies Reply.ok
  | endpoint => .replies (endpoint.fixedReply?.getD Reply.ok)

/-- The calls on a catalog: requests to its application, and calls of the store itself. -/
inductive Call
  | request (method : Method) (path : String) (inputs : Inputs)
  | images
  | image (id : String)
  | insertImage (name arch owner : String)
  | instances
  | inst (id : String)
  | insertInstance (imageId : String)
  | setMaintenance (enabled : Bool)
  | inMaintenance

namespace Call

def task (api : Api (Deployment κ)) : Call → Task κ
  | request method path inputs =>
      match api.find? method path with
      | none => .replies (api.unmatched path)
      | some sel => respond (inputs.overridden sel.captures) sel.binding.endpoint
  | images => .look fun d => .done (.images d.store.imageList)
  | image id => .look fun d => .done (.image (d.store.image? id))
  | insertImage name arch owner =>
      addImage name arch owner fun image => .done (.image (some image))
  | instances => .look fun d => .done (.instances d.store.instanceList)
  | inst id => .look fun d => .done (.inst (d.store.instance? id))
  | insertInstance imageId => addInstance imageId fun inst => .done (.inst (some inst))
  | setMaintenance enabled => .setMaintenance enabled (.done .nothing)
  | inMaintenance => .look fun d => .done (.maintenance d.store.maintenance)

/-- What a call does when no other call is made before it has ended. -/
def atOnce (api : Api (Deployment κ)) : Call → Deployment κ → Answer × Deployment κ
  | request method path inputs, d =>
      let (outcome, d) := api.handle method path inputs d
      (.outcome outcome, d)
  | images, d => (.images d.store.imageList, d)
  | image id, d => (.image (d.store.image? id), d)
  | insertImage name arch owner, d =>
      let (added, store) := d.store.insertImage name arch owner
      (.image (some added), { d with store })
  | instances, d => (.instances d.store.instanceList, d)
  | inst id, d => (.inst (d.store.instance? id), d)
  | insertInstance imageId, d =>
      let (added, store) := d.store.insertInstance imageId
      (.inst (some added), { d with store })
  | setMaintenance enabled, d => (.nothing, { d with store := d.store.setMaintenance enabled })
  | inMaintenance, d => (.maintenance d.store.maintenance, d)

/-- The name of the operation that a request selects, and the identifier that it is about. -/
def target? (api : Api (Deployment κ)) : Call → Option (String × String)
  | request method path inputs =>
      match api.find? method path with
      | some ⟨⟨_, _, .operation o⟩, captures⟩ =>
          (inputs.overridden captures)["id"]?.map fun id => (o.name, id)
      | _ => none
  | _ => none

end Call

/-! ## Steps in a row -/

section Runs

variable {hooks : Hooks (Deployment κ)} {d : Deployment κ}

@[simp]
theorem run_replies (reply : Reply) :
    (Task.replies reply).run hooks d = (.outcome (.ok reply), d) := rfl

theorem run_addImage (name arch owner : String) (next : Image → Task κ) :
    (addImage name arch owner next).run hooks d =
      (next (d.store.insertImage name arch owner).1).run hooks
        { d with store := (d.store.insertImage name arch owner).2 } := rfl

theorem run_addInstance (imageId : String) (next : Instance → Task κ) :
    (addInstance imageId next).run hooks d =
      (next (d.store.insertInstance imageId).1).run hooks
        { d with store := (d.store.insertInstance imageId).2 } := rfl

theorem run_changing (inputs : Inputs) (state : InstanceState) :
    (changing (inputs.text "id") state).run hooks d =
      (.outcome (.ok (changeState state inputs d.store).1),
        { d with store := (changeState state inputs d.store).2 }) := by
  cases hinst : d.store.instances[inputs.text "id"]? with
  | none => simp [changing, changeState, Task.run, Store.setState, hinst]
  | some inst => simp [changing, changeState, Task.run, Store.setState, hinst]

theorem Duty.run_task (duty : Duty) (inputs : Inputs) :
    (duty.task inputs).run hooks d =
      (.outcome (.ok (duty.answer inputs d.store).1),
        { d with store := (duty.answer inputs d.store).2 }) := by
  cases duty with
  | createInstance =>
      cases himage : d.store.image? (inputs.text "image_id") with
      | none => simp [task, answer, Task.run, Catalog.createInstance, himage]
      | some image =>
          simp [task, answer, Task.run, Catalog.createInstance, himage, run_addInstance]
  | destroyImage =>
      cases himage : d.store.images[inputs.text "id"]? with
      | none => simp [task, answer, Task.run, Catalog.destroyImage, Store.removeImage, himage]
      | some image => simp [task, answer, Task.run, Catalog.destroyImage, Store.removeImage, himage]
  | destroyInstance =>
      cases hinst : d.store.instances[inputs.text "id"]? with
      | none => simp [task, answer, Task.run, Catalog.destroyInstance, Store.removeInstance, hinst]
      | some inst =>
          simp [task, answer, Task.run, Catalog.destroyInstance, Store.removeInstance, hinst]
  | startInstance => exact run_changing inputs .running
  | stopInstance => exact run_changing inputs .stopped
  | listImages | showImage | createImage | listInstances | showInstance | rebootInstance
  | listVolumes => rfl

theorem run_validated (o : Operation (Deployment κ)) (inputs : Inputs) (body : Task κ) :
    (validated o inputs body).run hooks d =
      match validate inputs o.params with
      | .error error => (.outcome (.ok (Refusal.invalid error).reply), d)
      | .ok () => body.run hooks d := by
  unfold validated
  cases validate inputs o.params <;> rfl

theorem run_checked (o : Operation (Deployment κ)) (inputs : Inputs) (body : Task κ) :
    (checked o inputs body).run hooks d =
      match o.refusal? hooks inputs d with
      | some refusal => (.outcome (.ok refusal.reply), d)
      | none => body.run hooks d := by
  cases hgate : o.gate.isOpen d with
  | false => simp [checked, Task.run, Operation.refusal?, hgate]
  | true =>
      cases hcapability : o.capability? with
      | none =>
          have hmissing : o.missingCapability? hooks d = none := by
            simp [Operation.missingCapability?, hcapability]
          cases hvalid : validate inputs o.params <;>
            simp [checked, Task.run, run_validated, Operation.refusal?, hmissing, hgate,
              hcapability, hvalid]
      | some capability =>
          cases hgrants : hooks.grants d capability with
          | false =>
              have hmissing : o.missingCapability? hooks d = some capability :=
                Operation.missingCapability?_eq_some_iff.2 ⟨hcapability, hgrants⟩
              simp [checked, Task.run, Operation.refusal?, hmissing, hgate, hcapability, hgrants]
          | true =>
              have hmissing : o.missingCapability? hooks d = none := by
                simp [Operation.missingCapability?, hcapability, Option.filter, hgrants]
              cases hvalid : validate inputs o.params <;>
                simp [checked, Task.run, run_validated, Operation.refusal?, hmissing, hgate,
                  hcapability, hgrants, hvalid]

end Runs

theorem Duty.of?_of_fits {duty : Duty} {o : Operation (Deployment κ)} (h : duty.Fits o) :
    of? o = some duty := by
  unfold of?
  rw [h.collection, h.operation]
  cases duty <;> decide

/-- A call whose steps follow each other does what the program does at once. -/
theorem run_task {routing : Routing} {hooks : Hooks (Deployment κ)} {api : Api (Deployment κ)}
    (hbuild : build routing hooks = .ok api) (call : Call) (d : Deployment κ) :
    (call.task api).run api.hooks d = call.atOnce api d := by
  cases call with
  | request method path inputs =>
      cases hfind : api.find? method path with
      | none => simp [Call.task, Call.atOnce, Api.handle, hfind]
      | some sel =>
          cases hendpoint : sel.binding.endpoint with
          | operation o =>
              rcases exists_duty_of_find? hbuild hfind hendpoint with ⟨duty, hfits, -⟩
              have hof := Duty.of?_of_fits hfits
              cases hrefusal : o.refusal? api.hooks (inputs.overridden sel.captures) d <;>
                simp [Call.task, Call.atOnce, hfind, hendpoint, respond, hof, run_checked,
                  Api.handle_of_operation hfind hendpoint, Operation.invoke, hrefusal,
                  Duty.run_task, hfits.control, writing]
          | _ =>
              simp [Call.task, Call.atOnce, Api.handle, hfind, hendpoint, respond,
                Endpoint.fixedReply?, Endpoint.respond]
  | images | image | insertImage | instances | inst | insertInstance | setMaintenance
  | inMaintenance => rfl

end Catalog
end ResourceRouting
