import ResourceRouting.Api
import ResourceRouting.Catalog.Store

/-!
# Catalog — machine images and the instances launched from them

The application that is served: images, instances with their volumes, a feature that filters
images by owner, a capability for managing images, and a gate that closes in maintenance.
-/

namespace ResourceRouting
namespace Catalog

/-- The store of a catalog beside whatever else its host decides by. -/
structure Deployment (κ : Type) where
  store : Store
  host : κ

def appName : String := "catalog"

/-- The capability that changes of images require. -/
def manageImages : String := "manage_images"

def architectures : List String := ["x86_64", "i386"]

/-! ## Bodies -/

variable {κ : Type}

def notFound (kind id : String) : Reply := Reply.text 404 s!"{kind} '{id}' not found"

/-- A body that reads the store and leaves it as it is. -/
def reading (answer : Inputs → Store → Reply) : Control (Deployment κ) :=
  fun inputs d => (.ok (answer inputs d.store), d)

/-- A body that may change the store. -/
def writing (answer : Inputs → Store → Reply × Store) : Control (Deployment κ) :=
  fun inputs d =>
    let (reply, store) := answer inputs d.store
    (.ok reply, { d with store })

/-- Whether an input is absent or equal to a value. -/
def admits (inputs : Inputs) (name value : String) : Bool :=
  match inputs[name]? with
  | some wanted => value == wanted
  | none => true

def listImages (inputs : Inputs) (s : Store) : Reply :=
  let images := s.imageList.filter fun i => admits inputs "arch" i.arch
  let images := images.filter fun i => admits inputs "owner_id" i.owner
  Reply.json 200 (.array (images.map Image.json))

def showImage (inputs : Inputs) (s : Store) : Reply :=
  let id := inputs.text "id"
  match s.image? id with
  | some image => Reply.json 200 image.json
  | none => notFound "Image" id

def createImage (inputs : Inputs) (s : Store) : Reply × Store :=
  let owner := inputs["owner"]?.getD "anonymous"
  let (image, s) := s.insertImage (inputs.text "name") (inputs.text "arch") owner
  (Reply.json 201 image.json, s)

def destroyImage (inputs : Inputs) (s : Store) : Reply × Store :=
  let id := inputs.text "id"
  match s.removeImage id with
  | (some _, s) => ({ status := 204 }, s)
  | (none, s) => (notFound "Image" id, s)

def listInstances (_ : Inputs) (s : Store) : Reply :=
  Reply.json 200 (.array (s.instanceList.map Instance.json))

def showInstance (inputs : Inputs) (s : Store) : Reply :=
  let id := inputs.text "id"
  match s.instance? id with
  | some inst => Reply.json 200 inst.json
  | none => notFound "Instance" id

def createInstance (inputs : Inputs) (s : Store) : Reply × Store :=
  let imageId := inputs.text "image_id"
  match s.image? imageId with
  | none => (notFound "Image" imageId, s)
  | some _ =>
      let (inst, s) := s.insertInstance imageId
      (Reply.json 201 inst.json, s)

def destroyInstance (inputs : Inputs) (s : Store) : Reply × Store :=
  let id := inputs.text "id"
  match s.removeInstance id with
  | (some _, s) => ({ status := 204 }, s)
  | (none, s) => (notFound "Instance" id, s)

/-- Starts or stops an instance. -/
def changeState (state : InstanceState) (inputs : Inputs) (s : Store) : Reply × Store :=
  let id := inputs.text "id"
  match s.setState id state with
  | (some inst, s) => (Reply.json 200 inst.json, s)
  | (none, s) => (notFound "Instance" id, s)

def rebootInstance (inputs : Inputs) (s : Store) : Reply :=
  let id := inputs.text "id"
  match s.instance? id with
  | some inst =>
      match inst.state with
      | .running => Reply.text 202 s!"Rebooting {id}"
      | .stopped => Reply.text 409 s!"Instance '{id}' is not running"
  | none => notFound "Instance" id

def listVolumes (inputs : Inputs) (s : Store) : Reply :=
  let id := inputs.text "id"
  match s.instance? id with
  | some inst => Reply.json 200 (.strings inst.volumes)
  | none => notFound "Instance" id

/-! ## Clauses -/

def imageClauses : List (CollectionClause (Deployment κ)) :=
  [.description "Machine images instances are launched from",
   .operation "index"
    [.description "List images",
     .param (.declare "arch" .enum [.values architectures, .describe "Architecture"]),
     .control (reading listImages)],
   .operation "show" [.description "Image details", .control (reading showImage)],
   .operation "create"
    [.description "Register an image",
     .param (.declare "name" .string [.required, .describe "Image name"]),
     .param (.declare "arch" .enum [.values architectures, .required]),
     .param (.declare "owner" .string [.describe "Owner login"]),
     .capability manageImages,
     .control (writing createImage)],
   .operation "destroy"
    [.description "Remove an image",
     .capability manageImages,
     .control (writing destroyImage)]]

def volumeClauses : List (CollectionClause (Deployment κ)) :=
  [.description "Block devices attached to an instance",
   .withId "volume_id",
   .operation "index" [.control (reading listVolumes)]]

def instanceClauses : List (CollectionClause (Deployment κ)) :=
  [.description "Running machines",
   .operation "index" [.description "List instances", .control (reading listInstances)],
   .operation "show" [.control (reading showInstance)],
   .operation "create"
    [.description "Launch an instance",
     .param (.declare "image_id" .string [.required, .describe "Image to launch"]),
     .control (writing createInstance)],
   .operation "destroy" [.control (writing destroyInstance)],
   .action "start" [.control (writing (changeState .running))],
   .action "stop" [.control (writing (changeState .stopped))],
   .action "reboot"
    [.description "Restart a running instance",
     .gate (.dynamic fun d => !d.store.maintenance),
     .control (reading rebootInstance)],
   .collection "volumes" volumeClauses]

def ownerFilter : List FeatureClause :=
  [.description "Filter images by owner",
   .operation "index" [.declare "owner_id" .string [.describe "Owner login"]],
   .constraint "max_length" (.nat 64)]

/-- The catalog under the settings and decisions of its host. -/
def clauses (routing : Routing) (hooks : Hooks (Deployment κ)) :
    List (ApiClause (Deployment κ)) :=
  [.routing routing,
   .hooks hooks,
   .feature "owner_filter" "images" ownerFilter,
   .collection "images" imageClauses,
   .collection "instances" instanceClauses]

def build (routing : Routing) (hooks : Hooks (Deployment κ)) :
    Except Fault (Api (Deployment κ)) :=
  Api.build appName (clauses routing hooks)

end Catalog
end ResourceRouting
