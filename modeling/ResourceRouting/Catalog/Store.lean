import ResourceRouting.Json.Value
import ResourceRouting.Power
import Std.Data.ExtTreeMap

/-!
# Store — images and instances of a catalog

Records are kept by identifier. Every identifier ends in the next number of one sequence, so no
two records, of whatever sort, share a number until the sequence has run through.
-/

namespace ResourceRouting
namespace Catalog

structure Image where
  id : String
  name : String
  arch : String
  owner : String
  deriving DecidableEq, Repr

inductive InstanceState
  | running
  | stopped
  deriving DecidableEq, Repr

structure Instance where
  id : String
  imageId : String
  state : InstanceState
  volumes : List String
  deriving DecidableEq, Repr

structure Store where
  images : Std.ExtTreeMap String Image := ∅
  instances : Std.ExtTreeMap String Instance := ∅
  sequence : Nat := 0
  maintenance : Bool := false

/-! ## Documents -/

def Image.json (i : Image) : Json :=
  .object
    [("id", .string i.id), ("name", .string i.name), ("arch", .string i.arch),
     ("owner", .string i.owner)]

def InstanceState.text : InstanceState → String
  | running => "running"
  | stopped => "stopped"

def Instance.json (i : Instance) : Json :=
  .object
    [("id", .string i.id), ("imageId", .string i.imageId), ("state", .string i.state.text),
     ("volumes", .strings i.volumes)]

namespace Store

def empty : Store := {}

/-! ## Identifiers -/

/-- The identifier of a sort with a number. -/
def identifier (sort : String) (n : Nat) : String := sort ++ "-" ++ toString n

/-- The number after the last one that was given out. Numbers have 64 bits; after the largest one
they begin again at zero. -/
def nextNumber (s : Store) : Nat := (s.sequence + 1) % twoTo 64

/-- Gives out the next identifier of a sort. -/
def issue (s : Store) (sort : String) : String × Store :=
  (identifier sort s.nextNumber, { s with sequence := s.nextNumber })

/-! ## Reading -/

/-- All images, by ascending identifier. -/
def imageList (s : Store) : List Image := s.images.values

/-- All instances, by ascending identifier. -/
def instanceList (s : Store) : List Instance := s.instances.values

def image? (s : Store) (id : String) : Option Image := s.images[id]?

def instance? (s : Store) (id : String) : Option Instance := s.instances[id]?

/-! ## Writing -/

/-- Keeps an image under its own identifier. -/
def putImage (s : Store) (image : Image) : Store :=
  { s with images := s.images.insert image.id image }

/-- Keeps an instance under its own identifier. -/
def putInstance (s : Store) (inst : Instance) : Store :=
  { s with instances := s.instances.insert inst.id inst }

/-- Adds an image under a new identifier. -/
def insertImage (s : Store) (name arch owner : String) : Image × Store :=
  let (id, s) := s.issue "img"
  let image : Image := { id, name, arch, owner }
  (image, s.putImage image)

/-- Adds a running instance with one volume, both under new identifiers. -/
def insertInstance (s : Store) (imageId : String) : Instance × Store :=
  let (id, s) := s.issue "inst"
  let (volume, s) := s.issue "vol"
  let inst : Instance := { id, imageId, state := .running, volumes := [volume] }
  (inst, s.putInstance inst)

def removeImage (s : Store) (id : String) : Option Image × Store :=
  (s.images[id]?, { s with images := s.images.erase id })

def removeInstance (s : Store) (id : String) : Option Instance × Store :=
  (s.instances[id]?, { s with instances := s.instances.erase id })

/-- Changes the state of an instance, if there is one of that identifier. -/
def setState (s : Store) (id : String) (state : InstanceState) : Option Instance × Store :=
  match s.instances[id]? with
  | some inst =>
      let changed := { inst with state }
      (some changed, { s with instances := s.instances.insert id changed })
  | none => (none, s)

def setMaintenance (s : Store) (enabled : Bool) : Store := { s with maintenance := enabled }

/-- A store with two images and an instance of the second. -/
def seeded : Store :=
  let (_, s) := empty.insertImage "fedora" "x86_64" "alice"
  let (debian, s) := s.insertImage "debian" "i386" "bob"
  (s.insertInstance debian.id).2

end Store
end Catalog
end ResourceRouting
