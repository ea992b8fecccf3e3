import ResourceRouting.Catalog.Declaration
import ResourceRouting.Proofs.Dispatch.Handling
import ResourceRouting.Proofs.Paths.Relative

/-!
# Duties — the operations of a catalog

A catalog is compiled from its clauses under settings and decisions of its host, and these decide
about its paths and about the parameters of features. What an operation does to the store they
leave alone: every operation of a built catalog has one of twelve duties.

* `Duty.Fits`: an operation has the names, the method, the checks and the body of a duty.
* `exists_duty_of_find?`: what a request selects, if it is an operation, has a duty of the method
  of the request.
-/

namespace ResourceRouting
namespace Catalog

variable {κ : Type}

/-! ## Duties -/

/-- What the operations of a catalog are for. -/
inductive Duty
  | listImages
  | showImage
  | createImage
  | destroyImage
  | listInstances
  | showInstance
  | createInstance
  | destroyInstance
  | startInstance
  | stopInstance
  | rebootInstance
  | listVolumes
  deriving DecidableEq, Repr

namespace Duty

def all : List Duty :=
  [listImages, showImage, createImage, destroyImage, listInstances, showInstance,
    createInstance, destroyInstance, startInstance, stopInstance, rebootInstance, listVolumes]

/-- The collection of the operation. -/
def collection : Duty → String
  | listImages | showImage | createImage | destroyImage => "images"
  | listVolumes => "volumes"
  | _ => "instances"

/-- The name of the operation. -/
def operation : Duty → String
  | listImages | listInstances | listVolumes => "index"
  | showImage | showInstance => "show"
  | createImage | createInstance => "create"
  | destroyImage | destroyInstance => "destroy"
  | startInstance => "start"
  | stopInstance => "stop"
  | rebootInstance => "reboot"

def method : Duty → Method
  | createImage | createInstance | startInstance | stopInstance | rebootInstance => .post
  | destroyImage | destroyInstance => .delete
  | _ => .get

def capability? : Duty → Option String
  | createImage | destroyImage => some manageImages
  | _ => none

/-- The parameters without those of features. -/
def params : Duty → List Parameter
  | listImages => [.declare "arch" .enum [.values architectures, .describe "Architecture"]]
  | createImage =>
      [.declare "name" .string [.required, .describe "Image name"],
        .declare "arch" .enum [.values architectures, .required],
        .declare "owner" .string [.describe "Owner login"]]
  | createInstance => [.declare "image_id" .string [.required, .describe "Image to launch"]]
  | showImage | destroyImage | showInstance | destroyInstance => [.identifier "id"]
  | _ => []

def gate : Duty → Gate (Deployment κ)
  | rebootInstance => .dynamic fun d => !d.store.maintenance
  | _ => .always

/-- The reply to inputs that are not refused, and the store after it. -/
def answer : Duty → Inputs → Store → Reply × Store
  | listImages, inputs, s => (Catalog.listImages inputs s, s)
  | showImage, inputs, s => (Catalog.showImage inputs s, s)
  | createImage, inputs, s => Catalog.createImage inputs s
  | destroyImage, inputs, s => Catalog.destroyImage inputs s
  | listInstances, inputs, s => (Catalog.listInstances inputs s, s)
  | showInstance, inputs, s => (Catalog.showInstance inputs s, s)
  | createInstance, inputs, s => Catalog.createInstance inputs s
  | destroyInstance, inputs, s => Catalog.destroyInstance inputs s
  | startInstance, inputs, s => changeState .running inputs s
  | stopInstance, inputs, s => changeState .stopped inputs s
  | rebootInstance, inputs, s => (Catalog.rebootInstance inputs s, s)
  | listVolumes, inputs, s => (Catalog.listVolumes inputs s, s)

/-- The operation has the duty. Only the lists of a catalog may be given more parameters. -/
structure Fits (duty : Duty) (o : Operation (Deployment κ)) : Prop where
  collection : o.collection = duty.collection
  operation : o.name = duty.operation
  method : o.method = duty.method
  capability : o.capability? = duty.capability?
  params : duty.operation ≠ "index" → o.params = duty.params
  gate : o.gate = duty.gate
  control : o.control = writing duty.answer

theorem mem_all (duty : Duty) : duty ∈ all := by
  cases duty <;> decide

end Duty

@[simp]
theorem status_text (status : Nat) (body : String) : (Reply.text status body).status = status :=
  rfl

@[simp]
theorem status_json (status : Nat) (value : Json) : (Reply.json status value).status = status :=
  rfl

/-! ## Built catalogs -/

/-- The features that extend the operation of a duty, where the host enables them. -/
def Duty.extensions (hooks : Hooks (Deployment κ)) (features : FeatureRegistry) (duty : Duty) :
    List (Feature × Extension) :=
  ((features.forCollection duty.collection).filter fun f =>
    hooks.enables duty.collection f.name).filterMap fun f =>
      if hooks.enables duty.collection f.name then
        (f.extension? duty.operation).map fun e => (f, e)
      else none

/-- The operations of the tree are the duties one after the other, under any settings. -/
theorem operations_tree (routing : Routing) (hooks : Hooks (Deployment κ)) :
    (Collection.walkAll (ApiDecl.declared appName (clauses routing hooks)).tree).flatMap
      (fun c => c.node.operations.map fun o =>
        (o.collection, o.name, o.method, o.capability?, o.params, o.gate, o.control)) =
      Duty.all.map fun duty =>
        (duty.collection, duty.operation, duty.method, duty.capability?,
          OperationDecl.withFeatures duty.params (duty.extensions hooks
            (ApiDecl.declared appName (clauses routing hooks)).features),
          duty.gate, writing duty.answer) := rfl

theorem extensions_eq_nil {routing : Routing} {hooks hooks' : Hooks (Deployment κ)} {duty : Duty}
    (h : duty.operation ≠ "index") :
    duty.extensions hooks (ApiDecl.declared appName (clauses routing hooks')).features = [] := by
  have hfeatures : ∀ f ∈ (ApiDecl.declared appName (clauses routing hooks')).features.features,
      ∀ e ∈ f.extensions, e.operation = "index" := by
    have heq : (ApiDecl.declared appName (clauses routing hooks')).features.features =
        [ownerFilter.foldl Feature.apply { name := "owner_filter", target := "images" }] := rfl
    simp [heq, ownerFilter, Feature.apply, Feature.extend]
  unfold Duty.extensions
  apply List.filterMap_eq_nil_iff.2
  intro f hf
  have hmem : f ∈ (ApiDecl.declared appName (clauses routing hooks')).features.features :=
    (List.mem_filter.1 (List.mem_filter.1 hf).1).1
  have hnone : f.extension? duty.operation = none := by
    apply List.find?_eq_none.2
    intro e he
    simp [hfeatures f hmem e he, Ne.symm h]
  simp [hnone]

/-- An operation of the tree has a duty, and its parameters are those of the duty with those of the
features. -/
theorem exists_duty_of_mem_tree {routing : Routing} {hooks : Hooks (Deployment κ)}
    {c : Collection (Deployment κ)} {o : Operation (Deployment κ)}
    (hc : c ∈ Collection.walkAll (ApiDecl.declared appName (clauses routing hooks)).tree)
    (ho : o ∈ c.node.operations) :
    ∃ duty : Duty, duty.Fits o ∧
      o.params = OperationDecl.withFeatures duty.params (duty.extensions hooks
        (ApiDecl.declared appName (clauses routing hooks)).features) := by
  have hmem : (o.collection, o.name, o.method, o.capability?, o.params, o.gate, o.control) ∈
      Duty.all.map fun duty =>
        (duty.collection, duty.operation, duty.method, duty.capability?,
          OperationDecl.withFeatures duty.params (duty.extensions hooks
            (ApiDecl.declared appName (clauses routing hooks)).features),
          duty.gate, writing duty.answer) := by
    rw [← operations_tree routing hooks]
    exact List.mem_flatMap.2 ⟨c, hc, List.mem_map_of_mem ho⟩
  rcases List.mem_map.1 hmem with ⟨duty, -, hsame⟩
  simp only [Prod.mk.injEq] at hsame
  rcases hsame with ⟨hcollection, hname, hmethod, hcapability, hparams, hgate, hcontrol⟩
  refine ⟨duty, ⟨hcollection.symm, hname.symm, hmethod.symm, hcapability.symm, ?_, hgate.symm,
    hcontrol.symm⟩, hparams.symm⟩
  intro hindex
  rw [extensions_eq_nil hindex] at hparams
  exact hparams.symm

/-- An operation is bound to its own method, and has a duty. -/
theorem exists_duty_of_mem_plan {routing : Routing} {hooks : Hooks (Deployment κ)} :
    ∀ b ∈ (ApiDecl.declared appName (clauses routing hooks)).plan, ∀ o,
      b.endpoint = .operation o → b.method = o.method ∧ ∃ duty : Duty, duty.Fits o := by
  intro b hb o hendpoint
  rcases Table.eq_of_mem_plan hb hendpoint with ⟨hself, c, hc, ho⟩
  rcases exists_duty_of_mem_tree hc ho with ⟨duty, hfits, -⟩
  rw [hself]
  exact ⟨rfl, duty, hfits⟩

theorem exists_duty_of_find? {routing : Routing} {hooks : Hooks (Deployment κ)}
    {api : Api (Deployment κ)} (hbuild : build routing hooks = .ok api) {method : Method}
    {path : String} {sel : Api.Selection (Deployment κ)} {o : Operation (Deployment κ)}
    (hfind : api.find? method path = some sel) (hendpoint : sel.binding.endpoint = .operation o) :
    ∃ duty : Duty, duty.Fits o ∧ duty.method = method := by
  rcases Api.mem_of_find? hfind with ⟨hmem, hmethod, -⟩
  have hplan : api.bindings = (ApiDecl.declared appName (clauses routing hooks)).plan :=
    Api.bindings_of_build hbuild
  rw [hplan] at hmem
  rcases exists_duty_of_mem_plan sel.binding hmem o hendpoint with ⟨hown, duty, hfits⟩
  refine ⟨duty, hfits, ?_⟩
  calc
    duty.method = o.method := hfits.method.symm
    _ = sel.binding.method := hown.symm
    _ = method := hmethod

/-- A catalog below `/api` that is bound without anything auxiliary. -/
def bare : Routing :=
  { documentation := false
    headRoutes := false
    optionsRoutes := false
    docRoutes := false
    rootPath := "/api" }

theorem exists_build_bare : ∃ api : Api (Deployment Unit), build bare {} = .ok api :=
  isOk_iff_exists.1 (by decide +kernel)

end Catalog
end ResourceRouting
