import ResourceRouting.Proofs.Catalog.Building
import ResourceRouting.Proofs.Texts
import ResourceRouting.Proofs.Validation
import ResourceRouting.Proofs.Variation.Disabled

/-!
# Listing — images of an owner without the feature for it

A host that does not enable the feature of owners takes the parameter for an owner away from the
listing of images. The parameter is not declared then, and nothing checks it. But inputs that are
not declared reach the body all the same, and the body asks for the owner by name: so the listing
is narrowed to an owner whether the feature is enabled or not.

* `fits_listImages`: the parameters of the listing without the feature.
* `handle_listImages`: its reply, by the inputs that the request and the path bring.
* `handle_listImages_alike_iff`: which two requests, apart in the owner alone, get one reply.
-/

namespace ResourceRouting
namespace Catalog

variable {κ : Type}

/-! ## Documents of images -/

theorem Image.json_inj {i j : Image} : i.json = j.json ↔ i = j := by
  cases i
  cases j
  simp [Image.json]

theorem Image.textual_json (i : Image) : i.json.Textual := by
  simp [Image.json, Json.Textual, Json.TextualMembers]

theorem textual_images (images : List Image) : (Json.array (images.map Image.json)).Textual := by
  rw [Json.Textual]
  induction images with
  | nil =>
      trivial
  | cons i rest ih =>
      exact ⟨i.textual_json, ih⟩

theorem filter_eq_filter_iff {α : Type} {p q : α → Bool} {l : List α} :
    l.filter p = l.filter q ↔ ∀ a ∈ l, p a = q a := by
  refine ⟨fun h a ha => ?_, List.filter_congr⟩
  have hmem : a ∈ l.filter p ↔ a ∈ l.filter q := by
    rw [h]
  rw [List.mem_filter, List.mem_filter, and_iff_right ha, and_iff_right ha] at hmem
  exact Bool.eq_iff_iff.2 hmem

/-- Different lists of images are listed in different replies. -/
theorem json_images_inj {images images' : List Image} :
    Reply.json 200 (.array (images.map Image.json)) =
        Reply.json 200 (.array (images'.map Image.json)) ↔ images = images' := by
  constructor
  · intro h
    have htext := (Json.text_inj (textual_images images) (textual_images images')).1
      (congrArg Reply.body h)
    rw [Json.array.injEq] at htext
    exact List.map_injective_iff.2 (fun i j => Image.json_inj.1) htext
  · rintro rfl
    rfl

/-! ## The operation -/

/-- Without the feature nothing extends the listing. -/
theorem extensions_listImages {routing : Routing} {hooks : Hooks (Deployment κ)}
    (h : hooks.enables "images" "owner_filter" = false) :
    Duty.listImages.extensions hooks (ApiDecl.declared appName (clauses routing hooks)).features =
      [] := by
  have hfeatures : (ApiDecl.declared appName (clauses routing hooks)).features.forCollection
      "images" = [ownerFilter.foldl Feature.apply { name := "owner_filter", target := "images" }] :=
    rfl
  have hname : (ownerFilter.foldl Feature.apply
      { name := "owner_filter", target := "images" }).name = "owner_filter" := rfl
  have hcollection : Duty.listImages.collection = "images" := rfl
  rw [Duty.extensions, hcollection, hfeatures, List.filter_cons_of_neg (by simp [hname, h])]
  rfl

theorem Duty.eq_listImages {duty : Duty} (hcollection : duty.collection = "images")
    (hoperation : duty.operation = "index") : duty = .listImages := by
  cases duty <;> simp_all [collection, operation]

/-! ## Replies -/

/-- The architecture that is asked for, if there is none of that name. -/
def unknownArch? (given : Inputs) : Option String :=
  given["arch"]?.filter fun arch => !architectures.contains arch

theorem unknownArch?_eq_some_iff {given : Inputs} {arch : String} :
    unknownArch? given = some arch ↔ given["arch"]? = some arch ∧ arch ∉ architectures := by
  simp [unknownArch?, Option.filter_eq_some_iff]

theorem validate_listImages (given : Inputs) :
    validate given Duty.listImages.params =
      match unknownArch? given with
      | some arch => .error (.notAllowed "arch" arch architectures)
      | none => .ok () := by
  let arch : Parameter :=
    { name := "arch", kind := .enum, allowed := architectures, description := "Architecture" }
  have hparams : Duty.listImages.params = [arch] := rfl
  have hlacks : arch.lacks given = false := rfl
  have hoffence : arch.offence? given = unknownArch? given := rfl
  rw [hparams, validate]
  simp only [List.find?_cons, hlacks, List.find?_nil, List.findSome?_cons, hoffence,
    List.findSome?_nil]
  cases unknownArch? given <;> rfl

/-- Of one architecture, the owners narrow the listing alike if each image passes both or neither. -/
theorem listImages_alike_iff {given given' : Inputs} (h : given'["arch"]? = given["arch"]?)
    (s : Store) :
    listImages given' s = listImages given s ↔
      ∀ i ∈ s.imageList, admits given "arch" i.arch = true →
        admits given' "owner_id" i.owner = admits given "owner_id" i.owner := by
  have harch : ∀ value, admits given' "arch" value = admits given "arch" value := by
    intro value
    rw [admits, admits, h]
  rw [listImages, listImages, json_images_inj]
  simp only [harch, filter_eq_filter_iff, List.mem_filter, and_imp]

section Selected

variable {routing : Routing} {hooks : Hooks (Deployment κ)} {api : Api (Deployment κ)}
  (hbuild : build routing hooks = .ok api)
  (hdisabled : hooks.enables "images" "owner_filter" = false)
  {method : Method} {path : String} {sel : Api.Selection (Deployment κ)}
  {o : Operation (Deployment κ)} (hfind : api.find? method path = some sel)
  (hendpoint : sel.binding.endpoint = .operation o) (hcollection : o.collection = "images")
  (hname : o.name = "index")
include hbuild hdisabled hfind hendpoint hcollection hname

/-- What a path of the listing selects has the parameters of the listing alone. -/
theorem fits_listImages :
    Duty.listImages.Fits o ∧ o.params = Duty.listImages.params := by
  rcases Api.mem_of_find? hfind with ⟨hmem, -⟩
  have hplan : api.bindings = (ApiDecl.declared appName (clauses routing hooks)).plan :=
    Api.bindings_of_build hbuild
  rw [hplan] at hmem
  rcases Table.eq_of_mem_plan hmem hendpoint with ⟨-, c, hc, ho⟩
  -- of all duties one lists images, and without the feature nothing is added to its parameters
  rcases exists_duty_of_mem_tree hc ho with ⟨duty, hfits, hparams⟩
  have hduty : duty = .listImages :=
    Duty.eq_listImages (hfits.collection.symm.trans hcollection)
      (hfits.operation.symm.trans hname)
  subst hduty
  rw [extensions_listImages hdisabled] at hparams
  exact ⟨hfits, hparams⟩

/-- The listing refuses an architecture that there is not, and nothing else. -/
theorem handle_listImages (inputs : Inputs) (d : Deployment κ) :
    api.handle method path inputs d =
      (.ok (match unknownArch? (inputs.overridden sel.captures) with
        | some arch => (Refusal.invalid (.notAllowed "arch" arch architectures)).reply
        | none => listImages (inputs.overridden sel.captures) d.store), d) := by
  rcases fits_listImages hbuild hdisabled hfind hendpoint hcollection hname with ⟨hfits, hparams⟩
  have hgate : o.gate.isOpen d = true := by
    rw [hfits.gate]
    rfl
  have hgranted : o.Granted api.hooks d := by
    intro c hc
    rw [hfits.capability] at hc
    cases hc
  rw [Api.handle_of_operation hfind hendpoint, Operation.invoke]
  have hvalidate := validate_listImages (inputs.overridden sel.captures)
  rw [← hparams] at hvalidate
  cases hunknown : unknownArch? (inputs.overridden sel.captures) with
  | some arch =>
      rw [hunknown] at hvalidate
      rw [Operation.refusal?_eq_some_iff.2 (.invalid hgate hgranted hvalidate)]
  | none =>
      rw [hunknown] at hvalidate
      rw [Operation.refusal?_eq_none_iff.2 ⟨hgate, hgranted, hvalidate⟩, hfits.control]
      rfl

/-- Without the feature the listing of images has no parameter for an owner. Still, two requests that
are apart in the owner alone get one reply only if both are refused for an architecture that there
is not, or if of the stored images of the architecture both owners admit the same. An owner that the
path captures counts before that of the request. -/
theorem handle_listImages_alike_iff :
    o.param? "owner_id" = none ∧
    ∀ inputs inputs' : Inputs, (∀ name, name ≠ "owner_id" → inputs'[name]? = inputs[name]?) →
      ∀ d : Deployment κ,
        (api.handle method path inputs d).2 = d ∧
        ((api.handle method path inputs' d).1 = (api.handle method path inputs d).1 ↔
          (∃ arch, (inputs.overridden sel.captures)["arch"]? = some arch ∧
            arch ∉ architectures) ∨
          ∀ i ∈ d.store.imageList, admits (inputs.overridden sel.captures) "arch" i.arch = true →
            admits (inputs'.overridden sel.captures) "owner_id" i.owner =
              admits (inputs.overridden sel.captures) "owner_id" i.owner) := by
  refine ⟨?_, fun inputs inputs' hapart d => ?_⟩
  · rcases fits_listImages hbuild hdisabled hfind hendpoint hcollection hname with ⟨-, hparams⟩
    rw [Operation.param?, hparams]
    rfl
  have hhandle := handle_listImages hbuild hdisabled hfind hendpoint hcollection hname
  -- the architecture is the same in both, so both are refused or neither is
  have harch : (inputs'.overridden sel.captures)["arch"]? =
      (inputs.overridden sel.captures)["arch"]? := by
    rw [Inputs.getElem?_overridden, Inputs.getElem?_overridden, hapart "arch" (by decide)]
  have hsame : unknownArch? (inputs'.overridden sel.captures) =
      unknownArch? (inputs.overridden sel.captures) := by
    rw [unknownArch?, harch, unknownArch?]
  simp only [hhandle, hsame, Except.ok.injEq, true_and, ← unknownArch?_eq_some_iff]
  cases unknownArch? (inputs.overridden sel.captures) with
  | some arch => simp
  | none => simp [listImages_alike_iff harch]

end Selected

/-- The decisions of a host that enables no feature. -/
def unfeatured : Hooks (Deployment Unit) := { featureCheck? := some fun _ _ => false }

def Deployment.seeded : Deployment Unit := { store := .seeded, host := () }

/-- The one image of the architecture is of the owner. -/
theorem handle_listImages_alike_seeded :
    ∃ api : Api (Deployment Unit), build bare unfeatured = .ok api ∧
      (api.handle .get "/api/images" (.ofPairs [("arch", "x86_64"), ("owner_id", "alice")])
          .seeded).1 =
        (api.handle .get "/api/images" (.ofPairs [("arch", "x86_64")]) .seeded).1 := by
  rcases exists_build bare unfeatured with ⟨api, hbuild⟩
  have hfound : ((api.find? .get "/api/images").bind fun sel =>
      sel.binding.endpoint.operation?.map fun o => (sel.captures.toList, o.collection, o.name)) =
        some ([], "images", "index") := by
    rw [(Api.build_eq_ok_iff.1 hbuild).2]
    decide +kernel
  rcases Option.bind_eq_some_iff.1 hfound with ⟨sel, hfind, hsel⟩
  rcases Option.map_eq_some_iff.1 hsel with ⟨o, hoperation, hshown⟩
  simp only [Prod.mk.injEq] at hshown
  rcases hshown with ⟨hcaptures, hcollection, hname⟩
  have hapart : ∀ name, name ≠ "owner_id" →
      (Inputs.ofPairs [("arch", "x86_64"), ("owner_id", "alice")])[name]? =
        (Inputs.ofPairs [("arch", "x86_64")])[name]? := by
    intro name hother
    exact Inputs.getElem?_insert_of_ne (Ne.symm hother)
  have halike := (handle_listImages_alike_iff hbuild rfl hfind
    (Endpoint.operation?_eq_some_iff.1 hoperation) hcollection hname).2 _ _ hapart .seeded
  refine ⟨api, hbuild, halike.2.2 (Or.inr ?_)⟩
  rw [Inputs.overridden, Inputs.overridden, hcaptures]
  decide +kernel

/-- The owner narrows the listing though no feature is enabled. -/
theorem handle_listImages_apart_seeded :
    ∃ api : Api (Deployment Unit), build bare unfeatured = .ok api ∧
      unfeatured.enables "images" "owner_filter" = false ∧
      (api.handle .get "/api/images" (.ofPairs [("owner_id", "alice")]) .seeded).1 ≠
        (api.handle .get "/api/images" (.ofPairs []) .seeded).1 := by
  rcases exists_build bare unfeatured with ⟨api, hbuild⟩
  refine ⟨api, hbuild, rfl, fun hsame => ?_⟩
  have hbodies : ((api.handle .get "/api/images" (.ofPairs [("owner_id", "alice")]) .seeded).1.map
      Reply.body).toOption ≠
        ((api.handle .get "/api/images" (.ofPairs []) .seeded).1.map Reply.body).toOption := by
    rw [(Api.build_eq_ok_iff.1 hbuild).2]
    decide +kernel
  exact hbodies (by rw [hsame])

end Catalog
end ResourceRouting
