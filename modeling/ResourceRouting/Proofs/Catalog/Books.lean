import Mathlib.Data.List.Nodup
import ResourceRouting.Proofs.Catalog.Identifiers

/-!
# Books — where every identifier of a catalog is

An identifier is given out before the record it is meant for is put in, and other calls come in
between. `Place` tells where an identifier is at one moment, and `Books` that a store agrees with
it: every record is kept under its own identifier, and the numbers that were given out are
`1, 2, 3, …`, as far as the sequence has come.

One lemma for each change of a store tells where the identifiers are after it.
-/

namespace ResourceRouting
namespace Catalog

/-- Where an identifier is. A call holds what it was given until it puts its record in; the
identifier of a record that was removed is spent. -/
inductive Place
  | unissued
  | held (thread : Nat)
  | image
  | inst
  | volume (of : String)
  | spent
  deriving DecidableEq, Repr

/-- A store, and the identifiers that were given out for it, agree with what is known of places. -/
structure Books (place : String → Place) (issued : List String) (s : Store) : Prop where
  issued_iff : ∀ id, id ∈ issued ↔ place id ≠ .unissued
  image_iff : ∀ id, id ∈ s.images ↔ place id = .image
  inst_iff : ∀ id, id ∈ s.instances ↔ place id = .inst
  ownImage : ∀ id (image : Image), s.images[id]? = some image → image.id = id
  ownInst : ∀ id (inst : Instance), s.instances[id]? = some inst →
    inst.id = id ∧ ∃ volume, inst.volumes = [volume] ∧ place volume = .volume id
  numbers : issued.map Store.number? = (List.range' 1 issued.length).map some
  sequence : s.sequence = issued.length

namespace Books

variable {place : String → Place} {issued : List String} {s : Store}

/-! ## Identifiers that go elsewhere -/

section Update

variable {id : String} {p : Place}

theorem issued_iff_update (h : Books place issued s) (hfrom : place id ≠ .unissued)
    (hto : p ≠ .unissued) (other : String) :
    other ∈ issued ↔ Function.update place id p other ≠ .unissued := by
  by_cases hother : other = id <;> simp [hother, h.issued_iff, hfrom, hto]

theorem image_iff_update (h : Books place issued s) (hfrom : place id ≠ .image)
    (hto : p ≠ .image) (other : String) :
    other ∈ s.images ↔ Function.update place id p other = .image := by
  by_cases hother : other = id <;> simp [hother, h.image_iff, hfrom, hto]

theorem inst_iff_update (h : Books place issued s) (hfrom : place id ≠ .inst)
    (hto : p ≠ .inst) (other : String) :
    other ∈ s.instances ↔ Function.update place id p other = .inst := by
  by_cases hother : other = id <;> simp [hother, h.inst_iff, hfrom, hto]

/-- What is no volume may go elsewhere: every instance keeps its own. -/
theorem ownInst_update (h : Books place issued s) (hfrom : ∀ owner, place id ≠ .volume owner)
    (other : String) (inst : Instance) (hinst : s.instances[other]? = some inst) :
    inst.id = other ∧
      ∃ volume, inst.volumes = [volume] ∧ Function.update place id p volume = .volume other := by
  rcases h.ownInst other inst hinst with ⟨hown, volume, hvolumes, hvolume⟩
  have hne : volume ≠ id := by
    rintro rfl
    exact hfrom other hvolume
  exact ⟨hown, volume, hvolumes, by simpa [hne] using hvolume⟩

end Update

/-! ## What is given out -/

theorem issued_of_image (h : Books place issued s) {id : String} (hid : id ∈ s.images) :
    id ∈ issued :=
  (h.issued_iff id).2 (by simp [(h.image_iff id).1 hid])

theorem issued_of_inst (h : Books place issued s) {id : String} (hid : id ∈ s.instances) :
    id ∈ issued :=
  (h.issued_iff id).2 (by simp [(h.inst_iff id).1 hid])

/-- The sequence has come to every number that was given out. -/
theorem exists_number (h : Books place issued s) {id : String} (hid : id ∈ issued) :
    ∃ n ≤ s.sequence, Store.number? id = some n := by
  have hmem : Store.number? id ∈ (List.range' 1 issued.length).map some := by
    rw [← h.numbers]
    exact List.mem_map_of_mem hid
  rcases List.mem_map.1 hmem with ⟨n, hn, hnumber⟩
  have hrange := List.mem_range'_1.1 hn
  have hsequence := h.sequence
  exact ⟨n, by omega, hnumber.symm⟩

theorem nodup_numbers (h : Books place issued s) : (issued.map Store.number?).Nodup := by
  rw [h.numbers]
  exact (List.nodup_range' 1).map fun _ _ => Option.some.inj

/-- The next identifier has not been given out before. -/
theorem place_next (h : Books place issued s) (hroom : issued.length + 1 < twoTo 64)
    (sort : String) : place (s.issue sort).1 = .unissued := by
  have hsequence := h.sequence
  have hnext : s.nextNumber = s.sequence + 1 := Store.nextNumber_of_lt (by omega)
  by_contra hplace
  rcases h.exists_number ((h.issued_iff _).2 hplace) with ⟨n, hn, hnumber⟩
  have hsame : s.sequence + 1 = n := by simpa [Store.issue, hnext] using hnumber
  omega

theorem issue (h : Books place issued s) (hroom : issued.length + 1 < twoTo 64) (sort : String)
    (i : Nat) :
    Books (Function.update place (s.issue sort).1 (.held i)) (issued ++ [(s.issue sort).1])
      (s.issue sort).2 := by
  have hfresh := h.place_next hroom sort
  have hsequence := h.sequence
  have hnext : s.nextNumber = s.sequence + 1 := Store.nextNumber_of_lt (by omega)
  refine ⟨?_, h.image_iff_update (by simp [hfresh]) (by simp),
    h.inst_iff_update (by simp [hfresh]) (by simp), h.ownImage, h.ownInst_update (by simp [hfresh]),
    ?_, ?_⟩
  · intro id
    by_cases hid : id = (s.issue sort).1 <;> simp [hid, h.issued_iff]
  · have hnumber : Store.number? (s.issue sort).1 = some (1 + issued.length) := by
      simp [Store.issue, hnext, hsequence, Nat.add_comm]
    simp [h.numbers, hnumber, List.range'_concat]
  · simp [Store.issue, hnext, hsequence]

/-! ## What is put in -/

theorem putImage (h : Books place issued s) {image : Image} {i : Nat}
    (hheld : place image.id = .held i) :
    Books (Function.update place image.id .image) issued (s.putImage image) := by
  refine ⟨h.issued_iff_update (by simp [hheld]) (by simp), ?_,
    h.inst_iff_update (by simp [hheld]) (by simp), ?_, h.ownInst_update (by simp [hheld]),
    h.numbers, h.sequence⟩
  · intro id
    by_cases hid : id = image.id
    · simp [Store.putImage, hid]
    · simpa [Store.putImage, hid, Ne.symm hid] using h.image_iff id
  · intro id other hother
    by_cases hid : image.id = id
    · have hsame : image = other := by simpa [Store.putImage, hid] using hother
      rw [← hsame, hid]
    · refine h.ownImage id other ?_
      simpa [Store.putImage, Std.ExtTreeMap.getElem?_insert, hid] using hother

/-- The volume goes with the instance. -/
theorem putInstance (h : Books place issued s) {inst : Instance} {volume : String} {i : Nat}
    (hheld : place inst.id = .held i) (hvolume : place volume = .held i)
    (hvolumes : inst.volumes = [volume]) (hne : volume ≠ inst.id) :
    Books (Function.update (Function.update place volume (.volume inst.id)) inst.id .inst) issued
      (s.putInstance inst) := by
  have hbooks : Books (Function.update place volume (.volume inst.id)) issued s :=
    ⟨h.issued_iff_update (by simp [hvolume]) (by simp),
      h.image_iff_update (by simp [hvolume]) (by simp),
      h.inst_iff_update (by simp [hvolume]) (by simp), h.ownImage,
      h.ownInst_update (by simp [hvolume]), h.numbers, h.sequence⟩
  have hheld' : Function.update place volume (.volume inst.id) inst.id = .held i := by
    simpa [Ne.symm hne] using hheld
  refine ⟨hbooks.issued_iff_update (by simp [hheld']) (by simp),
    hbooks.image_iff_update (by simp [hheld']) (by simp), ?_, h.ownImage, ?_, h.numbers,
    h.sequence⟩
  · intro id
    by_cases hid : id = inst.id
    · simp [Store.putInstance, hid]
    · simpa [Store.putInstance, hid, Ne.symm hid] using hbooks.inst_iff id
  · intro id other hother
    by_cases hid : inst.id = id
    · subst hid
      have hsame : inst = other := by simpa [Store.putInstance] using hother
      subst hsame
      exact ⟨rfl, volume, hvolumes, by simp [hne]⟩
    · refine hbooks.ownInst_update (by simp [hheld']) id other ?_
      simpa [Store.putInstance, Std.ExtTreeMap.getElem?_insert, hid] using hother

/-! ## What is removed and changed -/

theorem removeImage (h : Books place issued s) {id : String} (hmem : id ∈ s.images) :
    Books (Function.update place id .spent) issued (s.removeImage id).2 := by
  have hplace : place id = .image := (h.image_iff id).1 hmem
  refine ⟨h.issued_iff_update (by simp [hplace]) (by simp), ?_,
    h.inst_iff_update (by simp [hplace]) (by simp), ?_, h.ownInst_update (by simp [hplace]),
    h.numbers, h.sequence⟩
  · intro other
    by_cases hother : other = id
    · simp [Store.removeImage, hother]
    · simpa [Store.removeImage, hother, Ne.symm hother] using h.image_iff other
  · intro other record hrecord
    by_cases hother : id = other
    · simp [Store.removeImage, hother] at hrecord
    · refine h.ownImage other record ?_
      simpa [Store.removeImage, Std.ExtTreeMap.getElem?_erase, hother] using hrecord

theorem removeInstance (h : Books place issued s) {id : String} (hmem : id ∈ s.instances) :
    Books (Function.update place id .spent) issued (s.removeInstance id).2 := by
  have hplace : place id = .inst := (h.inst_iff id).1 hmem
  refine ⟨h.issued_iff_update (by simp [hplace]) (by simp),
    h.image_iff_update (by simp [hplace]) (by simp), ?_, h.ownImage, ?_, h.numbers, h.sequence⟩
  · intro other
    by_cases hother : other = id
    · simp [Store.removeInstance, hother]
    · simpa [Store.removeInstance, hother, Ne.symm hother] using h.inst_iff other
  · intro other record hrecord
    by_cases hother : id = other
    · simp [Store.removeInstance, hother] at hrecord
    · refine h.ownInst_update (by simp [hplace]) other record ?_
      simpa [Store.removeInstance, Std.ExtTreeMap.getElem?_erase, hother] using hrecord

theorem setState (h : Books place issued s) (id : String) (state : InstanceState) :
    Books place issued (s.setState id state).2 := by
  cases hinst : s.instances[id]? with
  | none => simpa [Store.setState, hinst] using h
  | some inst =>
      have hmem : id ∈ s.instances := Store.mem_of_getElem? hinst
      simp only [Store.setState, hinst]
      refine ⟨h.issued_iff, h.image_iff, ?_, h.ownImage, ?_, h.numbers, h.sequence⟩
      · intro other
        by_cases hother : id = other
        · subst hother
          simpa [hmem] using h.inst_iff id
        · simpa [hother] using h.inst_iff other
      · intro other record hrecord
        by_cases hother : id = other
        · subst hother
          have hchanged : { inst with state } = record := by simpa using hrecord
          subst hchanged
          exact h.ownInst id inst hinst
        · refine h.ownInst other record ?_
          simpa [Std.ExtTreeMap.getElem?_insert, hother] using hrecord

theorem setMaintenance (h : Books place issued s) (enabled : Bool) :
    Books place issued (s.setMaintenance enabled) :=
  ⟨h.issued_iff, h.image_iff, h.inst_iff, h.ownImage, h.ownInst, h.numbers, h.sequence⟩

/-! ## At the start -/

theorem empty : Books (fun _ => .unissued) [] .empty := by
  refine ⟨by simp, ?_, ?_, ?_, ?_, rfl, rfl⟩ <;> simp [Store.empty]

/-- Where the identifiers of the seeded store are. -/
def seededPlace (id : String) : Place :=
  if id = "img-1" ∨ id = "img-2" then .image
  else if id = "inst-3" then .inst
  else if id = "vol-4" then .volume "inst-3"
  else .unissued

theorem seeded : Books seededPlace ["img-1", "img-2", "inst-3", "vol-4"] .seeded := by
  have hstore : Store.seeded =
      { images := ((∅ : Std.ExtTreeMap String Image).insert "img-1"
          { id := "img-1", name := "fedora", arch := "x86_64", owner := "alice" }).insert "img-2"
          { id := "img-2", name := "debian", arch := "i386", owner := "bob" }
        instances := (∅ : Std.ExtTreeMap String Instance).insert "inst-3"
          { id := "inst-3", imageId := "img-2", state := .running, volumes := ["vol-4"] }
        sequence := 4 } := rfl
  have hvolume : seededPlace "vol-4" = .volume "inst-3" := rfl
  have hnumbers : Store.number? "img-1" = some 1 ∧ Store.number? "img-2" = some 2 ∧
      Store.number? "inst-3" = some 3 ∧ Store.number? "vol-4" = some 4 :=
    ⟨Store.number?_identifier "img" 1, Store.number?_identifier "img" 2,
      Store.number?_identifier "inst" 3, Store.number?_identifier "vol" 4⟩
  rw [hstore]
  refine ⟨?_, ?_, ?_, ?_, ?_, by simp [hnumbers, List.range'], rfl⟩
  · intro id
    grind [seededPlace]
  · intro id
    grind [seededPlace]
  · intro id
    grind [seededPlace]
  · intro id image himage
    grind
  · intro id inst hinst
    grind

end Books
end Catalog
end ResourceRouting
