import ResourceRouting.Catalog.Store
import ResourceRouting.Text.Pieces
import Std.Data.String.ToNat

/-!
# Identifiers — the number at the end of an identifier

`Store.number?` reads off the number after the last hyphen of an identifier. Two identifiers of
different numbers are different texts, whatever their sorts, so a store that has no number beyond
its sequence can be given records under the identifiers that it issues next.
-/

namespace ResourceRouting
namespace Catalog
namespace Store

/-! ## Numbers -/

/-- The number after the last hyphen. -/
def number? (id : String) : Option Nat :=
  ((Text.cut '-' id).getLast?).bind String.toNat?

theorem cut_toString (n : Nat) : Text.cut '-' (toString n) = [toString n] := by
  have hdigits : '-' ∉ (toString n).toList := by
    intro hmem
    have hmem' : '-' ∈ Nat.toDigits 10 n := by simpa using hmem
    have hdigit : '-'.isDigit = true := Nat.isDigit_of_mem_toDigits (by omega) (by omega) hmem'
    exact absurd hdigit (by decide)
  simp only [Text.cut, Text.cutChars_of_not_mem hdigits, List.map_cons, List.map_nil,
    String.ofList_toList]

@[simp]
theorem number?_identifier (sort : String) (n : Nat) : number? (identifier sort n) = some n := by
  have hcut : Text.cut '-' (identifier sort n) = Text.cut '-' sort ++ [toString n] := by
    calc
      Text.cut '-' (identifier sort n)
          = Text.cut '-' (sort ++ String.singleton '-' ++ toString n) := rfl
      _ = Text.cut '-' sort ++ Text.cut '-' (toString n) := Text.cut_append '-' sort (toString n)
      _ = Text.cut '-' sort ++ [toString n] := by rw [cut_toString]
  simp [number?, hcut]

/-- No record has a number that the sequence has not reached, and the sequence does not begin
again within the next two numbers. -/
structure Numbered (s : Store) : Prop where
  images : ∀ id ∈ s.images, ∃ n ≤ s.sequence, number? id = some n
  instances : ∀ id ∈ s.instances, ∃ n ≤ s.sequence, number? id = some n
  room : s.sequence + 2 < twoTo 64

theorem nextNumber_of_lt {s : Store} (h : s.sequence + 1 < twoTo 64) :
    s.nextNumber = s.sequence + 1 :=
  Nat.mod_eq_of_lt h

/-- An identifier of a number that is beyond the sequence is in no map of the store. -/
theorem Numbered.fresh {s : Store} (h : s.Numbered) {n : Nat} (hn : s.sequence < n)
    (sort : String) : identifier sort n ∉ s.images ∧ identifier sort n ∉ s.instances := by
  refine ⟨?_, ?_⟩
  · intro hmem
    rcases h.images _ hmem with ⟨m, hm, hnumber⟩
    have hsame : n = m := by simpa using hnumber
    omega
  · intro hmem
    rcases h.instances _ hmem with ⟨m, hm, hnumber⟩
    have hsame : n = m := by simpa using hnumber
    omega

/-! ## Records -/

@[simp]
theorem images_issue (s : Store) (sort : String) : (s.issue sort).2.images = s.images := rfl

@[simp]
theorem instances_issue (s : Store) (sort : String) :
    (s.issue sort).2.instances = s.instances := rfl

theorem erase_of_none {β : Type} {records : Std.ExtTreeMap String β} {id : String}
    (h : records[id]? = none) : records.erase id = records := by
  apply Std.ExtTreeMap.ext_getElem?
  intro other
  by_cases hother : id = other
  · subst hother
    simp [h]
  · simp [Std.ExtTreeMap.getElem?_erase, hother]

theorem mem_of_getElem? {β : Type} {records : Std.ExtTreeMap String β} {id : String} {record : β}
    (h : records[id]? = some record) : id ∈ records := by
  simp [Std.ExtTreeMap.mem_iff_isSome_getElem?, h]

end Store
end Catalog
end ResourceRouting
