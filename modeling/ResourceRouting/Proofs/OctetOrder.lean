import Mathlib.Data.List.Lex
import Mathlib.Data.String.Basic
import Std.Data.ExtTreeMap

/-!
# OctetOrder — texts are ordered as their octets

Texts are compared character by character, and hosts compare them octet by octet. In UTF-8 this is
the same: of two characters the smaller one has fewer octets and a smaller first octet, or as many
and a smaller one where they differ for the first time.

* `Text.partsBelow_utf8EncodeChar`: the octets of a smaller character.
* `Text.octets_lt`: the octets of a smaller text.
* `Text.pairwise_octets_keys`: so a map lists its keys in ascending order of octets.
-/

namespace ResourceRouting
namespace Text

/-- The octets of a text in UTF-8. -/
def octets (s : String) : List UInt8 := s.toUTF8.data.toList

theorem octets_eq_flatMap (s : String) : octets s = s.toList.flatMap String.utf8EncodeChar := by
  rw [octets, String.toUTF8_eq_toByteArray, ← String.utf8Encode_toList, List.utf8Encode,
    List.toList_data_toByteArray]

/-! ## Octets of characters -/

/-- Where the lists differ for the first time both have an entry, and the first one the smaller. -/
inductive PartsBelow : List UInt8 → List UInt8 → Prop
  | here {x y : UInt8} {xs ys : List UInt8} (hlt : x < y) : PartsBelow (x :: xs) (y :: ys)
  | later {x : UInt8} {xs ys : List UInt8} (hrest : PartsBelow xs ys) :
      PartsBelow (x :: xs) (x :: ys)

/-- Lists that part are ordered whatever comes after them. -/
theorem PartsBelow.append_lt {xs ys : List UInt8} (h : PartsBelow xs ys) (zs ws : List UInt8) :
    xs ++ zs < ys ++ ws := by
  induction h with
  | here hlt =>
      exact List.Lex.rel hlt
  | later _ ih =>
      exact List.Lex.cons ih

theorem partsBelow_of_lt {n m : Nat} (hm : m < 256) (hlt : n < m) (xs ys : List UInt8) :
    PartsBelow (UInt8.ofNat n :: xs) (UInt8.ofNat m :: ys) := by
  refine .here ?_
  rw [UInt8.lt_iff_toNat_lt, UInt8.toNat_ofNat', UInt8.toNat_ofNat']
  omega

theorem partsBelow_of_le {n m : Nat} {xs ys : List UInt8} (hm : m < 256) (hle : n ≤ m)
    (hrest : n = m → PartsBelow xs ys) :
    PartsBelow (UInt8.ofNat n :: xs) (UInt8.ofNat m :: ys) := by
  rcases Nat.lt_or_eq_of_le hle with hlt | rfl
  · exact partsBelow_of_lt hm hlt xs ys
  · exact .later (hrest rfl)

theorem partsBelow_utf8EncodeChar {c d : Char} (h : c < d) :
    PartsBelow (String.utf8EncodeChar c) (String.utf8EncodeChar d) := by
  have hlt : c.val.toNat < d.val.toNat := h
  have hd : d.val.toNat < 0x110000 := by
    rcases d.valid with hsmall | ⟨-, hlarge⟩
    · exact Nat.lt_trans hsmall (by decide)
    · exact hlarge
  simp only [String.utf8EncodeChar]
  generalize c.val.toNat = n at hlt
  generalize d.val.toNat = m at hlt hd
  -- the first octet tells how many there are; where they are as many, they are the digits of the
  -- characters, and the first digit that differs decides
  split_ifs
  all_goals first
    | exact partsBelow_of_lt (by omega) (by omega) _ _
    | exact partsBelow_of_le (by omega) (by omega) fun _ =>
        partsBelow_of_lt (by omega) (by omega) _ _
    | exact partsBelow_of_le (by omega) (by omega) fun _ =>
        partsBelow_of_le (by omega) (by omega) fun _ =>
          partsBelow_of_lt (by omega) (by omega) _ _
    | exact partsBelow_of_le (by omega) (by omega) fun _ =>
        partsBelow_of_le (by omega) (by omega) fun _ =>
          partsBelow_of_le (by omega) (by omega) fun _ =>
            partsBelow_of_lt (by omega) (by omega) _ _

/-! ## Octets of texts -/

theorem flatMap_utf8EncodeChar_lt {cs ds : List Char} (h : cs < ds) :
    cs.flatMap String.utf8EncodeChar < ds.flatMap String.utf8EncodeChar := by
  induction h with
  | @nil d ds =>
      cases hd : String.utf8EncodeChar d with
      | nil =>
          have hsize := String.length_utf8EncodeChar d
          rw [hd] at hsize
          exact absurd hsize.symm (Nat.ne_of_gt d.utf8Size_pos)
      | cons first rest =>
          simp [List.flatMap_cons, hd]
  | @rel c cs d ds hcd =>
      rw [List.flatMap_cons, List.flatMap_cons]
      exact (partsBelow_utf8EncodeChar hcd).append_lt _ _
  | cons _ ih =>
      rw [List.flatMap_cons, List.flatMap_cons]
      exact List.append_left_lt ih

theorem octets_lt {a b : String} (h : a < b) : octets a < octets b := by
  rw [octets_eq_flatMap, octets_eq_flatMap]
  exact flatMap_utf8EncodeChar_lt (String.lt_iff_toList_lt.1 h)

/-! ## Keys of maps -/

variable {β : Type}

theorem pairwise_keys (m : Std.ExtTreeMap String β) : m.keys.Pairwise (· < ·) := by
  have hordered : m.keys.Pairwise fun a b => compare a b = .lt := Std.ExtTreeMap.ordered_keys
  exact hordered.imp fun h => compareOfLessAndEq_eq_lt.1 h

theorem pairwise_octets_keys (m : Std.ExtTreeMap String β) :
    m.keys.Pairwise fun a b => octets a < octets b :=
  (pairwise_keys m).imp octets_lt

end Text
end ResourceRouting
