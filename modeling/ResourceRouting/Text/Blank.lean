import ResourceRouting.Text.Pieces

/-!
# Blank — white space of a text

The characters with the property `White_Space`, and trimming by that property.
-/

namespace ResourceRouting
namespace Text

/-- The ranges of the property `White_Space`, both ends included. -/
def blankRanges : List (Nat × Nat) :=
  [(0x09, 0x0D), (0x20, 0x20), (0x85, 0x85), (0xA0, 0xA0), (0x1680, 0x1680), (0x2000, 0x200A),
   (0x2028, 0x2029), (0x202F, 0x202F), (0x205F, 0x205F), (0x3000, 0x3000)]

/-- Whether a character is white space. -/
def isBlank (c : Char) : Bool :=
  blankRanges.any fun r => r.1 ≤ c.toNat && c.toNat ≤ r.2

/-- The text without white space at its ends. -/
def trim (s : String) : String := dropEnds isBlank s

theorem dropWhile_isBlank {cs : List Char} (h : ∀ c ∈ cs.head?, isBlank c = false) :
    cs.dropWhile isBlank = cs := by
  cases cs with
  | nil => rfl
  | cons c rest => simp [h c rfl]

/-- A text without white space at its ends is trimmed. -/
theorem trim_eq_self {s : String} (hhead : ∀ c ∈ s.toList.head?, isBlank c = false)
    (hlast : ∀ c ∈ s.toList.getLast?, isBlank c = false) : trim s = s := by
  have hback : s.toList.reverse.dropWhile isBlank = s.toList.reverse :=
    dropWhile_isBlank (by simpa using hlast)
  apply String.toList_inj.1
  calc
    (trim s).toList = ((s.toList.dropWhile isBlank).reverse.dropWhile isBlank).reverse := by
      simp [trim, dropEnds]
    _ = (s.toList.reverse.dropWhile isBlank).reverse := by rw [dropWhile_isBlank hhead]
    _ = s.toList := by rw [hback, List.reverse_reverse]

theorem toList_trim (s : String) :
    (trim s).toList = ((s.toList.dropWhile isBlank).reverse.dropWhile isBlank).reverse := by
  simp [trim, dropEnds]

theorem mem_of_mem_trim {s : String} {c : Char} (h : c ∈ (trim s).toList) : c ∈ s.toList := by
  rw [toList_trim, List.mem_reverse] at h
  have hfront := (List.dropWhile_sublist isBlank).mem h
  exact (List.dropWhile_sublist isBlank).mem (List.mem_reverse.1 hfront)

/-- What is trimmed has no white space at its ends. -/
theorem trim_trim (s : String) : trim (trim s) = trim s := by
  have hfirst (cs : List Char) : ∀ c ∈ (cs.dropWhile isBlank).head?, isBlank c = false := by
    intro c hc
    simpa [Option.mem_def.1 hc] using List.head?_dropWhile_not isBlank cs
  refine trim_eq_self (fun c hc => ?_) (fun c hc => ?_)
  · -- what is cut off at the back leaves the first character in front, if any is left
    have hfront : (trim s).toList <+: s.toList.dropWhile isBlank := by
      rw [toList_trim, ← List.reverse_suffix, List.reverse_reverse]
      exact List.dropWhile_suffix isBlank
    obtain ⟨rest, hrest⟩ := hfront
    refine hfirst s.toList c ?_
    rw [← hrest, List.head?_append, Option.mem_def.1 hc]
    rfl
  · rw [toList_trim, List.getLast?_reverse] at hc
    exact hfirst _ c hc

/-- Whether a text holds white space only. -/
def isBlankText (s : String) : Bool := s.toList.all isBlank

example : [' ', '\t', '\n', '\r', '\x0B', '\x0C'].all isBlank = true := by decide

example : isBlank '\u200b' = false := by decide

end Text
end ResourceRouting
