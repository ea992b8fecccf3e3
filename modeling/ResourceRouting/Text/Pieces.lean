/-!
# Pieces — cutting a text at a separator

A text is the list of its pieces between the occurrences of a separator. Cutting never loses a
character and gluing puts the separator back, so the two are inverse on lists of pieces that are
not empty and free of the separator (`glue_cut`, `cut_glue`).
-/

namespace ResourceRouting
namespace Text

/-! ## Lists of characters -/

/-- The pieces between the occurrences of `sep`, the empty ones included; there is always one. -/
def cutChars (sep : Char) : List Char → List (List Char)
  | [] => [[]]
  | c :: cs =>
      if c = sep then [] :: cutChars sep cs
      else
        match cutChars sep cs with
        | [] => [[c]]
        | p :: ps => (c :: p) :: ps

/-- The pieces one after the other, with `sep` between neighbours. -/
def glueChars (sep : Char) : List (List Char) → List Char
  | [] => []
  | [p] => p
  | p :: q :: ps => p ++ sep :: glueChars sep (q :: ps)

theorem cutChars_ne_nil (sep : Char) (cs : List Char) : cutChars sep cs ≠ [] := by
  cases cs with
  | nil => simp [cutChars]
  | cons c cs =>
      unfold cutChars
      split
      · simp
      · split <;> simp

theorem glueChars_cons_of_ne_nil {sep : Char} {p : List Char} {ps : List (List Char)}
    (h : ps ≠ []) : glueChars sep (p :: ps) = p ++ sep :: glueChars sep ps := by
  cases ps with
  | nil => exact absurd rfl h
  | cons q qs => rfl

theorem glueChars_cutChars (sep : Char) (cs : List Char) :
    glueChars sep (cutChars sep cs) = cs := by
  induction cs with
  | nil => rfl
  | cons c cs ih =>
      unfold cutChars
      split
      · next h => rw [glueChars_cons_of_ne_nil (cutChars_ne_nil sep cs), ih, h]; rfl
      · split
        · next h => exact absurd h (cutChars_ne_nil sep cs)
        · next p ps h =>
            rw [h] at ih
            cases ps with
            | nil => simpa [glueChars] using ih
            | cons q qs => simpa [glueChars] using ih

theorem not_mem_of_mem_cutChars {sep : Char} {cs p : List Char} (h : p ∈ cutChars sep cs) :
    sep ∉ p := by
  induction cs generalizing p with
  | nil => simp [cutChars] at h; simp [h]
  | cons c cs ih =>
      unfold cutChars at h
      split at h
      · rcases List.mem_cons.1 h with rfl | h
        · simp
        · exact ih h
      · next hc =>
          split at h
          · next h' => exact absurd h' (cutChars_ne_nil sep cs)
          · next q qs hq =>
              rcases List.mem_cons.1 h with rfl | h
              · have := ih (p := q) (by simp [hq])
                simp [this, Ne.symm hc]
              · exact ih (by simp [hq, h])

theorem cutChars_of_not_mem {sep : Char} {p : List Char} (h : sep ∉ p) :
    cutChars sep p = [p] := by
  induction p with
  | nil => rfl
  | cons c cs ih =>
      simp only [List.mem_cons, not_or] at h
      simp [cutChars, Ne.symm h.1, ih h.2]

/-- A separator between two texts ends the last piece of the first one. -/
theorem cutChars_append (sep : Char) (a b : List Char) :
    cutChars sep (a ++ sep :: b) = cutChars sep a ++ cutChars sep b := by
  induction a with
  | nil => simp [cutChars]
  | cons c cs ih =>
      by_cases hc : c = sep
      · simp [cutChars, hc, ih]
      · cases hcut : cutChars sep cs with
        | nil => exact absurd hcut (cutChars_ne_nil sep cs)
        | cons p ps => simp [cutChars, hc, ih, hcut]

theorem cutChars_append_sep {sep : Char} {p : List Char} (h : sep ∉ p) (cs : List Char) :
    cutChars sep (p ++ sep :: cs) = p :: cutChars sep cs := by
  rw [cutChars_append, cutChars_of_not_mem h]
  rfl

theorem cutChars_glueChars {sep : Char} {ps : List (List Char)} (hne : ps ≠ [])
    (h : ∀ p ∈ ps, sep ∉ p) : cutChars sep (glueChars sep ps) = ps := by
  induction ps with
  | nil => exact absurd rfl hne
  | cons p ps ih =>
      cases ps with
      | nil => exact cutChars_of_not_mem (h p (by simp))
      | cons q qs =>
          rw [glueChars, cutChars_append_sep (h p (by simp)),
            ih (by simp) (fun x hx => h x (List.mem_cons_of_mem p hx))]

/-! ## Texts -/

/-- The pieces of a text between the occurrences of `sep`. -/
def cut (sep : Char) (s : String) : List String :=
  (cutChars sep s.toList).map String.ofList

/-- The pieces glued together with `sep` between neighbours. -/
def glue (sep : Char) (pieces : List String) : String :=
  String.ofList (glueChars sep (pieces.map String.toList))

theorem cut_ne_nil (sep : Char) (s : String) : cut sep s ≠ [] := by
  simp [cut, cutChars_ne_nil]

theorem glue_cut (sep : Char) (s : String) : glue sep (cut sep s) = s := by
  have h : ((cutChars sep s.toList).map String.ofList).map String.toList =
      cutChars sep s.toList := by
    simp [Function.comp_def]
  simp [glue, cut, h, glueChars_cutChars]

theorem not_mem_of_mem_cut {sep : Char} {s p : String} (h : p ∈ cut sep s) :
    sep ∉ p.toList := by
  obtain ⟨cs, hcs, rfl⟩ := List.mem_map.1 h
  simpa using not_mem_of_mem_cutChars hcs

theorem cut_glue {sep : Char} {ps : List String} (hne : ps ≠ [])
    (h : ∀ p ∈ ps, sep ∉ p.toList) : cut sep (glue sep ps) = ps := by
  have h' : cutChars sep (glueChars sep (ps.map String.toList)) = ps.map String.toList := by
    refine cutChars_glueChars (by simpa using hne) ?_
    intro p hp
    obtain ⟨s, hs, rfl⟩ := List.mem_map.1 hp
    exact h s hs
  simp [cut, glue, h', Function.comp_def]

theorem cut_append (sep : Char) (s t : String) :
    cut sep (s ++ String.singleton sep ++ t) = cut sep s ++ cut sep t := by
  have hlist : (s ++ String.singleton sep ++ t).toList = s.toList ++ sep :: t.toList := by
    simp
  rw [cut, hlist, cutChars_append, List.map_append]
  rfl

theorem glue_cons_cons (sep : Char) (p q : String) (ps : List String) :
    glue sep (p :: q :: ps) = p ++ String.singleton sep ++ glue sep (q :: ps) := by
  apply String.toList_inj.1
  simp [glue, glueChars]

theorem glue_singleton (sep : Char) (p : String) : glue sep [p] = p := by
  simp [glue, glueChars]

/-- A text that is glued together is cut within its pieces and between them. -/
theorem cut_glue_flatMap (sep : Char) {ps : List String} (hne : ps ≠ []) :
    cut sep (glue sep ps) = ps.flatMap (cut sep) := by
  induction ps with
  | nil =>
      exact absurd rfl hne
  | cons p rest ih =>
      cases rest with
      | nil =>
          rw [glue_singleton, List.flatMap_cons, List.flatMap_nil, List.append_nil]
      | cons q rest =>
          rw [glue_cons_cons, cut_append, ih (List.cons_ne_nil q rest),
            List.flatMap_cons (x := p)]

/-- The texts one after the other with a comma between neighbours. -/
def commaList (items : List String) : String := glue ',' items

theorem commaList_eq_intercalate (items : List String) :
    commaList items = ",".intercalate items := by
  induction items with
  | nil =>
      rfl
  | cons item rest ih =>
      cases rest with
      | nil =>
          exact (glue_singleton ',' item).trans String.intercalate_singleton.symm
      | cons next rest =>
          calc
            commaList (item :: next :: rest)
                = item ++ String.singleton ',' ++ commaList (next :: rest) :=
                  glue_cons_cons ',' item next rest
            _ = item ++ "," ++ ",".intercalate (next :: rest) := by
                  rw [ih]
                  rfl
            _ = ",".intercalate (item :: next :: rest) :=
                  String.intercalate_cons_cons.symm

/-! ## As many pieces -/

theorem length_cut_pos (sep : Char) (s : String) : 0 < (cut sep s).length :=
  List.length_pos_iff.2 (cut_ne_nil sep s)

theorem length_le_length_flatMap_cut (sep : Char) (ps : List String) :
    ps.length ≤ (ps.flatMap (cut sep)).length := by
  induction ps with
  | nil =>
      exact Nat.le_refl 0
  | cons p rest ih =>
      have hp := length_cut_pos sep p
      rw [List.flatMap_cons, List.length_append, List.length_cons]
      omega

theorem cut_eq_singleton {sep : Char} {s : String} (h : (cut sep s).length = 1) :
    cut sep s = [s] := by
  obtain ⟨piece, hpiece⟩ := List.length_eq_one_iff.1 h
  have hglue := glue_cut sep s
  rw [hpiece, glue_singleton] at hglue
  rw [hpiece, hglue]

/-- If cutting the pieces once more gives no more of them, it changes none. -/
theorem flatMap_cut_eq_self {sep : Char} {ps : List String}
    (h : (ps.flatMap (cut sep)).length = ps.length) : ps.flatMap (cut sep) = ps := by
  induction ps with
  | nil =>
      rfl
  | cons p rest ih =>
      have hp := length_cut_pos sep p
      have hrest := length_le_length_flatMap_cut sep rest
      rw [List.flatMap_cons, List.length_append, List.length_cons] at h
      rw [List.flatMap_cons, cut_eq_singleton (by omega), ih (by omega)]
      rfl

/-- A text is glued together of so many pieces in one way only, if the separator is in none of
the pieces of one of the ways. -/
theorem eq_of_glue_eq {sep : Char} {ps qs : List String} (hlength : ps.length = qs.length)
    (hqs : ∀ q ∈ qs, sep ∉ q.toList) (h : glue sep ps = glue sep qs) : ps = qs := by
  by_cases hne : qs = []
  · rw [hne] at hlength ⊢
    exact List.length_eq_zero_iff.1 hlength
  · have hps : ps ≠ [] := by
      rintro rfl
      exact hne (List.length_eq_zero_iff.1 hlength.symm)
    -- cut once more, the pieces of the one way are those of the other, and so no more of them
    have hcut : ps.flatMap (cut sep) = qs := by
      rw [← cut_glue_flatMap sep hps, h, cut_glue hne hqs]
    rw [← hcut] at hlength ⊢
    exact (flatMap_cut_eq_self hlength.symm).symm

/-! ## Ends of a text -/

/-- The text without its leading characters that satisfy `p`. -/
def dropLeading (p : Char → Bool) (s : String) : String :=
  String.ofList (s.toList.dropWhile p)

/-- The text without its trailing characters that satisfy `p`. -/
def dropTrailing (p : Char → Bool) (s : String) : String :=
  String.ofList (s.toList.reverse.dropWhile p).reverse

/-- The text without its leading and trailing characters that satisfy `p`. -/
def dropEnds (p : Char → Bool) (s : String) : String :=
  dropTrailing p (dropLeading p s)

@[simp]
theorem toList_dropLeading (p : Char → Bool) (s : String) :
    (dropLeading p s).toList = s.toList.dropWhile p :=
  String.toList_ofList

@[simp]
theorem toList_dropTrailing (p : Char → Bool) (s : String) :
    (dropTrailing p s).toList = (s.toList.reverse.dropWhile p).reverse :=
  String.toList_ofList

/-- Whether `s` begins with `head`. -/
def beginsWith (head s : String) : Bool := head.toList.isPrefixOf s.toList

theorem beginsWith_iff {head s : String} : beginsWith head s = true ↔ ∃ rest, s = head ++ rest := by
  rw [beginsWith, List.isPrefixOf_iff_prefix]
  constructor
  · rintro ⟨rest, hrest⟩
    exact ⟨String.ofList rest, String.toList_inj.1 (by simp [hrest])⟩
  · rintro ⟨rest, rfl⟩
    exact ⟨rest.toList, by simp⟩

end Text
end ResourceRouting
