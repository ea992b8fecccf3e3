import ResourceRouting.ErrorEnum.Declaration

/-!
# Paths — the last identifier of a path

Types and traits are named by paths, and only the last identifier of a path is looked at. A path
that is written out is read back in both places where one is looked up.

* `Path.lastIdent_text`: the last identifier of a type's path.
* `Attribute.listedNames_listing`: the last identifiers of the paths that an attribute lists.
-/

namespace ResourceRouting

namespace Text

/-- Every range of white space is apart from every range of letters and digits. -/
theorem blankRanges_apart :
    ∀ r ∈ blankRanges, ∀ r' ∈ alphanumericRanges, r.2 < r'.1 ∨ r'.2 < r.1 := by
  decide +kernel

theorem isAlphanum_ofNat_of_isBlank :
    ∀ n < 0x80, isBlank (Char.ofNat n) = true → (Char.ofNat n).isAlphanum = false := by
  decide +kernel

theorem isAlphanumeric_of_isBlank {c : Char} (h : isBlank c = true) :
    isAlphanumeric c = false := by
  -- letters and digits of ASCII are told by a test of their own, all others by ranges
  unfold isAlphanumeric
  split
  · rename_i hascii
    simpa [Char.ofNat_toNat, h] using isAlphanum_ofNat_of_isBlank c.toNat hascii
  · rw [List.any_eq_false]
    intro r' hr' hin
    simp only [isBlank, List.any_eq_true, Bool.and_eq_true, decide_eq_true_eq] at h hin
    rcases h with ⟨r, hr, hlow, hhigh⟩
    have := blankRanges_apart r hr r' hr'
    omega

end Text

namespace ErrorEnum

open Attribute (isIdentChar readIdent? readPath? lastIdents skipBlank skipRoot)

/-! ## Identifiers -/

/-- A text of letters, digits and underscores that begins with no digit. -/
structure IsIdent (s : String) : Prop where
  chars : ∀ c ∈ s.toList, isIdentChar c = true
  start : ∃ c rest, s.toList = c :: rest ∧ c.isDigit = false

namespace IsIdent

variable {s : String}

theorem not_isBlank (h : IsIdent s) {c : Char} (hc : c ∈ s.toList) : Text.isBlank c = false := by
  rw [← Bool.not_eq_true]
  intro hblank
  have hunderscore : c ≠ '_' := by
    rintro rfl
    exact absurd hblank (by decide)
  have hident := h.chars c hc
  simp [isIdentChar, hunderscore, Text.isAlphanumeric_of_isBlank hblank] at hident

theorem trim (h : IsIdent s) : Text.trim s = s :=
  Text.trim_eq_self (fun _ hc => h.not_isBlank (List.mem_of_mem_head? hc))
    (fun _ hc => h.not_isBlank (List.mem_of_mem_getLast? hc))

theorem colon_not_mem (h : IsIdent s) : ':' ∉ s.toList := by
  intro hmem
  exact absurd (h.chars ':' hmem) (by decide)

/-- White space does not run on into an identifier. -/
theorem skipBlank_append (h : IsIdent s) (rest : List Char) :
    skipBlank (s.toList ++ rest) = s.toList ++ rest := by
  rcases h.start with ⟨c, cs, hs, -⟩
  have hc : Text.isBlank c = false := h.not_isBlank (by simp [hs])
  simp [skipBlank, hs, hc]

/-- An identifier is read up to the first other character. No mark is taken for one. -/
theorem readIdent?_append (h : IsIdent s) {rest : List Char}
    (hrest : ∀ c ∈ rest.head?, isIdentChar c = false ∧ c ≠ '#') :
    readIdent? (s.toList ++ rest) = some (s, rest) := by
  have htake : (s.toList ++ rest).takeWhile isIdentChar = s.toList := by
    have hstop : rest.takeWhile isIdentChar = [] := by
      cases rest with
      | nil => rfl
      | cons c more => simp [(hrest c rfl).1]
    rw [List.takeWhile_append_of_pos h.chars, hstop, List.append_nil]
  -- a mark has a hash in the second place, where neither the identifier nor the rest has one
  have hmark : ∀ more, s.toList ++ rest ≠ 'r' :: '#' :: more := by
    intro more heq
    rcases h.start with ⟨c, cs, hs, -⟩
    have hsecond : (cs ++ rest).head? = some '#' := by
      have htail : cs ++ rest = '#' :: more := by
        rw [hs, List.cons_append] at heq
        exact (List.cons.inj heq).2
      rw [htail]
      rfl
    cases cs with
    | nil =>
        exact (hrest '#' hsecond).2 rfl
    | cons d ds =>
        have hd : d = '#' := by simpa using hsecond
        have hident : isIdentChar d = true := h.chars d (by simp [hs])
        exact absurd (hd ▸ hident) (by decide)
  rcases h.start with ⟨c, cs, hs, hdigit⟩
  unfold readIdent?
  split
  rename_i mark body hbody
  have hplain : mark = [] ∧ body = s.toList ++ rest := by
    split at hbody
    · rename_i more heq
      exact absurd heq (hmark more)
    · cases hbody
      exact ⟨rfl, rfl⟩
  rcases hplain with ⟨rfl, rfl⟩
  have hs' : String.ofList (c :: cs) = s := by
    rw [← hs, String.ofList_toList]
  simp only [htake]
  simp [hs, hdigit, hs']

end IsIdent

/-! ## Paths -/

/-- A path: the identifiers before the last one, the last one, and whether it begins at the
root. -/
structure Path where
  rooted : Bool := false
  qualifiers : List String := []
  last : String

namespace Path

/-- The text without the mark for the root. -/
def body (p : Path) : String := String.intercalate "::" (p.qualifiers ++ [p.last])

def text (p : Path) : String := if p.rooted then "::" ++ p.body else p.body

/-- Whether a path is made of identifiers. -/
structure Plain (p : Path) : Prop where
  qualifiers : ∀ q ∈ p.qualifiers, IsIdent q
  last : IsIdent p.last

theorem Plain.tail {rooted : Bool} {q last : String} {qualifiers : List String}
    (h : Plain ⟨rooted, q :: qualifiers, last⟩) : Plain ⟨rooted, qualifiers, last⟩ :=
  ⟨fun x hx => h.qualifiers x (List.mem_cons_of_mem q hx), h.last⟩

/-- What follows a path in a list: nothing, or a comma and more. -/
inductive Ends : List Char → Prop
  | nil : Ends []
  | comma (more : List Char) : Ends (',' :: more)

variable {p : Path} {rest : List Char}

@[simp]
theorem toList_body_nil (rooted : Bool) (last : String) :
    (body ⟨rooted, [], last⟩).toList = last.toList := by
  simp [body]

@[simp]
theorem toList_body_cons (rooted : Bool) (q : String) (qualifiers : List String) (last : String) :
    (body ⟨rooted, q :: qualifiers, last⟩).toList =
      q.toList ++ ':' :: ':' :: (body ⟨rooted, qualifiers, last⟩).toList := by
  simp [body, String.intercalate_cons_of_ne_nil]

theorem toList_text (p : Path) :
    p.text.toList = (if p.rooted then [':', ':'] else []) ++ p.body.toList := by
  unfold text
  split
  · rw [String.toList_append]
    rfl
  · rfl

/-- A text is longer than it has qualifiers. -/
theorem length_qualifiers_lt (h : p.Plain) : p.qualifiers.length < p.body.toList.length := by
  rcases p with ⟨rooted, qualifiers, last⟩
  induction qualifiers with
  | nil =>
      rcases h.last.start with ⟨c, cs, hlast, -⟩
      simp [hlast]
  | cons q qualifiers ih =>
      have hlength := ih h.tail
      simp only [toList_body_cons, List.length_append, List.length_cons] at hlength ⊢
      omega

/-- A path begins with an identifier. -/
theorem exists_body (h : p.Plain) : ∃ q more, IsIdent q ∧ p.body.toList = q.toList ++ more := by
  rcases p with ⟨rooted, _ | ⟨q, qualifiers⟩, last⟩
  · exact ⟨last, [], h.last, by simp⟩
  · exact ⟨q, _, h.qualifiers q List.mem_cons_self, toList_body_cons ..⟩

theorem skipBlank_body (h : p.Plain) (rest : List Char) :
    skipBlank (p.body.toList ++ rest) = p.body.toList ++ rest := by
  rcases exists_body h with ⟨q, more, hq, hbody⟩
  rw [hbody, List.append_assoc, hq.skipBlank_append]

/-- The last identifier is found behind all qualifiers. -/
theorem readPath?_body (h : p.Plain) (hrest : Ends rest) {fuel : Nat}
    (hfuel : p.qualifiers.length < fuel) :
    readPath? fuel (p.body.toList ++ rest) = some (p.last, rest) := by
  -- by the qualifiers: each is read and left behind with its two colons
  rcases p with ⟨rooted, qualifiers, last⟩
  induction qualifiers generalizing fuel with
  | nil =>
      cases fuel with
      | zero => cases hfuel
      | succ fuel =>
          have hread : readIdent? (last.toList ++ rest) = some (last, rest) := by
            refine h.last.readIdent?_append ?_
            cases hrest with
            | nil => simp
            | comma more => simp; decide
          rw [readPath?, skipBlank_body h, toList_body_nil, hread]
          cases hrest with
          | nil => rfl
          | comma more => rfl
  | cons q qualifiers ih =>
      cases fuel with
      | zero => cases hfuel
      | succ fuel =>
          have hq : IsIdent q := h.qualifiers q List.mem_cons_self
          have hread : readIdent? (q.toList ++
              (':' :: ':' :: (body ⟨rooted, qualifiers, last⟩).toList ++ rest)) =
              some (q, ':' :: ':' :: (body ⟨rooted, qualifiers, last⟩).toList ++ rest) :=
            hq.readIdent?_append (by simp; decide)
          rw [readPath?, skipBlank_body h, toList_body_cons, List.append_assoc, hread]
          exact ih h.tail (Nat.lt_of_succ_lt_succ hfuel)

/-- The mark for the root is no part of the path that is read. -/
theorem skipRoot_text (h : p.Plain) (rest : List Char) :
    skipRoot (skipBlank (p.text.toList ++ rest)) = p.body.toList ++ rest := by
  rw [toList_text]
  cases p.rooted with
  | true =>
      rfl
  | false =>
      rw [if_neg Bool.false_ne_true, List.nil_append, skipBlank_body h]
      rcases exists_body h with ⟨q, more, hq, hbody⟩
      rcases hq.start with ⟨c, cs, hc, -⟩
      have hcolon : c ≠ ':' := by
        rintro rfl
        exact hq.colon_not_mem (by simp [hc])
      rw [hbody, hc]
      unfold skipRoot
      split
      · rename_i heq
        simp only [List.cons_append, List.cons.injEq] at heq
        exact absurd heq.1 hcolon
      · rfl

/-- The path is read in any list that it begins. -/
theorem readPath?_text (h : p.Plain) (hrest : Ends rest) {fuel : Nat}
    (hfuel : p.text.toList.length ≤ fuel) :
    readPath? fuel (skipRoot (skipBlank (p.text.toList ++ rest))) = some (p.last, rest) := by
  rw [toList_text, List.length_append] at hfuel
  have hlength := length_qualifiers_lt h
  rw [skipRoot_text h]
  exact readPath?_body h hrest (by omega)

/-! ## Types -/

theorem getLast?_cutChars_body (h : p.Plain) :
    (Text.cutChars ':' p.body.toList).getLast? = some p.last.toList := by
  rcases p with ⟨rooted, qualifiers, last⟩
  induction qualifiers with
  | nil =>
      simp [Text.cutChars_of_not_mem h.last.colon_not_mem]
  | cons q qualifiers ih =>
      -- between the two colons there is a piece of its own, an empty one
      calc (Text.cutChars ':' (body ⟨rooted, q :: qualifiers, last⟩).toList).getLast?
          = (Text.cutChars ':' q.toList ++
              [] :: Text.cutChars ':' (body ⟨rooted, qualifiers, last⟩).toList).getLast? := by
            rw [toList_body_cons, Text.cutChars_append]
            rfl
        _ = some last.toList := by
            simp [List.getLast?_append, List.getLast?_cons, ih h.tail]

/-- The last identifier of a path is what its text ends in. -/
theorem lastIdent_text (h : p.Plain) : TypeExpr.lastIdent p.text = p.last := by
  have hlast : (Text.cutChars ':' p.text.toList).getLast? = some p.last.toList := by
    rw [toList_text]
    cases p.rooted with
    | true => simp [Text.cutChars, List.getLast?_cons, getLast?_cutChars_body h]
    | false => simpa using getLast?_cutChars_body h
  have hcut : (Text.cut ':' p.text).getLastD p.text = p.last := by
    simp [Text.cut, List.getLastD_eq_getLast?, hlast]
  rw [TypeExpr.lastIdent, hcut, h.last.trim]

end Path

/-! ## Lists of paths -/

namespace Attribute

/-- White space before a list does not matter. -/
theorem lastIdents_cons_blank {c : Char} (hc : Text.isBlank c = true) (cs : List Char)
    (fuel : Nat) : lastIdents fuel (c :: cs) = lastIdents fuel cs := by
  have hskip : skipBlank (c :: cs) = skipBlank cs := by
    simp [skipBlank, hc]
  cases fuel with
  | zero => rfl
  | succ fuel => rw [lastIdents, lastIdents, hskip]

theorem lastIdents_nil (fuel : Nat) : lastIdents fuel [] = [] := by
  rcases fuel with _ | _ | fuel
  · rfl
  · rfl
  · rfl

theorem lastIdents_text {p : Path} (h : p.Plain) {fuel : Nat}
    (hfuel : p.text.toList.length ≤ fuel) : lastIdents (fuel + 1) p.text.toList = [p.last] := by
  have hread := Path.readPath?_text h .nil hfuel
  rw [List.append_nil] at hread
  simp [lastIdents, hread]

theorem lastIdents_text_comma {p : Path} (h : p.Plain) {fuel : Nat}
    (hfuel : p.text.toList.length ≤ fuel) (more : List Char) :
    lastIdents (fuel + 1) (p.text.toList ++ ',' :: more) = p.last :: lastIdents fuel more := by
  simp [lastIdents, Path.readPath?_text h (.comma more) hfuel]

theorem lastIdents_listed {paths : List Path} (h : ∀ p ∈ paths, p.Plain) {fuel : Nat}
    (hfuel : (listed (paths.map Path.text)).toList.length < fuel) :
    lastIdents fuel (listed (paths.map Path.text)).toList = paths.map Path.last := by
  -- by the paths: each uses up more characters than the one step of fuel
  induction paths generalizing fuel with
  | nil =>
      exact lastIdents_nil fuel
  | cons p paths ih =>
      have hp : p.Plain := h p List.mem_cons_self
      cases fuel with
      | zero => cases hfuel
      | succ fuel =>
          cases paths with
          | nil =>
              have htext : listed ([p].map Path.text) = p.text := by
                simp [listed]
              rw [htext] at hfuel ⊢
              exact lastIdents_text hp (Nat.le_of_lt_succ hfuel)
          | cons q paths =>
              have htext : (listed ((p :: q :: paths).map Path.text)).toList =
                  p.text.toList ++ ',' :: ' ' :: (listed ((q :: paths).map Path.text)).toList := by
                simp [listed, String.intercalate_cons_cons]
              rw [htext, List.length_append, List.length_cons, List.length_cons] at hfuel
              calc lastIdents (fuel + 1) (listed ((p :: q :: paths).map Path.text)).toList
                  = p.last :: lastIdents fuel
                      (' ' :: (listed ((q :: paths).map Path.text)).toList) := by
                    rw [htext, lastIdents_text_comma hp (by omega)]
                _ = p.last :: lastIdents fuel (listed ((q :: paths).map Path.text)).toList := by
                    rw [lastIdents_cons_blank (by decide)]
                _ = (p :: q :: paths).map Path.last := by
                    rw [ih (fun p' hp' => h p' (List.mem_cons_of_mem p hp')) (by omega)]
                    rfl

theorem inside?_parenthesized (s : String) : inside? ("(" ++ s ++ ")") = some s.toList := by
  have htrim : Text.trim ("(" ++ s ++ ")") = "(" ++ s ++ ")" :=
    Text.trim_eq_self (by simp; decide) (by simp [List.getLast?_cons]; decide)
  simp [inside?, htrim, List.getLast?_cons]

/-- An attribute that lists paths lists their last identifiers. -/
theorem listedNames_listing {paths : List Path} (h : ∀ p ∈ paths, p.Plain) (path : String) :
    (Attribute.listing path (paths.map Path.text)).listedNames = paths.map Path.last := by
  have hinside : inside? (Attribute.listing path (paths.map Path.text)).args =
      some (listed (paths.map Path.text)).toList := inside?_parenthesized _
  rw [listedNames, hinside]
  exact lastIdents_listed h (Nat.lt_succ_self _)

end Attribute
end ErrorEnum
end ResourceRouting
