import Mathlib.Tactic.SplitIfs
import ResourceRouting.Json.Token

/-!
# Texts — documents of strings and what is written of them

Every part of a compact text shows where it ends: a string with its second quote, since those
inside it are escaped, and an array or an object with its closing bracket. So where a document is
made of strings alone, its text is that of no other one.

* `Json.firstChar?_escapedChar`: the first character of a string is read off its escaped form.
* `Json.text_cancel`: a text can be taken away in front of others.
* `Json.text_inj`: documents with one text are equal.
-/

namespace ResourceRouting

theorem Text.glueChars_cons (sep : Char) (p : List Char) (ps : List (List Char)) :
    glueChars sep (p :: ps) = p ++ ps.flatMap (sep :: ·) := by
  induction ps generalizing p with
  | nil =>
      simp [glueChars]
  | cons q rest ih =>
      rw [glueChars, ih, List.flatMap_cons, List.cons_append]

namespace Json

/-! ## Strings -/

/-- The character that an escaped form begins with, and what follows it. -/
def firstChar? : List Char → Option (Char × List Char)
  | '\\' :: 'u' :: digits => some (Char.ofNat (Text.numberIn 16 (digits.take 4)), digits.drop 4)
  | '\\' :: c :: rest => (unescaped? c).map fun d => (d, rest)
  | c :: rest => some (c, rest)
  | [] => none

theorem numberIn_hexDigit {n : Nat} (h : n < 0x20) :
    Text.numberIn 16 ['0', '0', hexDigit (n / 16), hexDigit (n % 16)] = n := by
  revert n
  decide

theorem firstChar?_escapedChar (c : Char) (rest : List Char) :
    firstChar? (escapedChar c ++ rest) = some (c, rest) := by
  unfold escapedChar
  split_ifs with hquote hslash hline hreturn htab hback hfeed hcontrol
  · subst hquote
    rfl
  · subst hslash
    rfl
  · subst hline
    rfl
  · subst hreturn
    rfl
  · subst htab
    rfl
  · subst hback
    rfl
  · subst hfeed
    rfl
  · simp [firstChar?, numberIn_hexDigit hcontrol]
  · rw [List.singleton_append]
    unfold firstChar?
    split <;> simp_all

theorem escapedChar_append_ne (c : Char) (xs ys : List Char) :
    escapedChar c ++ xs ≠ '"' :: ys := by
  intro h
  have hfirst := congrArg firstChar? h
  rw [firstChar?_escapedChar] at hfirst
  cases Option.some.inj hfirst
  cases h

/-- A string can be taken away up to the quote that ends it. -/
theorem escaped_cancel {cs ds xs ys : List Char}
    (h : cs.flatMap escapedChar ++ '"' :: xs = ds.flatMap escapedChar ++ '"' :: ys) :
    cs = ds ∧ xs = ys := by
  induction cs generalizing ds with
  | nil =>
      cases ds with
      | nil =>
          exact ⟨rfl, (List.cons.inj h).2⟩
      | cons d ds =>
          rw [List.flatMap_cons, List.append_assoc] at h
          exact absurd h.symm (escapedChar_append_ne d _ _)
  | cons c cs ih =>
      cases ds with
      | nil =>
          rw [List.flatMap_cons, List.append_assoc] at h
          exact absurd h (escapedChar_append_ne c _ _)
      | cons d ds =>
          have hfirst := congrArg firstChar? h
          simp only [List.flatMap_cons, List.append_assoc, firstChar?_escapedChar,
            Option.some.injEq, Prod.mk.injEq] at hfirst
          rcases hfirst with ⟨rfl, hrest⟩
          rcases ih hrest with ⟨rfl, htail⟩
          exact ⟨rfl, htail⟩

theorem toList_quoted (s : String) :
    (quoted s).toList = '"' :: (s.toList.flatMap escapedChar ++ ['"']) := by
  rw [quoted, String.toList_ofList, List.cons_append]

theorem quoted_cancel {s t : String} {xs ys : List Char}
    (h : (quoted s).toList ++ xs = (quoted t).toList ++ ys) : s = t ∧ xs = ys := by
  simp only [toList_quoted, List.cons_append, List.append_assoc, List.nil_append] at h
  rcases escaped_cancel (List.cons.inj h).2 with ⟨hchars, hrest⟩
  exact ⟨String.toList_inj.1 hchars, hrest⟩

/-! ## Documents -/

mutual

/-- The document is made of strings. -/
def Textual : Json → Prop
  | .string _ => True
  | .array items => TextualItems items
  | .object members => TextualMembers members
  | _ => False

def TextualItems : List Json → Prop
  | [] => True
  | item :: rest => Textual item ∧ TextualItems rest

def TextualMembers : List (String × Json) → Prop
  | [] => True
  | (_, value) :: rest => Textual value ∧ TextualMembers rest

end

/-- What is written of parts, with the bracket that closes them and what comes after it. -/
def closed (texts : List String) (close : Char) (xs : List Char) : List Char :=
  (Text.commaList texts).toList ++ close :: xs

/-- The same where another part has come before. -/
def following (texts : List String) (close : Char) (xs : List Char) : List Char :=
  (texts.map String.toList).flatMap (',' :: ·) ++ close :: xs

theorem closed_cons (part : String) (texts : List String) (close : Char) (xs : List Char) :
    closed (part :: texts) close xs = part.toList ++ following texts close xs := by
  simp [closed, following, Text.commaList, Text.glue, Text.glueChars_cons]

theorem following_cons (part : String) (texts : List String) (close : Char) (xs : List Char) :
    following (part :: texts) close xs = ',' :: closed (part :: texts) close xs := by
  rw [closed_cons]
  simp [following]

theorem closed_of_following {texts texts' : List String} {close : Char} (hclose : close ≠ ',')
    {xs ys : List Char} (h : following texts close xs = following texts' close ys) :
    closed texts close xs = closed texts' close ys := by
  cases texts with
  | nil =>
      cases texts' with
      | nil =>
          exact h
      | cons part rest =>
          rw [following_cons] at h
          exact absurd (List.cons.inj h).1 hclose
  | cons part rest =>
      rw [following_cons] at h
      cases texts' with
      | nil =>
          exact absurd (List.cons.inj h).1.symm hclose
      | cons part' rest' =>
          rw [following_cons] at h
          exact (List.cons.inj h).2

theorem toList_text_array (items : List Json) (xs : List Char) :
    (array items).text.toList ++ xs = '[' :: closed (itemTexts items) ']' xs := by
  simp [text, closed]

theorem toList_text_object (members : List (String × Json)) (xs : List Char) :
    (object members).text.toList ++ xs = '\x7b' :: closed (memberTexts members) '\x7d' xs := by
  simp [text, closed]

theorem closed_items_cons (item : Json) (rest : List Json) (close : Char) (xs : List Char) :
    closed (itemTexts (item :: rest)) close xs =
      item.text.toList ++ following (itemTexts rest) close xs := by
  rw [itemTexts, closed_cons]

theorem closed_members_cons (name : String) (value : Json) (rest : List (String × Json))
    (close : Char) (xs : List Char) :
    closed (memberTexts ((name, value) :: rest)) close xs =
      (quoted name).toList ++ ':' :: (value.text.toList ++
        following (memberTexts rest) close xs) := by
  rw [memberTexts, closed_cons]
  simp

/-- A text begins with a quote or with a bracket that opens. -/
theorem text_append_ne {v : Json} (h : v.Textual) (xs ys : List Char) :
    v.text.toList ++ xs ≠ ']' :: ys := by
  cases v with
  | string s => simp [text, toList_quoted]
  | array items => simp [text]
  | object members => simp [text]
  | _ => cases h

mutual

theorem text_cancel : ∀ a b : Json, a.Textual → b.Textual → ∀ {xs ys : List Char},
    a.text.toList ++ xs = b.text.toList ++ ys → a = b ∧ xs = ys
  -- a text of another kind begins with another character
  | .string s, b, _, hb, xs, ys, h => by
      cases b with
      | string t =>
          rcases quoted_cancel h with ⟨rfl, hrest⟩
          exact ⟨rfl, hrest⟩
      | array _ | object _ => simp [text, toList_quoted] at h
      | _ => cases hb
  | .array items, b, ha, hb, xs, ys, h => by
      cases b with
      | array items' =>
          rw [toList_text_array, toList_text_array] at h
          rcases items_cancel items items' ha hb (List.cons.inj h).2 with ⟨rfl, hrest⟩
          exact ⟨rfl, hrest⟩
      | string _ | object _ => simp [text, toList_quoted] at h
      | _ => cases hb
  | .object members, b, ha, hb, xs, ys, h => by
      cases b with
      | object members' =>
          rw [toList_text_object, toList_text_object] at h
          rcases members_cancel members members' ha hb (List.cons.inj h).2 with ⟨rfl, hrest⟩
          exact ⟨rfl, hrest⟩
      | string _ | array _ => simp [text, toList_quoted] at h
      | _ => cases hb
  | .null, _, ha, _, _, _, _ | .bool _, _, ha, _, _, _, _ | .number _, _, ha, _, _, _, _ => by
      cases ha

theorem items_cancel : ∀ as bs : List Json, TextualItems as → TextualItems bs →
    ∀ {xs ys : List Char},
      closed (itemTexts as) ']' xs = closed (itemTexts bs) ']' ys → as = bs ∧ xs = ys
  | [], [], _, _, xs, ys, h => ⟨rfl, (List.cons.inj h).2⟩
  | [], b :: bs, _, hb, xs, ys, h => by
      rw [closed_items_cons] at h
      exact absurd h.symm (text_append_ne hb.1 _ _)
  | a :: as, [], ha, _, xs, ys, h => by
      rw [closed_items_cons] at h
      exact absurd h (text_append_ne ha.1 _ _)
  | a :: as, b :: bs, ha, hb, xs, ys, h => by
      rw [closed_items_cons, closed_items_cons] at h
      rcases text_cancel a b ha.1 hb.1 h with ⟨rfl, hmore⟩
      -- the rest begins with a comma where there is more, and that is taken away with it
      rcases items_cancel as bs ha.2 hb.2 (closed_of_following (by decide) hmore) with
        ⟨rfl, hrest⟩
      exact ⟨rfl, hrest⟩

theorem members_cancel : ∀ as bs : List (String × Json), TextualMembers as →
    TextualMembers bs → ∀ {xs ys : List Char},
      closed (memberTexts as) '\x7d' xs = closed (memberTexts bs) '\x7d' ys →
        as = bs ∧ xs = ys
  | [], [], _, _, xs, ys, h => ⟨rfl, (List.cons.inj h).2⟩
  | [], (n, b) :: bs, _, _, xs, ys, h => by
      rw [closed_members_cons, toList_quoted] at h
      cases h
  | (m, a) :: as, [], _, _, xs, ys, h => by
      rw [closed_members_cons, toList_quoted] at h
      cases h
  | (m, a) :: as, (n, b) :: bs, ha, hb, xs, ys, h => by
      rw [closed_members_cons, closed_members_cons] at h
      rcases quoted_cancel h with ⟨rfl, hvalue⟩
      rcases text_cancel a b ha.1 hb.1 (List.cons.inj hvalue).2 with ⟨rfl, hmore⟩
      rcases members_cancel as bs ha.2 hb.2 (closed_of_following (by decide) hmore) with
        ⟨rfl, hrest⟩
      exact ⟨rfl, hrest⟩

end

/-- Documents of strings are told apart by their texts. -/
theorem text_inj {a b : Json} (ha : a.Textual) (hb : b.Textual) : a.text = b.text ↔ a = b := by
  refine ⟨fun h => ?_, congrArg text⟩
  exact (text_cancel a b ha hb (congrArg (·.toList ++ []) h)).1

end Json
end ResourceRouting
