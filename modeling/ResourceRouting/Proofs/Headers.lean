import ResourceRouting.Http.Response
import ResourceRouting.Proofs.Lists
import ResourceRouting.Proofs.OctetOrder

/-!
# Headers — what a reply lists and what its response carries

To set a header takes away what was set before under a name that is equal up to the case of ASCII
letters. So a reply lists the last setting of each name, and since a response keeps its names in
lower case, none of them is lost when they are put in.

* `Reply.MadeBy`: the calls that make a reply, by their settings of headers.
* `Reply.current_concat`: the settings that stand, as one more header is set.
* `Http.Response.getElem?_headers_ofReply`: the headers of a response.
* `Reply.MadeBy.lists_and_carried`: what a reply lists, and what of it is sent.
-/

namespace ResourceRouting

theorem Text.sameUpToCase_eq_true_iff {a b : String} :
    sameUpToCase a b = true ↔ loweredAscii a = loweredAscii b := by
  simp [sameUpToCase]

theorem Text.sameUpToCase_comm (a b : String) : sameUpToCase a b = sameUpToCase b a := by
  rw [Bool.eq_iff_iff, sameUpToCase_eq_true_iff, sameUpToCase_eq_true_iff, eq_comm]

theorem Text.length_octets (s : String) : (octets s).length = octetCount s := by
  simp [octets, octetCount]

namespace Reply

/-- The calls that make a reply: one begins it, and each of the others sets a header or the body.
The settings of headers are those of all calls, in their order. -/
inductive MadeBy : List (String × String) → Reply → Prop
  | new (status : Nat) : MadeBy [] { status }
  | ok : MadeBy [] ok
  | text (status : Nat) (body : String) :
      MadeBy [(contentType, "text/plain; charset=utf-8")] (text status body)
  | json (status : Nat) (value : Json) :
      MadeBy [(contentType, "application/json")] (json status value)
  | withHeader {settings : List (String × String)} {r : Reply} (h : MadeBy settings r)
      (name value : String) : MadeBy (settings ++ [(name, value)]) (r.withHeader name value)
  | withBody {settings : List (String × String)} {r : Reply} (h : MadeBy settings r)
      (body : String) : MadeBy settings (r.withBody body)

/-- No later setting has the name of this one. -/
def Latest (settings : List (String × String)) (h : String × String) : Prop :=
  ∃ before after, settings = before ++ h :: after ∧
    ∀ k ∈ after, Text.sameUpToCase k.1 h.1 = false

/-- The settings whose names are not set again, in their order. -/
def current : List (String × String) → List (String × String)
  | [] => []
  | h :: later =>
      if ∃ k ∈ later, Text.sameUpToCase k.1 h.1 then current later else h :: current later

/-- What a reply lists, by the settings of the calls that made it. -/
structure Lists (settings : List (String × String)) (r : Reply) : Prop where
  /-- No two names are equal up to case. -/
  apart : r.headers.Pairwise fun a b => Text.sameUpToCase a.1 b.1 = false
  /-- The headers stand in the order of their last settings. -/
  headers_eq : r.headers = current settings
  /-- The value of a header is the one that was set last. -/
  header?_eq_some_iff : ∀ name value, r.header? name = some value ↔
    ∃ h, Latest settings h ∧ Text.sameUpToCase h.1 name = true ∧ h.2 = value
  /-- There is no value of a header that was never set. -/
  header?_eq_none_iff : ∀ name, r.header? name = none ↔
    ∀ h ∈ settings, Text.sameUpToCase h.1 name = false

/-! ## Settings that stand -/

variable {settings : List (String × String)}

theorem latest_cons_iff {a h : String × String} :
    Latest (a :: settings) h ↔
      ((∀ k ∈ settings, Text.sameUpToCase k.1 a.1 = false) ∧ a = h) ∨ Latest settings h := by
  constructor
  · rintro ⟨before, after, hsplit, hafter⟩
    rcases List.cons_eq_append_iff.1 hsplit with ⟨rfl, heq⟩ | ⟨front, rfl, rfl⟩
    · cases heq
      exact Or.inl ⟨hafter, rfl⟩
    · exact Or.inr ⟨front, after, rfl, hafter⟩
  · rintro (⟨hafter, rfl⟩ | ⟨before, after, rfl, hafter⟩)
    · exact ⟨[], settings, rfl, hafter⟩
    · exact ⟨a :: before, after, rfl, hafter⟩

theorem mem_current_iff {h : String × String} : h ∈ current settings ↔ Latest settings h := by
  induction settings with
  | nil =>
      simp [current, Latest]
  | cons a later ih =>
      have hnever : (∀ k ∈ later, Text.sameUpToCase k.1 a.1 = false) ↔
          ¬ ∃ k ∈ later, Text.sameUpToCase k.1 a.1 = true := by
        simp only [not_exists, not_and, Bool.not_eq_true]
      rw [latest_cons_iff, ← ih, current, hnever]
      split
      · rename_i hagain
        simp [hagain]
      · rename_i hagain
        rw [List.mem_cons, and_iff_right hagain, eq_comm]

theorem mem_of_mem_current {h : String × String} (hh : h ∈ current settings) : h ∈ settings := by
  rcases mem_current_iff.1 hh with ⟨before, after, rfl, -⟩
  exact List.mem_append_right before List.mem_cons_self

/-- Of the settings of one name the last one stands. -/
theorem exists_mem_current {h : String × String} (hh : h ∈ settings) :
    ∃ k ∈ current settings, Text.sameUpToCase k.1 h.1 = true := by
  induction settings generalizing h with
  | nil =>
      cases hh
  | cons a later ih =>
      rw [current]
      split
      · rename_i hagain
        rcases List.mem_cons.1 hh with rfl | hlater
        -- the setting that replaces it may be replaced in its turn
        · rcases hagain with ⟨k, hk, hsame⟩
          rcases ih hk with ⟨last, hlast, hname⟩
          rw [Text.sameUpToCase_eq_true_iff] at hsame hname
          exact ⟨last, hlast, Text.sameUpToCase_eq_true_iff.2 (hname.trans hsame)⟩
        · exact ih hlater
      · rcases List.mem_cons.1 hh with rfl | hlater
        · exact ⟨h, List.mem_cons_self, Text.sameUpToCase_eq_true_iff.2 rfl⟩
        · rcases ih hlater with ⟨last, hlast, hname⟩
          exact ⟨last, List.mem_cons_of_mem a hlast, hname⟩

theorem pairwise_current (settings : List (String × String)) :
    (current settings).Pairwise fun a b => Text.sameUpToCase a.1 b.1 = false := by
  induction settings with
  | nil =>
      exact List.Pairwise.nil
  | cons h later ih =>
      rw [current]
      split
      · exact ih
      · rename_i hagain
        refine List.pairwise_cons.2 ⟨fun k hk => ?_, ih⟩
        rw [Text.sameUpToCase_comm, ← Bool.not_eq_true]
        exact fun hsame => hagain ⟨k, mem_of_mem_current hk, hsame⟩

/-- One more setting takes away those of its name and is put at the end. -/
theorem current_concat (settings : List (String × String)) (h : String × String) :
    current (settings ++ [h]) =
      (current settings).filter (fun k => !Text.sameUpToCase k.1 h.1) ++ [h] := by
  induction settings with
  | nil =>
      simp [current]
  | cons a later ih =>
      have hmore : (∃ k ∈ later ++ [h], Text.sameUpToCase k.1 a.1 = true) ↔
          (∃ k ∈ later, Text.sameUpToCase k.1 a.1 = true) ∨ Text.sameUpToCase a.1 h.1 = true := by
        rw [Text.sameUpToCase_comm a.1]
        simp [or_and_right, exists_or]
      rw [List.cons_append, current, current, ih, if_congr hmore rfl rfl]
      -- the first setting is gone already, is taken away by the last one, or stands
      by_cases hagain : ∃ k ∈ later, Text.sameUpToCase k.1 a.1 = true
      · rw [if_pos (Or.inl hagain), if_pos hagain]
      · by_cases hsame : Text.sameUpToCase a.1 h.1 = true
        · rw [if_pos (Or.inr hsame), if_neg hagain, List.filter_cons_of_neg (by simp [hsame])]
        · rw [if_neg (by simp [hagain, hsame]), if_neg hagain,
            List.filter_cons_of_pos (by simp [hsame]), List.cons_append]

/-! ## Headers of a reply -/

theorem MadeBy.headers_eq {r : Reply} (h : MadeBy settings r) : r.headers = current settings := by
  induction h with
  | new | ok =>
      rfl
  | text | json =>
      simp [Reply.text, Reply.json, Reply.withHeader, Reply.withBody, current]
  | withHeader _ name value ih =>
      rw [current_concat, ← ih, Reply.withHeader]
  | withBody _ body ih =>
      exact ih

/-- Where names are apart, a search finds the header that has the name. -/
theorem header?_eq_some_iff {r : Reply}
    (h : r.headers.Pairwise fun a b => Text.sameUpToCase a.1 b.1 = false) {name value : String} :
    r.header? name = some value ↔
      ∃ k ∈ r.headers, Text.sameUpToCase k.1 name = true ∧ k.2 = value := by
  simp only [header?, Option.map_eq_some_iff, find?_eq_some_iff_isFirst]
  constructor
  · rintro ⟨k, hfirst, hvalue⟩
    exact ⟨k, hfirst.mem, hfirst.holds, hvalue⟩
  · rintro ⟨k, hk, hname, hvalue⟩
    rcases List.append_of_mem hk with ⟨before, after, hsplit⟩
    rw [hsplit, List.pairwise_append] at h
    refine ⟨k, ⟨before, after, hsplit, hname, fun b hb hsame => ?_⟩, hvalue⟩
    have hapart : Text.sameUpToCase b.1 k.1 = false := h.2.2 b hb k List.mem_cons_self
    rw [Text.sameUpToCase_eq_true_iff] at hname hsame
    exact Bool.false_ne_true
      (hapart.symm.trans (Text.sameUpToCase_eq_true_iff.2 (hsame.trans hname.symm)))

theorem MadeBy.lists {r : Reply} (h : MadeBy settings r) : Lists settings r where
  apart := h.headers_eq ▸ pairwise_current settings
  headers_eq := h.headers_eq
  header?_eq_some_iff name value := by
    have hapart := pairwise_current settings
    rw [← h.headers_eq] at hapart
    simp only [Reply.header?_eq_some_iff hapart, h.headers_eq, mem_current_iff]
  header?_eq_none_iff name := by
    simp only [header?, Option.map_eq_none_iff, List.find?_eq_none, h.headers_eq,
      Bool.not_eq_true]
    constructor
    · intro hnone k hk
      rcases exists_mem_current hk with ⟨last, hlast, hsame⟩
      have hother := hnone last hlast
      simp only [Text.sameUpToCase, beq_iff_eq, beq_eq_false_iff_ne] at hsame hother ⊢
      rwa [hsame] at hother
    · exact fun hnone k hk => hnone k (mem_of_mem_current hk)

end Reply

namespace Http
namespace Response

/-- What a response carries of a reply. -/
structure Carries (r : Reply) (response : Response) : Prop where
  status_eq : response.status = if 100 ≤ r.status ∧ r.status ≤ 999 then r.status else 500
  body_eq : response.body = r.body
  /-- The length of the body comes from the body alone. All other headers are the valid ones of the
  reply, in lower case. -/
  headers_iff : ∀ name value, response.headers[name]? = some value ↔
    (name = contentLength ∧ value = toString (Text.octets r.body).length) ∨
      (name ≠ contentLength ∧ ∃ h ∈ r.headers, isHeaderName h.1 = true ∧
        isHeaderValue h.2 = true ∧ Text.loweredAscii h.1 = name ∧ h.2 = value)

theorem getElem?_addHeader (headers : Std.ExtTreeMap String String) (h : String × String)
    (name : String) :
    (addHeader headers h)[name]? =
      if isHeaderName h.1 = true ∧ isHeaderValue h.2 = true ∧ Text.loweredAscii h.1 = name then
        some h.2
      else headers[name]? := by
  rw [addHeader]
  by_cases hvalid : (isHeaderName h.1 && isHeaderValue h.2) = true
  · rw [if_pos hvalid]
    rw [Bool.and_eq_true] at hvalid
    simp only [hvalid, true_and, Std.ExtTreeMap.getElem?_insert,
      Std.LawfulEqCmp.compare_eq_iff_eq]
  · rw [if_neg hvalid, if_neg]
    rw [Bool.and_eq_true] at hvalid
    exact fun hsent => hvalid ⟨hsent.1, hsent.2.1⟩

/-- Of headers with different names, all that are valid are put in. -/
theorem getElem?_foldl_addHeader {headers : List (String × String)}
    (h : headers.Pairwise fun a b => Text.sameUpToCase a.1 b.1 = false) {name value : String} :
    (headers.foldl addHeader ∅)[name]? = some value ↔
      ∃ k ∈ headers, isHeaderName k.1 = true ∧ isHeaderValue k.2 = true ∧
        Text.loweredAscii k.1 = name ∧ k.2 = value := by
  induction headers using List.reverseRecOn with
  | nil =>
      simp
  | append_singleton headers last ih =>
      rw [List.pairwise_append] at h
      simp only [List.foldl_append, List.foldl_cons, List.foldl_nil, getElem?_addHeader,
        List.mem_append, List.mem_singleton, or_and_right, exists_or, exists_eq_left]
      split
      · rename_i hsent
        -- what was put in before has another name
        have hother : ¬ ∃ k ∈ headers, isHeaderName k.1 = true ∧ isHeaderValue k.2 = true ∧
            Text.loweredAscii k.1 = name ∧ k.2 = value := by
          rintro ⟨k, hk, -, -, hname, -⟩
          have hapart := h.2.2 k hk last (List.mem_singleton.2 rfl)
          have hsame := Text.sameUpToCase_eq_true_iff.2 (hname.trans hsent.2.2.symm)
          exact Bool.false_ne_true (hapart.symm.trans hsame)
        rw [or_iff_right hother, Option.some_inj]
        exact ⟨fun hvalue => ⟨hsent.1, hsent.2.1, hsent.2.2, hvalue⟩, fun hlast => hlast.2.2.2⟩
      · rename_i hunsent
        rw [ih h.1, or_iff_left]
        exact fun hlast => hunsent ⟨hlast.1, hlast.2.1, hlast.2.2.1⟩

theorem getElem?_headers_ofReply (r : Reply) {name : String} (h : name ≠ contentLength) :
    (ofReply r).headers[name]? = (r.headers.foldl addHeader ∅)[name]? := by
  rw [ofReply, Std.ExtTreeMap.getElem?_insert,
    if_neg fun hsame => h (Std.LawfulEqCmp.compare_eq_iff_eq.1 hsame).symm]

theorem carries_ofReply {r : Reply}
    (h : r.headers.Pairwise fun a b => Text.sameUpToCase a.1 b.1 = false) :
    Carries r (ofReply r) where
  status_eq := by
    simp [ofReply]
  body_eq := rfl
  headers_iff name value := by
    by_cases hlength : name = contentLength
    · subst hlength
      rw [ofReply, Std.ExtTreeMap.getElem?_insert_self, Option.some_inj, Text.length_octets,
        eq_comm]
      simp
    · rw [getElem?_headers_ofReply r hlength, getElem?_foldl_addHeader h,
        or_iff_right fun hboth => hlength hboth.1, and_iff_right hlength]

end Response
end Http

/-- A reply lists the last setting of each name, in the order of these settings, and answers for a
name with the value of its last setting. Its response has the status if it is one, the body as it
is, and every header that is valid, with the length of the body in place of one that was set. -/
theorem Reply.MadeBy.lists_and_carried {settings : List (String × String)} {r : Reply}
    (h : MadeBy settings r) : Lists settings r ∧ Http.Response.Carries r (.ofReply r) :=
  ⟨h.lists, Http.Response.carries_ofReply h.lists.apart⟩

theorem Reply.MadeBy.lists_and_carried_text :
    let settings := [(contentType, "text/plain; charset=utf-8"), ("Content-Length", "99"),
      ("Content-Type", "text/html")]
    let r := ((Reply.text 1000 "pages").withHeader "Content-Length" "99").withHeader "Content-Type"
      "text/html"
    Lists settings r ∧ Http.Response.Carries r (.ofReply r) :=
  lists_and_carried (.withHeader (.withHeader (.text 1000 "pages") "Content-Length" "99")
    "Content-Type" "text/html")

end ResourceRouting
