import ResourceRouting.Proofs.Paths.Root

/-!
# Along — paths that are put together from whole segments

Paths are joined as texts, and slashes are trimmed from their ends at every step. Where all that is
joined are segments, neither empty nor with a slash in them, nothing is ever trimmed: each step
appends segments, and the path is the list of them with slashes between.

* `Path.ofCollection_along`, `Path.ofOperation_along`: what collections and operations append.
* `Path.route_along`: the root of an application comes first, as segments of its own.
-/

namespace ResourceRouting
namespace Path

/-! ## Segments -/

/-- The text is one segment of a path: it is not empty and has no slash in it. -/
def IsSegment (s : String) : Prop := s ≠ "" ∧ '/' ∉ s.toList

instance (s : String) : Decidable (IsSegment s) := inferInstanceAs (Decidable (_ ∧ _))

/-- The text is not empty and has neither a slash nor a colon in it. -/
def IsPlain (s : String) : Prop := s ≠ "" ∧ '/' ∉ s.toList ∧ ':' ∉ s.toList

instance (s : String) : Decidable (IsPlain s) := inferInstanceAs (Decidable (_ ∧ _ ∧ _))

/-- There is a segment, and all entries are segments. -/
structure Proper (ss : List String) : Prop where
  nonempty : ss ≠ []
  all : ∀ s ∈ ss, IsSegment s

/-- The absolute path through the given segments. -/
def along (ss : List String) : String := "/" ++ ofSegments ss

/-- The segments of the root of an application; a root of slashes alone has none. -/
def rootSegments (routing : Routing) : List String :=
  if rootText routing = "" then [] else segments (rootText routing)

theorem IsPlain.isSegment {s : String} (h : IsPlain s) : IsSegment s := ⟨h.1, h.2.1⟩

theorem IsPlain.placeholder?_eq_none {s : String} (h : IsPlain s) : placeholder? s = none := by
  rw [placeholder?_eq_none_iff]
  rintro name rfl
  exact h.2.2 (by simp)

theorem isSegment_placeholder {name : String} (h : '/' ∉ name.toList) :
    IsSegment (":" ++ name) := by
  refine ⟨?_, ?_⟩
  · intro hempty
    have hlist := congrArg String.toList hempty
    simp at hlist
  · rw [String.toList_append, List.mem_append, not_or]
    exact ⟨by decide, h⟩

theorem IsSegment.bare {s : String} (h : IsSegment s) : Bare s := by
  rcases h with ⟨hne, hslash⟩
  cases hlist : s.toList with
  | nil =>
      exact absurd (String.toList_inj.1 hlist) hne
  | cons c rest =>
      refine ⟨c, rest, hlist, ?_⟩
      rw [hlist, List.mem_cons, not_or] at hslash
      simpa [isSlash] using Ne.symm hslash.1

theorem dropWhile_isSlash_of_not_mem {cs : List Char} (h : '/' ∉ cs) :
    cs.dropWhile isSlash = cs := by
  cases cs with
  | nil =>
      rfl
  | cons c rest =>
      have hc : ¬ isSlash c = true := by
        rw [List.mem_cons, not_or] at h
        simpa [isSlash] using Ne.symm h.1
      exact List.dropWhile_cons_of_neg hc

theorem IsSegment.dropTrailing {s : String} (h : IsSegment s) :
    Text.dropTrailing isSlash s = s := by
  have hreverse : '/' ∉ s.toList.reverse := by
    rw [List.mem_reverse]
    exact h.2
  apply String.toList_inj.1
  rw [Text.toList_dropTrailing, dropWhile_isSlash_of_not_mem hreverse, List.reverse_reverse]

theorem IsSegment.dropEnds {s : String} (h : IsSegment s) : Text.dropEnds isSlash s = s := by
  rw [Text.dropEnds, h.bare.dropLeading, h.dropTrailing]

theorem proper_singleton {s : String} (h : IsSegment s) : Proper [s] :=
  ⟨List.cons_ne_nil s [], List.forall_mem_singleton.2 h⟩

theorem Proper.append {ss ts : List String} (h : Proper ss) (ht : ∀ t ∈ ts, IsSegment t) :
    Proper (ss ++ ts) :=
  ⟨List.append_ne_nil_of_left_ne_nil h.nonempty ts, List.forall_mem_append.2 ⟨h.all, ht⟩⟩

theorem Proper.cons {s : String} {ss : List String} (hs : IsSegment s) (h : Proper ss) :
    Proper (s :: ss) :=
  (proper_singleton hs).append h.all

/-! ## Texts of segments -/

theorem ofSegments_singleton (s : String) : ofSegments [s] = s := Text.glue_singleton '/' s

theorem ofSegments_append {ss ts : List String} (hs : ss ≠ []) (ht : ts ≠ []) :
    ofSegments (ss ++ ts) = ofSegments ss ++ "/" ++ ofSegments ts := by
  have hcons : ∀ s next rest, ofSegments (s :: next :: rest) =
      s ++ "/" ++ ofSegments (next :: rest) := Text.glue_cons_cons '/'
  induction ss with
  | nil =>
      exact absurd rfl hs
  | cons s rest ih =>
      cases rest with
      | nil =>
          rcases List.exists_cons_of_ne_nil ht with ⟨t, ts, rfl⟩
          rw [List.singleton_append, hcons, ofSegments_singleton]
      | cons next rest =>
          have hrest := ih (List.cons_ne_nil next rest)
          rw [List.cons_append] at hrest
          rw [List.cons_append, List.cons_append, hcons, hrest, hcons]
          simp only [String.append_assoc]

theorem Proper.bare {ss : List String} (h : Proper ss) : Bare (ofSegments ss) := by
  rcases List.exists_cons_of_ne_nil h.nonempty with ⟨s, rest, rfl⟩
  have hs : Bare s := (h.all s List.mem_cons_self).bare
  by_cases hrest : rest = []
  · rw [hrest, ofSegments_singleton]
    exact hs
  · rw [← List.singleton_append, ofSegments_append (List.cons_ne_nil s []) hrest,
      ofSegments_singleton]
    exact (hs.append "/").append _

theorem Proper.absolute_along {ss : List String} (h : Proper ss) : Absolute (along ss) :=
  Or.inr ⟨ofSegments ss, h.bare, rfl⟩

/-- The last segment keeps the end of the text from being trimmed. -/
theorem Proper.dropTrailing {ss : List String} (h : Proper ss) :
    Text.dropTrailing isSlash (ofSegments ss) = ofSegments ss := by
  have hlast : IsSegment (ss.getLast h.nonempty) := h.all _ (List.getLast_mem h.nonempty)
  rw [← List.dropLast_append_getLast h.nonempty]
  generalize ss.getLast h.nonempty = last at *
  by_cases hbefore : ss.dropLast = []
  · rw [hbefore, List.nil_append, ofSegments_singleton, hlast.dropTrailing]
  · rw [ofSegments_append hbefore (List.cons_ne_nil last []), ofSegments_singleton,
      hlast.bare.dropTrailing_append, hlast.dropTrailing]

theorem Proper.dropTrailing_along {ss : List String} (h : Proper ss) :
    Text.dropTrailing isSlash (along ss) = along ss := by
  rw [along, h.bare.dropTrailing_append, h.dropTrailing]

theorem segments_along {ss : List String} (h : Proper ss) : segments (along ss) = "" :: ss := by
  rw [along, segments_slash_append]
  exact congrArg _ (segments_ofSegments h.nonempty fun s hs => (h.all s hs).2)

/-- What holds of a placeholder and of a name holds of either or both of them in turn. -/
theorem forall_mem_turn {P : String → Prop} {p q : Prop} [Decidable p] [Decidable q]
    {member name : String} (hmember : P member) (hname : P name) :
    ∀ s ∈ (if p then [member] else []) ++ if q then [] else [name], P s := by
  rw [List.forall_mem_append]
  refine ⟨?_, ?_⟩
  · split
    · exact List.forall_mem_singleton.2 hmember
    · exact List.forall_mem_nil _
  · split
    · exact List.forall_mem_nil _
    · exact List.forall_mem_singleton.2 hname

/-! ## Joining -/

section Joining

variable {ss : List String} (h : Proper ss)
include h

theorem join_ofSegments {s : String} (hs : IsSegment s) :
    join (ofSegments ss) s = ofSegments (ss ++ [s]) := by
  rw [join, h.dropTrailing, hs.dropEnds, ofSegments_append h.nonempty (List.cons_ne_nil s []),
    ofSegments_singleton]

theorem along_append {ts : List String} (ht : ts ≠ []) :
    along (ss ++ ts) = along ss ++ "/" ++ ofSegments ts := by
  rw [along, along, ofSegments_append h.nonempty ht]
  simp only [String.append_assoc]

theorem join_along {s : String} (hs : IsSegment s) : join (along ss) s = along (ss ++ [s]) := by
  rw [join, h.dropTrailing_along, hs.dropEnds, along_append h (List.cons_ne_nil s []),
    ofSegments_singleton]

theorem joinParam_along (name : String) :
    joinParam (along ss) name = along (ss ++ [":" ++ name]) := by
  rw [joinParam_eq, h.dropTrailing_along, along_append h (List.cons_ne_nil _ []),
    ofSegments_singleton]

/-- Only the first of the joined parts is a text without a slash in front. -/
theorem join_segment_ofSegments {s : String} (hs : IsSegment s) :
    join s (ofSegments ss) = ofSegments (s :: ss) := by
  have hends : Text.dropEnds isSlash (ofSegments ss) = ofSegments ss := by
    rw [Text.dropEnds, h.bare.dropLeading, h.dropTrailing]
  rw [join, hs.dropTrailing, hends, ← List.singleton_append,
    ofSegments_append (List.cons_ne_nil s []) h.nonempty, ofSegments_singleton]

theorem lead_append_ofSegments (routing : Routing) :
    lead routing ++ ofSegments ss = along (rootSegments routing ++ ss) := by
  rw [lead, rootSegments]
  by_cases hroot : rootText routing = ""
  · rw [if_pos hroot, if_pos hroot]
    rfl
  · have hsegments : segments (rootText routing) ≠ [] := Text.cut_ne_nil '/' (rootText routing)
    rw [if_neg hroot, if_neg hroot, along, ofSegments_append hsegments h.nonempty,
      ofSegments_segments]
    simp only [String.append_assoc]

theorem route_ofSegments (routing : Routing) :
    routing.route (ofSegments ss) = along (rootSegments routing ++ ss) := by
  rw [route_of_bare h.bare, lead_append_ofSegments h]

/-- The root of an application is in front of a path, whether or not the path has its slash. -/
theorem route_along (routing : Routing) :
    routing.route (along ss) = along (rootSegments routing ++ ss) := by
  have hslash : routing.route (along ss) = routing.route (ofSegments ss) := by
    rw [along, route_eq, route_eq, dropLeading_slash_append h.bare, h.bare.dropLeading]
  rw [hslash, route_ofSegments h]

/-! ## Collections and operations -/

/-- A collection goes through a member of its parent if it names an identifier of its own, and
then by its name unless it has no segment. -/
theorem ofCollection_along {name id : String} (hname : IsSegment name) (hid : '/' ∉ id.toList)
    (customId noMember : Bool) :
    ofCollection name (.under (along ss) (if customId then some id else none) noMember) =
      along (ss ++ ((if customId then [":" ++ id] else []) ++
        if noMember then [] else [name])) := by
  cases customId with
  | false =>
      cases noMember with
      | false => exact join_along h hname
      | true => simp [ofCollection]
  | true =>
      have hmember : Proper (ss ++ [":" ++ id]) :=
        h.append (List.forall_mem_singleton.2 (isSegment_placeholder hid))
      cases noMember with
      | false => simp [ofCollection, joinParam_along h, join_along hmember hname]
      | true => simp [ofCollection, joinParam_along h]

theorem ofOperation_along {idParam name : String} (hid : '/' ∉ idParam.toList)
    (hname : IsSegment name) (scope : Scope) (canonical : Bool) :
    ofOperation (along ss) idParam name scope canonical =
      along (ss ++ ((if scope = .member then [":" ++ idParam] else []) ++
        if canonical then [] else [name])) := by
  cases scope with
  | collection =>
      cases canonical with
      | false => exact join_along h hname
      | true => simp [ofOperation]
  | member =>
      have hmember : Proper (ss ++ [":" ++ idParam]) :=
        h.append (List.forall_mem_singleton.2 (isSegment_placeholder hid))
      cases canonical with
      | false => simp [ofOperation, joinParam_along h, join_along hmember hname]
      | true => simp [ofOperation, joinParam_along h]

end Joining

theorem ofCollection_root {name : String} (hname : IsSegment name) :
    ofCollection name .root = along [name] := by
  have hempty : Text.dropTrailing isSlash "" = "" := by decide
  rw [ofCollection, join, hempty, hname.dropEnds, along, ofSegments_singleton, String.empty_append]

end Path
end ResourceRouting
