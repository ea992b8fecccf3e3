import ResourceRouting.Proofs.Dispatch.Shape
import ResourceRouting.Proofs.Paths.Segments

/-!
# Root — full paths under one root and under another

An absolute path is a slash or begins with exactly one. With the root in front of it, it keeps the
segments that it has below its slash, and the root comes before them; so what is told of two
absolute paths by their segments is not changed by a root in front of both.

* `Path.shape_route_iff`: a root in front of two patterns leaves it open whether they have one
  shape.
* `Path.captures?_route`: a root without a placeholder captures nothing and hides no match.
* `Path.route_route_slash`: a root goes in front of full paths under the root `/` as in front of
  the paths themselves.
-/

namespace ResourceRouting

/-- The settings with another root. -/
def Routing.withRoot (r : Routing) (root : String) : Routing := { r with rootPath := root }

namespace Path

/-! ## Absolute paths -/

/-- The path is a slash, or begins with exactly one. -/
def Absolute (path : String) : Prop := path = "/" ∨ ∃ rest, Bare rest ∧ path = "/" ++ rest

/-- The segments of an absolute path below its slash; the slash alone has none. -/
def below (path : String) : List String := if path = "/" then [] else (segments path).tail

theorem segments_slash_append (rest : String) : segments ("/" ++ rest) = "" :: segments rest := by
  have h := segments_append_slash "" rest
  rw [String.empty_append] at h
  exact h

theorem below_slash : below "/" = [] := if_pos rfl

theorem segments_slash : segments "/" = ["", ""] := by decide

theorem Bare.slash_append_ne {rest : String} (h : Bare rest) : "/" ++ rest ≠ "/" := by
  rcases h with ⟨c, cs, hrest, -⟩
  intro heq
  have hlist := congrArg String.toList heq
  simp [hrest] at hlist

theorem Bare.below {rest : String} (h : Bare rest) : below ("/" ++ rest) = segments rest := by
  have hsegments : (segments ("/" ++ rest)).tail = segments rest := by
    simp [segments_slash_append]
  rw [Path.below, if_neg h.slash_append_ne, hsegments]

/-- The first segment of a text that begins with one is not empty. -/
theorem Bare.segments {rest : String} (h : Bare rest) :
    ∃ s ss, Path.segments rest = s :: ss ∧ s ≠ "" := by
  rcases h with ⟨c, cs, hrest, hc⟩
  have hslash : c ≠ '/' := by
    rintro rfl
    cases hc
  cases hcut : Text.cutChars '/' cs with
  | nil =>
      exact absurd hcut (Text.cutChars_ne_nil '/' cs)
  | cons p ps =>
      refine ⟨String.ofList (c :: p), ps.map String.ofList, ?_, ?_⟩
      · simp [Path.segments, Text.cut, Text.cutChars, hrest, hslash, hcut]
      · intro hempty
        have hlist := congrArg String.toList hempty
        simp at hlist

theorem dropLeading_eq_empty_or_bare (path : String) :
    Text.dropLeading isSlash path = "" ∨ Bare (Text.dropLeading isSlash path) := by
  cases hdrop : path.toList.dropWhile isSlash with
  | nil =>
      left
      simp [Text.dropLeading, hdrop]
  | cons c rest =>
      right
      have hc : isSlash c = false := by
        have hhead := List.head?_dropWhile_not isSlash path.toList
        simpa [hdrop] using hhead
      exact ⟨c, rest, by simp [hdrop], hc⟩

/-! ## Absolute paths and shapes -/

theorem map_anonymous_below_iff {p q : String} (hp : Absolute p) (hq : Absolute q) :
    (below p).map anonymous = (below q).map anonymous ↔ shape p = shape q := by
  have hempty : ∀ s : String, s ≠ "" → anonymous "" ≠ anonymous s := by
    intro s hs heq
    rcases anonymous_eq_iff.1 heq with ⟨-, rfl⟩ | ⟨hnone, -⟩
    · exact hs rfl
    · cases hnone
  rw [shape_eq_iff]
  rcases hp with rfl | ⟨rest, hrest, rfl⟩
  · rcases hq with rfl | ⟨rest, hrest, rfl⟩
    · simp
    · rcases hrest.segments with ⟨s, ss, hsegments, hs⟩
      have hne := hempty s hs
      simp [below_slash, hrest.below, segments_slash, segments_slash_append, hsegments, hne]
  · rcases hq with rfl | ⟨rest', hrest', rfl⟩
    · rcases hrest.segments with ⟨s, ss, hsegments, hs⟩
      have hne := (hempty s hs).symm
      simp [below_slash, hrest.below, segments_slash, segments_slash_append, hsegments, hne]
    · simp [hrest.below, hrest'.below, segments_slash_append]

/-! ## Absolute paths and matching -/

theorem placeholder?_empty : placeholder? "" = none := by decide

/-- Nothing is lost by looking below the slash: no segment that is not empty fits the empty one
after it. -/
theorem matchSegments_below {p q : String} (hp : Absolute p) (hq : Absolute q) :
    matchSegments (below p) (below q) = matchSegments (segments p) (segments q) := by
  -- where one path is the slash alone, its empty segment is neither captured nor equal to another
  rcases hp with rfl | ⟨rest, hrest, rfl⟩
  · rcases hq with rfl | ⟨rest, hrest, rfl⟩
    · simp [below_slash, segments_slash, matchSegments, placeholder?_empty]
    · rcases hrest.segments with ⟨s, ss, hsegments, hs⟩
      simp [below_slash, hrest.below, segments_slash, segments_slash_append, hsegments,
        matchSegments, placeholder?_empty, hs.symm]
  · rcases hq with rfl | ⟨rest', hrest', rfl⟩
    · rcases hrest.segments with ⟨s, ss, hsegments, hs⟩
      cases hplaceholder : placeholder? s with
      | none =>
          simp [below_slash, hrest.below, segments_slash, segments_slash_append, hsegments,
            matchSegments, placeholder?_empty, hplaceholder, hs]
      | some name =>
          simp [below_slash, hrest.below, segments_slash, segments_slash_append, hsegments,
            matchSegments, placeholder?_empty, hplaceholder]
    · simp [hrest.below, hrest'.below, segments_slash_append, matchSegments, placeholder?_empty]

/-- A common beginning without placeholders captures nothing. -/
theorem matchSegments_append_literals {common : List String}
    (h : ∀ segment ∈ common, placeholder? segment = none) (wants gots : List String) :
    matchSegments (common ++ wants) (common ++ gots) = matchSegments wants gots := by
  induction common with
  | nil =>
      rfl
  | cons segment common ih =>
      rw [List.forall_mem_cons] at h
      have hrest := ih h.2
      simp [matchSegments, h.1, hrest]

/-! ## The root in front -/

theorem dropLeading_slash : Text.dropLeading isSlash "/" = "" := by decide

/-- Where there is no root, an absolute path is a full one. -/
theorem route_eq_self {routing : Routing} {path : String} (hroot : rootText routing = "")
    (h : Absolute path) : routing.route path = path := by
  rcases h with rfl | ⟨rest, hrest, rfl⟩
  · simp [route_eq, hroot, dropLeading_slash]
  · simp [route_eq, hroot, dropLeading_slash_append hrest]

/-- The segments of the root come before those that a path has below its slash. -/
theorem segments_route {routing : Routing} {path : String} (hroot : rootText routing ≠ "")
    (h : Absolute path) :
    segments (routing.route path) = ("" :: segments (rootText routing)) ++ below path := by
  rcases h with rfl | ⟨rest, hrest, rfl⟩
  · simp [route_eq, hroot, dropLeading_slash, below_slash, segments_slash_append]
  · simp [route_eq, hroot, dropLeading_slash_append hrest, hrest.ne_empty, hrest.below,
      segments_append_slash, segments_slash_append]

/-- A root in front of two patterns leaves it open whether they have one shape. -/
theorem shape_route_iff (routing : Routing) {p q : String} (hp : Absolute p) (hq : Absolute q) :
    shape (routing.route p) = shape (routing.route q) ↔ shape p = shape q := by
  by_cases hroot : rootText routing = ""
  · rw [route_eq_self hroot hp, route_eq_self hroot hq]
  · have hbelow := map_anonymous_below_iff hp hq
    simp only [shape_eq_iff (p := routing.route p), segments_route hroot hp,
      segments_route hroot hq, List.map_append, List.append_cancel_left_eq]
    exact hbelow

/-- A root without a placeholder captures nothing and hides no match. -/
theorem captures?_route {routing : Routing}
    (hliteral : ∀ segment ∈ segments routing.rootPath, placeholder? segment = none)
    {pattern path : String} (hpattern : Absolute pattern) (hpath : Absolute path) :
    captures? (routing.route pattern) (routing.route path) = captures? pattern path := by
  by_cases hroot : rootText routing = ""
  · -- slashes alone are no root
    rw [route_eq_self hroot hpattern, route_eq_self hroot hpath]
  · have hparams : params (rootText routing) = [] := by
      rw [params_rootText]
      exact List.filterMap_eq_nil_iff.2 hliteral
    have hcommon : ∀ segment ∈ "" :: segments (rootText routing), placeholder? segment = none :=
      List.forall_mem_cons.2 ⟨placeholder?_empty, List.filterMap_eq_nil_iff.1 hparams⟩
    have hbelow : matchSegments (segments (routing.route pattern))
        (segments (routing.route path)) = matchSegments (segments pattern) (segments path) := by
      calc
        matchSegments (segments (routing.route pattern)) (segments (routing.route path))
            = matchSegments (("" :: segments (rootText routing)) ++ below pattern)
                (("" :: segments (rootText routing)) ++ below path) := by
              rw [segments_route hroot hpattern, segments_route hroot hpath]
        _ = matchSegments (below pattern) (below path) :=
              matchSegments_append_literals hcommon _ _
        _ = matchSegments (segments pattern) (segments path) :=
              matchSegments_below hpattern hpath
    simp only [captures?, hbelow]

/-! ## Roots in front of roots -/

theorem absolute_slash_dropLeading (path : String) :
    Absolute ("/" ++ Text.dropLeading isSlash path) := by
  rcases dropLeading_eq_empty_or_bare path with hempty | hbare
  · left
    simp [hempty]
  · exact Or.inr ⟨_, hbare, rfl⟩

/-- The slashes before a path do not count. -/
theorem route_slash_dropLeading (routing : Routing) (path : String) :
    routing.route ("/" ++ Text.dropLeading isSlash path) = routing.route path := by
  have hdrop : Text.dropLeading isSlash ("/" ++ Text.dropLeading isSlash path) =
      Text.dropLeading isSlash path := by
    rcases dropLeading_eq_empty_or_bare path with hempty | hbare
    · simp [hempty, dropLeading_slash]
    · exact dropLeading_slash_append hbare
  simp only [route_eq, hdrop]

theorem rootText_slash (routing : Routing) : rootText (routing.withRoot "/") = "" := by
  have hends : Text.dropEnds isSlash "/" = "" := by decide
  exact hends

theorem route_slash (routing : Routing) (path : String) :
    (routing.withRoot "/").route path = "/" ++ Text.dropLeading isSlash path := by
  simp [route_eq, rootText_slash]

/-- Full paths under the root `/` are absolute. -/
theorem absolute_route_slash (routing : Routing) (path : String) :
    Absolute ((routing.withRoot "/").route path) := by
  rw [route_slash]
  exact absolute_slash_dropLeading path

/-- A root in front of a full path under the root `/` is as good as in front of the path. -/
theorem route_route_slash (routing base : Routing) (path : String) :
    routing.route ((base.withRoot "/").route path) = routing.route path := by
  rw [route_slash, route_slash_dropLeading]

end Path
end ResourceRouting
