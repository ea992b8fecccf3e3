import Mathlib.Tactic.Tauto
import ResourceRouting.Proofs.Dispatch.Shape
import ResourceRouting.Proofs.Lists
import ResourceRouting.Proofs.Paths.Along

/-!
# Instances — the paths that a pattern stands for

An instance of a pattern is what it becomes with some segment in the place of each placeholder,
one and the same name standing for another segment at each place. Matching accepts the instances
and nothing else, and keeps of each name what stands at its last place; so where no name has two
places, the path can be put together again from what was captured.

* `Path.matches_iff_isInstance`: the paths that match a pattern are its instances.
* `Path.getElem?_of_captures?`: a name captures what the path has at the last place of it.
* `Path.eq_of_instantiate`: no other values make the same path of the pattern.
* `Path.captures?_lossless`: all of this, of any pattern and path.
-/

namespace ResourceRouting
namespace Path

/-! ## Instances -/

/-- What may stand in a path for a segment of a pattern: any segment that is not empty for a
placeholder, and everything else for itself. -/
inductive Stands : String → String → Prop
  | literal {want : String} (hwant : ∀ name, want ≠ ":" ++ name) : Stands want want
  | placeholder {name got : String} (hgot : IsSegment got) : Stands (":" ++ name) got

/-- The path is the pattern with a segment, not an empty one, in the place of each placeholder. -/
def IsInstance (pattern path : String) : Prop :=
  ∃ parts, List.Forall₂ Stands (segments pattern) parts ∧ path = ofSegments parts

theorem stands_of_literal {want got : String} (h : placeholder? want = none) :
    Stands want got ↔ want = got := by
  constructor
  · intro hstands
    cases hstands with
    | literal =>
        rfl
    | placeholder =>
        rw [placeholder?_colon_append] at h
        cases h
  · rintro rfl
    exact .literal (placeholder?_eq_none_iff.1 h)

theorem stands_of_placeholder {want name got : String} (h : placeholder? want = some name) :
    Stands want got ↔ IsSegment got := by
  rw [placeholder?_eq_some_iff] at h
  constructor
  · intro hstands
    cases hstands with
    | literal hwant => exact absurd h (hwant name)
    | placeholder hgot => exact hgot
  · intro hgot
    rw [h]
    exact .placeholder hgot

theorem Stands.slash_not_mem {want got : String} (h : Stands want got)
    (hwant : '/' ∉ want.toList) : '/' ∉ got.toList := by
  cases h with
  | literal => exact hwant
  | placeholder hgot => exact hgot.2

/-- Segments of a path are accepted exactly if each stands for its segment of the pattern. -/
theorem accepts_iff_forall₂ {wants : List String} :
    ∀ {gots : List String}, (∀ got ∈ gots, '/' ∉ got.toList) →
      (Accepts wants gots ↔ List.Forall₂ Stands wants gots) := by
  induction wants with
  | nil =>
      intro gots _
      rw [accepts_nil_iff, List.forall₂_nil_left_iff]
  | cons want wants ih =>
      intro gots hgots
      cases gots with
      | nil =>
          simp [not_accepts_cons_nil]
      | cons got gots =>
          rw [List.forall_mem_cons] at hgots
          rw [List.forall₂_cons, ← ih hgots.2]
          cases hwant : placeholder? want with
          | none =>
              rw [accepts_literal_iff hwant, stands_of_literal hwant]
          | some name =>
              rw [accepts_placeholder_iff hwant, stands_of_placeholder hwant, IsSegment,
                and_iff_left hgots.1]

theorem matches_iff_forall₂ {pattern path : String} :
    Matches pattern path ↔ List.Forall₂ Stands (segments pattern) (segments path) := by
  rw [matches_iff_accepts, accepts_iff_forall₂ fun _ => slash_not_mem_of_mem_segments]

theorem matches_iff_isInstance {pattern path : String} :
    Matches pattern path ↔ IsInstance pattern path := by
  rw [matches_iff_forall₂]
  constructor
  · intro h
    exact ⟨segments path, h, (ofSegments_segments path).symm⟩
  · rintro ⟨parts, hparts, rfl⟩
    -- nothing that stands for a segment has a slash in it, so the path is cut at the same places
    have hfree : ∀ part ∈ parts, '/' ∉ part.toList :=
      forall_mem_of_forall₂ (fun _ _ hstands => hstands.slash_not_mem) hparts
        fun _ => slash_not_mem_of_mem_segments
    have hne : parts ≠ [] := by
      rintro rfl
      exact Text.cut_ne_nil '/' pattern (List.forall₂_nil_right_iff.1 hparts)
    rw [segments_ofSegments hne hfree]
    exact hparts

/-! ## Last places -/

/-- The value is what the path has where the pattern has the placeholder for the last time. -/
def LastAt (wants gots : List String) (name value : String) : Prop :=
  ∃ before after, wants = before ++ (":" ++ name) :: after ∧ ":" ++ name ∉ after ∧
    gots[before.length]? = some value

theorem mem_filterMap_placeholder? {wants : List String} {name : String} :
    name ∈ wants.filterMap placeholder? ↔ ":" ++ name ∈ wants := by
  simp [List.mem_filterMap, placeholder?_eq_some_iff]

/-- The first place of a pattern is the last one of a name only if no other has the name. -/
theorem lastAt_cons_iff {want got name value : String} {wants gots : List String} :
    LastAt (want :: wants) (got :: gots) name value ↔
      LastAt wants gots name value ∨
        (want = ":" ++ name ∧ ":" ++ name ∉ wants ∧ got = value) := by
  constructor
  · rintro ⟨before, after, hsplit, hafter, hgot⟩
    cases before with
    | nil =>
        cases hsplit
        exact Or.inr ⟨rfl, hafter, Option.some.inj hgot⟩
    | cons first before =>
        cases hsplit
        exact Or.inl ⟨before, after, rfl, hafter, hgot⟩
  · rintro (⟨before, after, rfl, hafter, hgot⟩ | ⟨rfl, hafter, rfl⟩)
    · exact ⟨want :: before, after, rfl, hafter, hgot⟩
    · exact ⟨[], wants, rfl, hafter, rfl⟩

theorem Fits.lastValue?_eq_some_iff {wants gots : List String} {captured : List (String × String)}
    (h : Fits wants gots captured) {name value : String} :
    Inputs.lastValue? captured name = some value ↔ LastAt wants gots name value := by
  induction h with
  | nil =>
      simp [Inputs.lastValue?, LastAt]
  | literal hwant _ ih =>
      rw [ih, lastAt_cons_iff, or_iff_left]
      rintro ⟨hname, -⟩
      exact placeholder?_eq_none_iff.1 hwant name hname
  | @capture want other got wants gots captured hwant _ hrest ih =>
      -- a pair counts only where no later one has its name
      have hlater : Inputs.lastValue? captured name = none ↔ ":" ++ name ∉ wants := by
        rw [Inputs.lastValue?_eq_none_iff, hrest.names, mem_filterMap_placeholder?]
      have hhere : want = ":" ++ name ↔ name = other := by
        rw [← placeholder?_eq_some_iff, hwant, Option.some.injEq, eq_comm]
      rw [Inputs.lastValue?_cons, Option.or_eq_some_iff, ih, hlater, lastAt_cons_iff, hhere]
      simp only [Option.ite_none_right_eq_some, Option.some.injEq]
      tauto

/-! ## Captures -/

theorem matches_of_captures? {pattern path : String} {captures : Inputs}
    (h : captures? pattern path = some captures) : Matches pattern path :=
  Option.isSome_iff_exists.2 ⟨captures, h⟩

theorem getElem?_of_captures? {pattern path : String} {captures : Inputs}
    (h : captures? pattern path = some captures) (name value : String) :
    captures[name]? = some value ↔ LastAt (segments pattern) (segments path) name value := by
  rcases captures?_eq_some_iff.1 h with ⟨captured, hfits, rfl⟩
  rw [Inputs.getElem?_ofPairs, hfits.lastValue?_eq_some_iff]

/-- What stands at the last place of a name is a segment, and not an empty one. -/
theorem LastAt.isSegment {wants gots : List String} {name value : String}
    (h : LastAt wants gots name value) (hstands : List.Forall₂ Stands wants gots) :
    IsSegment value := by
  rcases h with ⟨before, after, rfl, -, hvalue⟩
  rcases List.getElem?_eq_some_iff.1 hvalue with ⟨hi, rfl⟩
  have hthere := (List.forall₂_iff_get.1 hstands).2 before.length (by simp) hi
  exact (stands_of_placeholder (placeholder?_colon_append name)).1 (by simpa using hthere)

/-- A pattern that matches captures a segment under each of its names. -/
theorem exists_segment_of_captures? {pattern path : String} {captures : Inputs}
    (h : captures? pattern path = some captures) {name : String} (hname : name ∈ params pattern) :
    ∃ value, captures[name]? = some value ∧ IsSegment value := by
  have hmem := (mem_of_captures? h name).2 hname
  have hvalue := Std.ExtTreeMap.getElem?_eq_some_getElem hmem
  have hlast := (getElem?_of_captures? h name _).1 hvalue
  exact ⟨_, hvalue, hlast.isSegment (matches_iff_forall₂.1 (matches_of_captures? h))⟩

/-- Put back in their places, values that agree with what was captured make the path. -/
theorem Fits.map_fill {wants gots : List String} {captured : List (String × String)}
    (h : Fits wants gots captured) {values : Inputs}
    (hvalues : ∀ p ∈ captured, values[p.1]? = some p.2) : wants.map (fill values) = gots := by
  induction h with
  | nil =>
      rfl
  | literal hwant _ ih =>
      rw [List.map_cons, fill_of_literal hwant, ih hvalues]
  | capture hwant _ _ ih =>
      rw [List.forall_mem_cons] at hvalues
      rw [List.map_cons, fill_of_placeholder hwant, ih hvalues.2, Inputs.text, hvalues.1]
      rfl

theorem instantiate_of_captures? {pattern path : String} {captures : Inputs}
    (hnodup : (params pattern).Nodup) (h : captures? pattern path = some captures) :
    instantiate captures pattern = path := by
  rcases captures?_eq_some_iff.1 h with ⟨captured, hfits, rfl⟩
  have hfill := hfits.map_fill (getElem?_ofPairs_of_fits hnodup hfits)
  rw [instantiate, hfill, ofSegments_segments]

/-- Values that make an instance of the pattern are segments wherever it has a name. -/
theorem isSegment_of_forall₂_fill {pattern : String} {values : Inputs}
    (h : List.Forall₂ Stands (segments pattern) ((segments pattern).map (fill values))) :
    ∀ name ∈ params pattern, IsSegment (values.text name) := by
  rw [List.forall₂_map_right_iff, List.forall₂_same] at h
  intro name hname
  have hplaceholder := placeholder?_colon_append name
  have hthere := h _ (mem_filterMap_placeholder?.1 hname)
  rw [stands_of_placeholder hplaceholder, fill_of_placeholder hplaceholder] at hthere
  exact hthere

/-- Values that make a path of the pattern are those that it captures there. -/
theorem eq_of_instantiate {pattern path : String} {captures values : Inputs}
    (hnodup : (params pattern).Nodup) (h : captures? pattern path = some captures)
    (hnames : ∀ name, name ∈ values ↔ name ∈ params pattern)
    (hpath : instantiate values pattern = path) : values = captures := by
  have hstands := matches_iff_forall₂.1 (matches_of_captures? h)
  -- a slash within a value would make the path longer than the pattern
  have hfill : (segments pattern).map (fill values) = segments path := by
    refine Text.eq_of_glue_eq ?_ (fun _ => slash_not_mem_of_mem_segments) ?_
    · rw [List.length_map, hstands.length_eq]
    · exact hpath.trans (ofSegments_segments path).symm
  -- so the values are segments, and the pattern captures them as it captures those of the path
  have hself : captures? pattern path = some values := by
    rw [← hpath]
    refine captures?_instantiate hnodup hnames (isSegment_of_forall₂_fill ?_)
    rw [hfill]
    exact hstands
  exact Option.some.inj (hself.symm.trans h)

/-- Matching loses nothing. A pattern matches its instances and no other path. It captures the
names of its placeholders and no other, each with what the path has at its last place; and if no
name has two places, then what is captured makes the path of the pattern again, and nothing else
under these names does. -/
theorem captures?_lossless (pattern path : String) :
    ((∃ captures, captures? pattern path = some captures) ↔ IsInstance pattern path) ∧
    ∀ captures, captures? pattern path = some captures →
      (∀ name, name ∈ captures ↔ name ∈ params pattern) ∧
      (∀ name value, captures[name]? = some value ↔
        LastAt (segments pattern) (segments path) name value) ∧
      ((params pattern).Nodup →
        instantiate captures pattern = path ∧
        ∀ values : Inputs, (∀ name, name ∈ values ↔ name ∈ params pattern) →
          instantiate values pattern = path → values = captures) := by
  refine ⟨?_, ?_⟩
  · rw [← matches_iff_isInstance, Matches, Option.isSome_iff_exists]
  · intro captures h
    refine ⟨mem_of_captures? h, getElem?_of_captures? h, ?_⟩
    intro hnodup
    exact ⟨instantiate_of_captures? hnodup h, fun values => eq_of_instantiate hnodup h⟩

example : (captures? "/sites/:id/pages/:id" "/sites/7/pages/42").map Std.ExtTreeMap.toList =
    some [("id", "42")] := by decide +kernel

end Path
end ResourceRouting
