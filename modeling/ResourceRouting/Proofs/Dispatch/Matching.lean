import Mathlib.Data.List.Nodup
import ResourceRouting.Path

/-!
# Matching — patterns and the paths that fit them

`Fits` relates the segments of a pattern to those of a path and lists what the placeholders
capture. `instantiate` goes the other way and puts values in the place of the placeholders.

* `captures?_eq_some_iff`: matching finds a fit whenever there is one.
* `captures?_instantiate`: a pattern captures the values of its own instances.
* `Fits.rival`: a pattern that fits an instance of another one, no value being a literal of it,
  has more placeholders or the same shape.
-/

namespace ResourceRouting

theorem Inputs.size_eq_length {inputs : Inputs} {names : List String} (hnodup : names.Nodup)
    (h : ∀ name, name ∈ inputs ↔ name ∈ names) : inputs.size = names.length := by
  have hkeys : inputs.keys.Nodup := Std.ExtTreeMap.nodup_keys
  have hsame : inputs.keys.Perm names := by
    refine (List.perm_ext_iff_of_nodup hkeys hnodup).2 ?_
    intro name
    rw [Std.ExtTreeMap.mem_keys, h]
  rw [← Std.ExtTreeMap.length_keys, hsame.length_eq]

namespace Path

/-! ## Fits -/

/-- A literal fits itself and a placeholder any segment that is not empty. -/
inductive Fits : List String → List String → List (String × String) → Prop
  | nil : Fits [] [] []
  | literal {want : String} {wants gots : List String} {captured : List (String × String)}
      (hwant : placeholder? want = none) (hrest : Fits wants gots captured) :
      Fits (want :: wants) (want :: gots) captured
  | capture {want name got : String} {wants gots : List String}
      {captured : List (String × String)} (hwant : placeholder? want = some name)
      (hgot : got ≠ "") (hrest : Fits wants gots captured) :
      Fits (want :: wants) (got :: gots) ((name, got) :: captured)

theorem fits_of_matchSegments :
    ∀ {wants gots : List String} {captured : List (String × String)},
      matchSegments wants gots = some captured → Fits wants gots captured := by
  intro wants
  induction wants with
  | nil =>
      intro gots captured h
      cases gots with
      | nil =>
          cases h
          exact .nil
      | cons got gots =>
          cases h
  | cons want wants ih =>
      intro gots captured h
      cases gots with
      | nil =>
          cases h
      | cons got gots =>
          cases hwant : placeholder? want with
          | none =>
              by_cases hsame : want = got
              · -- a literal is matched by itself and adds no capture
                subst hsame
                have hrest : matchSegments wants gots = some captured := by
                  simpa [matchSegments, hwant] using h
                exact .literal hwant (ih hrest)
              · simp [matchSegments, hwant, hsame] at h
          | some name =>
              by_cases hgot : got = ""
              · simp [matchSegments, hwant, hgot] at h
              · have hrest : ∃ rest, matchSegments wants gots = some rest ∧
                    (name, got) :: rest = captured := by
                  simpa [matchSegments, hwant, hgot] using h
                rcases hrest with ⟨rest, hmatch, rfl⟩
                exact .capture hwant hgot (ih hmatch)

theorem matchSegments_of_fits {wants gots : List String} {captured : List (String × String)} :
    Fits wants gots captured → matchSegments wants gots = some captured := by
  intro h
  induction h with
  | nil =>
      rfl
  | literal hwant _ ih =>
      simp [matchSegments, hwant, ih]
  | capture hwant hgot _ ih =>
      simp [matchSegments, hwant, hgot, ih]

theorem matchSegments_eq_some_iff {wants gots : List String}
    {captured : List (String × String)} :
    matchSegments wants gots = some captured ↔ Fits wants gots captured :=
  ⟨fits_of_matchSegments, matchSegments_of_fits⟩

theorem captures?_eq_some_iff {pattern path : String} {captures : Inputs} :
    captures? pattern path = some captures ↔
      ∃ captured, Fits (segments pattern) (segments path) captured ∧
        Inputs.ofPairs captured = captures := by
  simp [captures?, matchSegments_eq_some_iff]

/-- What is captured goes by the names of the placeholders, from left to right. -/
theorem Fits.names {wants gots : List String} {captured : List (String × String)} :
    Fits wants gots captured → captured.map Prod.fst = wants.filterMap placeholder? := by
  intro h
  induction h with
  | nil =>
      rfl
  | literal hwant _ ih =>
      simpa [hwant] using ih
  | capture hwant _ _ ih =>
      simpa [hwant] using ih

theorem mem_of_captures? {pattern path : String} {captures : Inputs}
    (h : captures? pattern path = some captures) (name : String) :
    name ∈ captures ↔ name ∈ params pattern := by
  rcases captures?_eq_some_iff.1 h with ⟨captured, hfits, rfl⟩
  rw [Inputs.mem_ofPairs, hfits.names, params]

theorem size_of_captures? {pattern path : String} {captures : Inputs}
    (hnodup : (params pattern).Nodup) (h : captures? pattern path = some captures) :
    captures.size = (params pattern).length :=
  Inputs.size_eq_length hnodup (mem_of_captures? h)

/-- Where no name repeats, the value of each placeholder is found under its name. -/
theorem getElem?_ofPairs_of_fits {wants gots : List String} {captured : List (String × String)}
    (hnodup : (wants.filterMap placeholder?).Nodup) (h : Fits wants gots captured) :
    ∀ p ∈ captured, (Inputs.ofPairs captured)[p.1]? = some p.2 := by
  intro p hp
  have hnames : (captured.map Prod.fst).Nodup := by
    rw [h.names]
    exact hnodup
  have hlast : Inputs.lastValue? captured p.1 = some p.2 :=
    (Inputs.lastValue?_eq_some_iff_mem hnames).2 hp
  rw [Inputs.getElem?_ofPairs, hlast]

/-! ## Instances -/

/-- A segment with the value of its name in the place of a placeholder. -/
def fill (values : Inputs) (segment : String) : String :=
  match placeholder? segment with
  | some name => values.text name
  | none => segment

/-- The path that a pattern becomes with values in the place of its placeholders. -/
def instantiate (values : Inputs) (pattern : String) : String :=
  ofSegments ((segments pattern).map (fill values))

/-- The segments of a pattern that are no placeholders. -/
def literals (pattern : String) : List String :=
  (segments pattern).filter fun segment => (placeholder? segment).isNone

theorem mem_literals_iff {pattern segment : String} :
    segment ∈ literals pattern ↔ segment ∈ segments pattern ∧ placeholder? segment = none := by
  simp [literals]

theorem fill_of_literal {values : Inputs} {segment : String} (h : placeholder? segment = none) :
    fill values segment = segment := by
  simp [fill, h]

theorem fill_of_placeholder {values : Inputs} {segment name : String}
    (h : placeholder? segment = some name) : fill values segment = values.text name := by
  simp [fill, h]

/-- Values without slashes stay one segment each. -/
theorem segments_instantiate {values : Inputs} {pattern : String}
    (h : ∀ name ∈ params pattern, '/' ∉ (values.text name).toList) :
    segments (instantiate values pattern) = (segments pattern).map (fill values) := by
  refine segments_ofSegments_map ?_
  intro segment hmem
  cases hsegment : placeholder? segment with
  | none =>
      rw [fill_of_literal hsegment]
      exact slash_not_mem_of_mem_segments hmem
  | some name =>
      rw [fill_of_placeholder hsegment]
      exact h name (List.mem_filterMap.2 ⟨segment, hmem, hsegment⟩)

theorem instantiate_of_params_eq_nil {pattern : String} (values : Inputs)
    (h : params pattern = []) : instantiate values pattern = pattern := by
  have hliteral : ∀ segment ∈ segments pattern, fill values segment = segment := by
    intro segment hmem
    exact fill_of_literal (List.filterMap_eq_nil_iff.1 h segment hmem)
  calc
    ofSegments ((segments pattern).map (fill values))
        = ofSegments ((segments pattern).map id) := by rw [List.map_congr_left hliteral]; rfl
    _ = ofSegments (segments pattern) := by rw [List.map_id]
    _ = pattern := ofSegments_segments pattern

theorem fits_fill (values : Inputs) : ∀ wants : List String,
    (∀ name ∈ wants.filterMap placeholder?, values.text name ≠ "") →
      Fits wants (wants.map (fill values))
        ((wants.filterMap placeholder?).map fun name => (name, values.text name)) := by
  intro wants
  induction wants with
  | nil =>
      intro _
      exact .nil
  | cons want wants ih =>
      intro hvalues
      cases hwant : placeholder? want with
      | none =>
          simp only [List.filterMap_cons, hwant] at hvalues ⊢
          rw [List.map_cons, fill_of_literal hwant]
          exact .literal hwant (ih hvalues)
      | some name =>
          simp only [List.filterMap_cons, hwant] at hvalues ⊢
          rw [List.map_cons, List.map_cons, fill_of_placeholder hwant]
          exact .capture hwant (hvalues name List.mem_cons_self)
            (ih fun other hmem => hvalues other (List.mem_cons_of_mem name hmem))

/-- Values are captured as they were put in, each under its name. -/
theorem captures?_instantiate {values : Inputs} {pattern : String}
    (hnodup : (params pattern).Nodup) (hnames : ∀ name, name ∈ values ↔ name ∈ params pattern)
    (hvalues : ∀ name ∈ params pattern,
      values.text name ≠ "" ∧ '/' ∉ (values.text name).toList) :
    captures? pattern (instantiate values pattern) = some values := by
  have hsegments := segments_instantiate fun name hname => (hvalues name hname).2
  have hfits := fits_fill values (segments pattern) fun name hname => (hvalues name hname).1
  refine captures?_eq_some_iff.2 ⟨_, ?_, Inputs.ofPairs_graph hnodup hnames⟩
  rw [hsegments]
  exact hfits

/-! ## Rivals -/

/-- Of the patterns that fit an instance no other has as few placeholders, unless it has the same
shape. -/
theorem Fits.rival {values : Inputs} : ∀ {wants others : List String}
    {captured : List (String × String)}, Fits others (wants.map (fill values)) captured →
      (∀ name ∈ wants.filterMap placeholder?, ∀ other ∈ others, placeholder? other = none →
        values.text name ≠ other) →
      (wants.filterMap placeholder?).length ≤ (others.filterMap placeholder?).length ∧
        ((others.filterMap placeholder?).length = (wants.filterMap placeholder?).length →
          others.map anonymous = wants.map anonymous) := by
  intro wants
  induction wants with
  | nil =>
      intro others captured h _
      cases h with
      | nil => simp
  | cons want wants ih =>
      intro others captured h hvalues
      cases hwant : placeholder? want with
      | none =>
          have hrest : ∀ name ∈ wants.filterMap placeholder?,
              name ∈ (want :: wants).filterMap placeholder? := by
            intro name hname
            simpa [hwant] using hname
          rw [List.map_cons, fill_of_literal hwant] at h
          cases h with
          | literal hother hfits =>
              have := ih hfits fun name hname other hmem =>
                hvalues name (hrest name hname) other (List.mem_cons_of_mem _ hmem)
              simpa [hwant] using this
          | @capture other name' got others gots captured hother hgot hfits =>
              -- a placeholder where the instance keeps a literal: one more from here on
              have hle := (ih hfits fun name hname other' hmem =>
                hvalues name (hrest name hname) other' (List.mem_cons_of_mem _ hmem)).1
              simp only [List.filterMap_cons, hwant, hother, List.length_cons]
              refine ⟨Nat.le_succ_of_le hle, ?_⟩
              intro hlength
              omega
      | some name =>
          have hname : name ∈ (want :: wants).filterMap placeholder? := by
            simp [hwant]
          have hrest : ∀ other ∈ wants.filterMap placeholder?,
              other ∈ (want :: wants).filterMap placeholder? := by
            intro other hmem
            simp only [List.filterMap_cons, hwant]
            exact List.mem_cons_of_mem name hmem
          rw [List.map_cons, fill_of_placeholder hwant] at h
          generalize hgot : values.text name = got at h
          cases h with
          | literal hother hfits =>
              -- the other pattern would have the value for a literal
              exact absurd hgot (hvalues name hname _ List.mem_cons_self hother)
          | @capture other name' got others gots captured hother hne hfits =>
              have hih := ih hfits fun name' hname' other' hmem =>
                hvalues name' (hrest name' hname') other' (List.mem_cons_of_mem _ hmem)
              simpa [hwant, hother, anonymous] using hih

/-- A pattern of another shape that matches an instance captures more of it, if no value is one
of its literals. -/
theorem rival_of_captures? {values : Inputs} {pattern other : String} {captures : Inputs}
    (hslash : ∀ name ∈ params pattern, '/' ∉ (values.text name).toList)
    (hliterals : ∀ name ∈ params pattern, values.text name ∉ literals other)
    (h : captures? other (instantiate values pattern) = some captures) :
    (params pattern).length ≤ (params other).length ∧
      ((params other).length = (params pattern).length → shape other = shape pattern) := by
  rcases captures?_eq_some_iff.1 h with ⟨captured, hfits, -⟩
  rw [segments_instantiate hslash] at hfits
  have hrival := hfits.rival fun name hname segment hmem hsegment heq =>
    hliterals name hname (mem_literals_iff.2 ⟨heq ▸ hmem, heq ▸ hsegment⟩)
  refine ⟨hrival.1, ?_⟩
  intro hlength
  rw [shape, shape, hrival.2 hlength]

end Path
end ResourceRouting
