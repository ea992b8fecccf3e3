import ResourceRouting.Proofs.Dispatch.Matching
import ResourceRouting.Proofs.Plan

/-!
# Shape — patterns that match alike

The table refuses a binding by comparing shapes, and requests are answered by matching. Both say
the same of two patterns: a pattern matches its own shape, and a pattern that matches the shape of
another one has no literal where that one has a placeholder, so two patterns that match each
other's shapes have one shape.

* `Path.shape_eq_iff_alike`: two patterns have one shape exactly when they match the same paths.
* `Api.conflict_iff_alike`: so a binding is refused exactly when the table has one of its method
  that matches the same paths.
-/

namespace ResourceRouting
namespace Path

/-! ## Acceptance -/

/-- The segments of a pattern fit those of a path, whatever they capture. -/
def Accepts (wants gots : List String) : Prop := ∃ captured, Fits wants gots captured

/-- A pattern matches a path. -/
def Matches (pattern path : String) : Prop := (captures? pattern path).isSome = true

instance (pattern path : String) : Decidable (Matches pattern path) :=
  inferInstanceAs (Decidable (_ = true))

/-- Two patterns match the same paths. -/
def Alike (p q : String) : Prop := ∀ path, Matches p path ↔ Matches q path

theorem matches_iff_accepts {pattern path : String} :
    Matches pattern path ↔ Accepts (segments pattern) (segments path) := by
  unfold Matches Accepts
  rw [Option.isSome_iff_exists]
  constructor
  · rintro ⟨captures, h⟩
    rcases captures?_eq_some_iff.1 h with ⟨captured, hfits, -⟩
    exact ⟨captured, hfits⟩
  · rintro ⟨captured, hfits⟩
    exact ⟨Inputs.ofPairs captured, captures?_eq_some_iff.2 ⟨captured, hfits, rfl⟩⟩

theorem accepts_nil_iff {gots : List String} : Accepts [] gots ↔ gots = [] := by
  constructor
  · rintro ⟨captured, hfits⟩
    cases hfits
    rfl
  · rintro rfl
    exact ⟨[], .nil⟩

theorem not_accepts_cons_nil {want : String} {wants : List String} :
    ¬ Accepts (want :: wants) [] := by
  rintro ⟨captured, hfits⟩
  cases hfits

theorem accepts_literal_iff {want got : String} {wants gots : List String}
    (hwant : placeholder? want = none) :
    Accepts (want :: wants) (got :: gots) ↔ want = got ∧ Accepts wants gots := by
  constructor
  · rintro ⟨captured, hfits⟩
    cases hfits with
    | literal _ hrest =>
        exact ⟨rfl, captured, hrest⟩
    | capture hname _ _ =>
        rw [hwant] at hname
        cases hname
  · rintro ⟨rfl, captured, hrest⟩
    exact ⟨captured, .literal hwant hrest⟩

theorem accepts_placeholder_iff {want name got : String} {wants gots : List String}
    (hwant : placeholder? want = some name) :
    Accepts (want :: wants) (got :: gots) ↔ got ≠ "" ∧ Accepts wants gots := by
  constructor
  · rintro ⟨captured, hfits⟩
    cases hfits with
    | literal hnone _ =>
        rw [hwant] at hnone
        cases hnone
    | capture _ hgot hrest =>
        exact ⟨hgot, _, hrest⟩
  · rintro ⟨hgot, captured, hrest⟩
    exact ⟨(name, got) :: captured, .capture hwant hgot hrest⟩

/-! ## Segments without names -/

theorem anonymous_of_literal {segment : String} (h : placeholder? segment = none) :
    anonymous segment = segment := by
  simp [anonymous, h]

theorem anonymous_of_placeholder {segment name : String} (h : placeholder? segment = some name) :
    anonymous segment = ":" := by
  simp [anonymous, h]

theorem placeholder?_colon : placeholder? ":" = some "" := by decide

theorem ne_colon_of_literal {segment : String} (h : placeholder? segment = none) :
    segment ≠ ":" := by
  rintro rfl
  rw [placeholder?_colon] at h
  cases h

/-- What a segment is without its name tells whether it is a placeholder, and a literal is told
in whole. -/
theorem anonymous_eq_iff {want other : String} :
    anonymous want = anonymous other ↔
      (placeholder? want = none ∧ want = other) ∨
        ((placeholder? want).isSome = true ∧ (placeholder? other).isSome = true) := by
  cases hwant : placeholder? want with
  | none =>
      rw [anonymous_of_literal hwant]
      cases hother : placeholder? other with
      | none =>
          simp [anonymous_of_literal hother]
      | some name =>
          have hne : want ≠ other := by
            rintro rfl
            rw [hwant] at hother
            cases hother
          simp [anonymous_of_placeholder hother, ne_colon_of_literal hwant, hne]
  | some name =>
      rw [anonymous_of_placeholder hwant]
      cases hother : placeholder? other with
      | none =>
          simp [anonymous_of_literal hother, (ne_colon_of_literal hother).symm]
      | some name' =>
          simp [anonymous_of_placeholder hother]

/-! ## Shapes as paths -/

/-- A pattern matches its own shape, where every placeholder captures a colon. -/
theorem accepts_shape (wants : List String) : Accepts wants (wants.map anonymous) := by
  induction wants with
  | nil =>
      exact accepts_nil_iff.2 rfl
  | cons want wants ih =>
      rw [List.map_cons]
      cases hwant : placeholder? want with
      | none =>
          exact (accepts_literal_iff hwant).2 ⟨(anonymous_of_literal hwant).symm, ih⟩
      | some name =>
          have hcolon : anonymous want ≠ "" := by
            rw [anonymous_of_placeholder hwant]
            decide
          exact (accepts_placeholder_iff hwant).2 ⟨hcolon, ih⟩

/-- Two patterns that match each other's shapes have one shape: a literal is never a colon, so
neither has a literal where the other has a placeholder. -/
theorem map_anonymous_eq_of_accepts {wants : List String} :
    ∀ {others : List String}, Accepts others (wants.map anonymous) →
      Accepts wants (others.map anonymous) → wants.map anonymous = others.map anonymous := by
  induction wants with
  | nil =>
      intro others _ h
      have hothers : others.map anonymous = [] := accepts_nil_iff.1 h
      rw [hothers]
      rfl
  | cons want wants ih =>
      intro others hother hwant
      cases others with
      | nil =>
          exact absurd hwant not_accepts_cons_nil
      | cons other others =>
          rw [List.map_cons] at hother hwant
          rw [List.map_cons, List.map_cons]
          -- whichever of the two heads is a literal, the other head is that literal
          cases hw : placeholder? want with
          | none =>
              rcases (accepts_literal_iff hw).1 hwant with ⟨hhead, hrest⟩
              rw [anonymous_of_literal hw] at hother ⊢
              cases ho : placeholder? other with
              | none =>
                  rcases (accepts_literal_iff ho).1 hother with ⟨-, hrest'⟩
                  rw [hhead, ih hrest' hrest]
              | some name =>
                  rw [anonymous_of_placeholder ho] at hhead
                  exact absurd hhead (ne_colon_of_literal hw)
          | some name =>
              rcases (accepts_placeholder_iff hw).1 hwant with ⟨-, hrest⟩
              rw [anonymous_of_placeholder hw] at hother ⊢
              cases ho : placeholder? other with
              | none =>
                  rcases (accepts_literal_iff ho).1 hother with ⟨hhead, -⟩
                  exact absurd hhead (ne_colon_of_literal ho)
              | some name' =>
                  rcases (accepts_placeholder_iff ho).1 hother with ⟨-, hrest'⟩
                  rw [anonymous_of_placeholder ho, ih hrest' hrest]

/-- Matching does not look at the names of placeholders. -/
theorem Accepts.of_map_anonymous_eq {wants : List String} :
    ∀ {others gots : List String}, wants.map anonymous = others.map anonymous →
      Accepts wants gots → Accepts others gots := by
  induction wants with
  | nil =>
      intro others gots hshape h
      have hothers : others = [] := by simpa using hshape.symm
      rw [hothers]
      exact h
  | cons want wants ih =>
      intro others gots hshape h
      cases others with
      | nil =>
          cases hshape
      | cons other others =>
          rw [List.map_cons, List.map_cons, List.cons.injEq] at hshape
          rcases hshape with ⟨hhead, htail⟩
          cases gots with
          | nil =>
              exact absurd h not_accepts_cons_nil
          | cons got gots =>
              rcases anonymous_eq_iff.1 hhead with ⟨hwant, rfl⟩ | ⟨hwant, hother⟩
              · rcases (accepts_literal_iff hwant).1 h with ⟨hgot, hrest⟩
                exact (accepts_literal_iff hwant).2 ⟨hgot, ih htail hrest⟩
              · rcases Option.isSome_iff_exists.1 hwant with ⟨name, hname⟩
                rcases Option.isSome_iff_exists.1 hother with ⟨name', hname'⟩
                rcases (accepts_placeholder_iff hname).1 h with ⟨hgot, hrest⟩
                exact (accepts_placeholder_iff hname').2 ⟨hgot, ih htail hrest⟩

/-! ## Shapes of patterns -/

theorem slash_not_mem_anonymous {segment : String} (h : '/' ∉ segment.toList) :
    '/' ∉ (anonymous segment).toList := by
  cases hsegment : placeholder? segment with
  | none =>
      rw [anonymous_of_literal hsegment]
      exact h
  | some name =>
      rw [anonymous_of_placeholder hsegment]
      decide

theorem segments_shape (path : String) : segments (shape path) = (segments path).map anonymous :=
  segments_ofSegments_map fun _ hmem =>
    slash_not_mem_anonymous (slash_not_mem_of_mem_segments hmem)

theorem shape_eq_iff {p q : String} :
    shape p = shape q ↔ (segments p).map anonymous = (segments q).map anonymous := by
  constructor
  · intro h
    rw [← segments_shape, ← segments_shape, h]
  · intro h
    rw [shape, shape, h]

theorem matches_shape (pattern : String) : Matches pattern (shape pattern) := by
  rw [matches_iff_accepts, segments_shape]
  exact accepts_shape (segments pattern)

/-- Two patterns have one shape exactly when they match the same paths. -/
theorem shape_eq_iff_alike {p q : String} : shape p = shape q ↔ Alike p q := by
  constructor
  · intro h path
    have hsegments := shape_eq_iff.1 h
    rw [matches_iff_accepts, matches_iff_accepts]
    exact ⟨Accepts.of_map_anonymous_eq hsegments, Accepts.of_map_anonymous_eq hsegments.symm⟩
  · intro h
    -- the shapes are the paths that tell two patterns of different shapes apart
    have hq : Matches q (shape p) := (h (shape p)).1 (matches_shape p)
    have hp : Matches p (shape q) := (h (shape q)).2 (matches_shape q)
    rw [matches_iff_accepts, segments_shape] at hp hq
    exact shape_eq_iff.2 (map_anonymous_eq_of_accepts hq hp)

end Path

/-! ## Bindings that clash -/

namespace Table

variable {σ : Type}

theorem any_clashes_iff_alike {t : Table σ} {b : Binding σ} :
    t.any b.clashes = true ↔ ∃ a ∈ t, a.method = b.method ∧ Path.Alike a.path b.path := by
  rw [List.any_eq_true]
  constructor
  · rintro ⟨a, ha, hclash⟩
    rw [Binding.clashes, Bool.and_eq_true, beq_iff_eq, beq_iff_eq] at hclash
    exact ⟨a, ha, hclash.1.symm, Path.shape_eq_iff_alike.1 hclash.2.symm⟩
  · rintro ⟨a, ha, hmethod, halike⟩
    refine ⟨a, ha, ?_⟩
    rw [Binding.clashes, Bool.and_eq_true, beq_iff_eq, beq_iff_eq]
    exact ⟨hmethod.symm, (Path.shape_eq_iff_alike.2 halike).symm⟩

theorem distinct_iff_alike {t : Table σ} :
    Distinct t ↔ t.Pairwise fun a b => ¬ (a.method = b.method ∧ Path.Alike a.path b.path) := by
  simp only [Distinct, Path.shape_eq_iff_alike]

theorem bind_eq_error_iff_alike {t : Table σ} {method : Method} {path : String}
    {endpoint : Endpoint σ} :
    t.bind method path endpoint = .error (.boundTwice method path endpoint.kind) ↔
      ∃ b ∈ t, b.method = method ∧ Path.Alike b.path path := by
  rw [← any_clashes_iff_alike (b := ⟨method, path, endpoint⟩), bind]
  split
  · next h => simp [h]
  · next h => simp [h]

theorem bind_eq_ok_iff_alike {t : Table σ} {method : Method} {path : String}
    {endpoint : Endpoint σ} :
    t.bind method path endpoint = .ok (t ++ [⟨method, path, endpoint⟩]) ↔
      ∀ b ∈ t, b.method = method → ¬ Path.Alike b.path path := by
  have hclash := any_clashes_iff_alike (t := t) (b := ⟨method, path, endpoint⟩)
  have hnone : (∀ b ∈ t, b.method = method → ¬ Path.Alike b.path path) ↔
      ¬ ∃ b ∈ t, b.method = method ∧ Path.Alike b.path path := by
    simp only [not_exists, not_and]
  rw [hnone, ← hclash, bind]
  split
  · next h => simp [h]
  · next h => simp [h]

end Table

namespace Api

variable {σ : Type}

/-- Conflicts are detected exactly. Two patterns have one shape if and only if no path tells them
apart; a binding is refused if and only if the table has one of its method that matches the same
paths; and no application whose clauses and paths are in order fails to build for another reason
than two planned bindings of one method that match the same paths. -/
theorem conflict_iff_alike :
    (∀ p q : String, Path.shape p = Path.shape q ↔
      ∀ path, (Path.captures? p path).isSome = true ↔ (Path.captures? q path).isSome = true) ∧
    (∀ (t : Table σ) (method : Method) (path : String) (endpoint : Endpoint σ),
      (t.bind method path endpoint = .error (.boundTwice method path endpoint.kind) ↔
        ∃ b ∈ t, b.method = method ∧ Path.Alike b.path path) ∧
      (t.bind method path endpoint = .ok (t ++ [⟨method, path, endpoint⟩]) ↔
        ∀ b ∈ t, b.method = method → ¬ Path.Alike b.path path)) ∧
    ∀ (name : String) (clauses : List (ApiClause σ)),
      (∃ api, build name clauses = .ok api) ↔
        ApiDecl.WellDeclared clauses ∧
          (∀ c ∈ Collection.walkAll (ApiDecl.declared name clauses).tree,
            c.node.DistinctPlaceholders) ∧
          (ApiDecl.declared name clauses).plan.Pairwise fun a b =>
            ¬ (a.method = b.method ∧ Path.Alike a.path b.path) := by
  refine ⟨fun p q => Path.shape_eq_iff_alike, ?_, ?_⟩
  · intro t method path endpoint
    exact ⟨Table.bind_eq_error_iff_alike, Table.bind_eq_ok_iff_alike⟩
  · intro name clauses
    rw [← Table.distinct_iff_alike]
    constructor
    · rintro ⟨api, h⟩
      exact (build_eq_ok_iff.1 h).1
    · intro h
      exact ⟨_, build_eq_ok_iff.2 ⟨h, rfl⟩⟩

end Api
end ResourceRouting
