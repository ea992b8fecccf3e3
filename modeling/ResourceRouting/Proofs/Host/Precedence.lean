import ResourceRouting.Http.Router
import ResourceRouting.Proofs.Dispatch.Shape

/-!
# Precedence — which pattern the host prefers

Of the patterns that match a path the host takes the one that has a literal where the others have
a placeholder, and the segment farthest to the left decides. `Precedes` says so of two patterns
without a search.

* `Path.Precedes.total`: of two patterns that match one path, one precedes the other or both
  have one shape.
* `Http.pick_eq_none_iff`, `Http.picks_of_pick`: the search finds a route whenever one matches, and
  no route that matches precedes the one it finds.
-/

namespace ResourceRouting
namespace Path

/-- Up to some segment the patterns have one shape, and there the first has a literal and the
second a placeholder. -/
inductive Precedes : List String → List String → Prop
  | literal {want other name : String} {wants others : List String}
      (hwant : placeholder? want = none) (hother : placeholder? other = some name) :
      Precedes (want :: wants) (other :: others)
  | later {want other : String} {wants others : List String}
      (hshape : anonymous want = anonymous other) (hrest : Precedes wants others) :
      Precedes (want :: wants) (other :: others)

namespace Precedes

theorem anonymous_ne {want other name : String} (hwant : placeholder? want = none)
    (hother : placeholder? other = some name) : anonymous want ≠ anonymous other := by
  intro hshape
  have hcolon : want = ":" := by
    simpa [anonymous_of_literal hwant, anonymous_of_placeholder hother] using hshape
  exact ne_colon_of_literal hwant hcolon

/-- A pattern that precedes another one has another shape. -/
theorem map_anonymous_ne {wants others : List String} (h : Precedes wants others) :
    wants.map anonymous ≠ others.map anonymous := by
  induction h with
  | literal hwant hother =>
      intro hshape
      exact anonymous_ne hwant hother (List.cons.inj hshape).1
  | later _ _ ih =>
      intro hshape
      exact ih (List.cons.inj hshape).2

theorem asymm {wants others : List String} (h : Precedes wants others) :
    ¬ Precedes others wants := by
  induction h with
  | literal hwant hother =>
      intro hback
      cases hback with
      | literal hother' _ =>
          rw [hother] at hother'
          cases hother'
      | later hshape _ =>
          exact anonymous_ne hwant hother hshape.symm
  | later hshape _ ih =>
      intro hback
      cases hback with
      | literal hother hwant =>
          exact anonymous_ne hother hwant hshape.symm
      | later _ hrest =>
          exact ih hrest

end Precedes

/-- The first segment of a path is matched by itself as a literal, or by a placeholder. -/
theorem accepts_cons_iff {wants gots : List String} {got : String} :
    Accepts wants (got :: gots) ↔
      (∃ rest, wants = got :: rest ∧ placeholder? got = none ∧ Accepts rest gots) ∨
        ∃ want name rest, wants = want :: rest ∧ placeholder? want = some name ∧ got ≠ "" ∧
          Accepts rest gots := by
  constructor
  · intro h
    cases wants with
    | nil =>
        have hnil : got :: gots = [] := accepts_nil_iff.1 h
        cases hnil
    | cons want rest =>
        cases hwant : placeholder? want with
        | none =>
            rcases (accepts_literal_iff hwant).1 h with ⟨rfl, hrest⟩
            exact Or.inl ⟨rest, rfl, hwant, hrest⟩
        | some name =>
            rcases (accepts_placeholder_iff hwant).1 h with ⟨hgot, hrest⟩
            exact Or.inr ⟨want, name, rest, rfl, hwant, hgot, hrest⟩
  · rintro (⟨rest, rfl, hgot, hrest⟩ | ⟨want, name, rest, rfl, hwant, hgot, hrest⟩)
    · exact (accepts_literal_iff hgot).2 ⟨rfl, hrest⟩
    · exact (accepts_placeholder_iff hwant).2 ⟨hgot, hrest⟩

/-- Of two patterns that match one path, one precedes the other or both have one shape. -/
theorem Precedes.total {gots : List String} : ∀ {wants others : List String},
    Accepts wants gots → Accepts others gots →
      wants.map anonymous = others.map anonymous ∨ Precedes wants others ∨
        Precedes others wants := by
  induction gots with
  | nil =>
      intro wants others hwants hothers
      left
      cases wants with
      | nil =>
          cases others with
          | nil =>
              rfl
          | cons other others =>
              exact absurd hothers not_accepts_cons_nil
      | cons want wants =>
          exact absurd hwants not_accepts_cons_nil
  | cons got gots ih =>
      -- the first segments decide, unless they have one shape
      have hlater : ∀ {want other : String} {wants others : List String},
          anonymous want = anonymous other → Accepts wants gots → Accepts others gots →
            (want :: wants).map anonymous = (other :: others).map anonymous ∨
              Precedes (want :: wants) (other :: others) ∨
                Precedes (other :: others) (want :: wants) := by
        intro want other wants others hshape hwants hothers
        rcases ih hwants hothers with hsame | hbefore | hafter
        · left
          simp [hshape, hsame]
        · exact Or.inr (Or.inl (.later hshape hbefore))
        · exact Or.inr (Or.inr (.later hshape.symm hafter))
      intro wants others hwants hothers
      rcases accepts_cons_iff.1 hwants with
        ⟨rest, rfl, hgot, hrest⟩ | ⟨want, name, rest, rfl, hwant, -, hrest⟩
      · rcases accepts_cons_iff.1 hothers with
          ⟨rest', rfl, -, hrest'⟩ | ⟨other, name', rest', rfl, hother, -, hrest'⟩
        · exact hlater rfl hrest hrest'
        · exact Or.inr (Or.inl (.literal hgot hother))
      · rcases accepts_cons_iff.1 hothers with
          ⟨rest', rfl, hgot, hrest'⟩ | ⟨other, name', rest', rfl, hother, -, hrest'⟩
        · exact Or.inr (Or.inr (.literal hgot hwant))
        · refine hlater ?_ hrest hrest'
          rw [anonymous_of_placeholder hwant, anonymous_of_placeholder hother]

end Path

namespace Http

variable {α : Type}

/-! ## The two choices at a segment -/

theorem mem_afterLiteral_iff {segment : String} {routes : List (List String × α)}
    {rest : List String} {a : α} :
    (rest, a) ∈ afterLiteral segment routes ↔
      (segment :: rest, a) ∈ routes ∧ Path.placeholder? segment = none := by
  unfold afterLiteral
  rw [List.mem_filterMap]
  constructor
  · rintro ⟨⟨wants, b⟩, hmem, hsome⟩
    cases wants with
    | nil =>
        cases hsome
    | cons want wants =>
        have hhead : (Path.placeholder? want = none ∧ want = segment) ∧ wants = rest ∧ b = a := by
          simpa using hsome
        rcases hhead with ⟨⟨hnone, rfl⟩, rfl, rfl⟩
        exact ⟨hmem, hnone⟩
  · rintro ⟨hmem, hnone⟩
    exact ⟨(segment :: rest, a), hmem, by simp [hnone]⟩

theorem mem_afterPlaceholder_iff {routes : List (List String × α)} {rest : List String} {a : α} :
    (rest, a) ∈ afterPlaceholder routes ↔
      ∃ want name, (want :: rest, a) ∈ routes ∧ Path.placeholder? want = some name := by
  unfold afterPlaceholder
  rw [List.mem_filterMap]
  constructor
  · rintro ⟨⟨wants, b⟩, hmem, hsome⟩
    cases wants with
    | nil =>
        cases hsome
    | cons want wants =>
        have hhead : (Path.placeholder? want).isSome = true ∧ wants = rest ∧ b = a := by
          simpa using hsome
        rcases hhead with ⟨hname, rfl, rfl⟩
        rcases Option.isSome_iff_exists.1 hname with ⟨name, hname⟩
        exact ⟨want, name, hmem, hname⟩
  · rintro ⟨want, name, hmem, hname⟩
    exact ⟨(want :: rest, a), hmem, by simp [hname]⟩

/-! ## What the search finds -/

/-- The search answers with this entry: its pattern matches, and no other one that matches
precedes it. -/
def Picks (routes : List (List String × α)) (gots : List String) (wants : List String) (a : α) :
    Prop :=
  (wants, a) ∈ routes ∧ Path.Accepts wants gots ∧
    ∀ r ∈ routes, Path.Accepts r.1 gots →
      r.1.map Path.anonymous = wants.map Path.anonymous ∨ Path.Precedes wants r.1

theorem pick_nil (routes : List (List String × α)) :
    pick routes [] = (routes.find? fun r => r.1.isEmpty).map (·.2) := by
  rw [pick]

theorem pick_cons (routes : List (List String × α)) (got : String) (gots : List String) :
    pick routes (got :: gots) =
      (pick (afterLiteral got routes) gots).or
        (if got.isEmpty then none else pick (afterPlaceholder routes) gots) := by
  rw [pick]

/-- A route is found exactly if some pattern matches. -/
theorem pick_eq_none_iff {gots : List String} : ∀ {routes : List (List String × α)},
    pick routes gots = none ↔ ∀ r ∈ routes, ¬ Path.Accepts r.1 gots := by
  induction gots with
  | nil =>
      intro routes
      rw [pick_nil, Option.map_eq_none_iff, List.find?_eq_none]
      refine forall₂_congr fun r _ => ?_
      rcases r with ⟨wants, a⟩
      cases wants with
      | nil =>
          simp [Path.accepts_nil_iff]
      | cons want wants =>
          simp [Path.not_accepts_cons_nil]
  | cons got gots ih =>
      intro routes
      rw [pick_cons, Option.or_eq_none_iff]
      constructor
      · rintro ⟨hliteral, hplaceholder⟩ ⟨wants, a⟩ hmem haccepts
        rcases Path.accepts_cons_iff.1 haccepts with
          ⟨rest, rfl, hgot, hrest⟩ | ⟨want, name, rest, rfl, hwant, hgot, hrest⟩
        · exact ih.1 hliteral (rest, a) (mem_afterLiteral_iff.2 ⟨hmem, hgot⟩) hrest
        · have hnone : pick (afterPlaceholder routes) gots = none := by
            simpa [hgot] using hplaceholder
          exact ih.1 hnone (rest, a) (mem_afterPlaceholder_iff.2 ⟨want, name, hmem, hwant⟩) hrest
      · intro h
        refine ⟨ih.2 ?_, ?_⟩
        · rintro ⟨rest, a⟩ hmem haccepts
          rcases mem_afterLiteral_iff.1 hmem with ⟨hroute, hgot⟩
          exact h _ hroute (Path.accepts_cons_iff.2 (Or.inl ⟨rest, rfl, hgot, haccepts⟩))
        · by_cases hgot : got = ""
          · simp [hgot]
          · have hnone : pick (afterPlaceholder routes) gots = none := by
              refine ih.2 ?_
              rintro ⟨rest, a⟩ hmem haccepts
              rcases mem_afterPlaceholder_iff.1 hmem with ⟨want, name, hroute, hwant⟩
              refine h _ hroute (Path.accepts_cons_iff.2 (Or.inr ?_))
              exact ⟨want, name, rest, rfl, hwant, hgot, haccepts⟩
            simp [hnone]

/-- A literal that matches is found before any placeholder is tried. -/
theorem picks_literal {routes : List (List String × α)} {got : String} {gots rest : List String}
    {a : α} (h : Picks (afterLiteral got routes) gots rest a) :
    Picks routes (got :: gots) (got :: rest) a := by
  rcases h with ⟨hmem, haccepts, hbest⟩
  rcases mem_afterLiteral_iff.1 hmem with ⟨hroute, hgot⟩
  refine ⟨hroute, Path.accepts_cons_iff.2 (Or.inl ⟨rest, rfl, hgot, haccepts⟩), ?_⟩
  rintro ⟨others, b⟩ hother hmatch
  rcases Path.accepts_cons_iff.1 hmatch with
    ⟨rest', rfl, -, hrest'⟩ | ⟨other, name, rest', rfl, hname, -, -⟩
  · rcases hbest (rest', b) (mem_afterLiteral_iff.2 ⟨hother, hgot⟩) hrest' with hsame | hbefore
    · left
      simpa using hsame
    · exact Or.inr (.later rfl hbefore)
  · exact Or.inr (.literal hgot hname)

/-- A placeholder is tried where no literal matches. -/
theorem picks_placeholder {routes : List (List String × α)} {got : String}
    {gots rest : List String} {a : α} (hgot : got ≠ "")
    (hliteral : pick (afterLiteral got routes) gots = none)
    (h : Picks (afterPlaceholder routes) gots rest a) :
    ∃ want, Picks routes (got :: gots) (want :: rest) a := by
  rcases h with ⟨hmem, haccepts, hbest⟩
  rcases mem_afterPlaceholder_iff.1 hmem with ⟨want, name, hroute, hwant⟩
  refine ⟨want, hroute, ?_, ?_⟩
  · exact Path.accepts_cons_iff.2 (Or.inr ⟨want, name, rest, rfl, hwant, hgot, haccepts⟩)
  · rintro ⟨others, b⟩ hother hmatch
    rcases Path.accepts_cons_iff.1 hmatch with
      ⟨rest', rfl, hnone, hrest'⟩ | ⟨other, name', rest', rfl, hname', -, hrest'⟩
    · have hmem' := mem_afterLiteral_iff.2 ⟨hother, hnone⟩
      exact absurd hrest' (pick_eq_none_iff.1 hliteral (rest', b) hmem')
    · have hshape : Path.anonymous want = Path.anonymous other := by
        rw [Path.anonymous_of_placeholder hwant, Path.anonymous_of_placeholder hname']
      have hmem' := mem_afterPlaceholder_iff.2 ⟨other, name', hother, hname'⟩
      rcases hbest (rest', b) hmem' hrest' with hsame | hbefore
      · left
        have htail : rest'.map Path.anonymous = rest.map Path.anonymous := hsame
        simp [hshape, htail]
      · exact Or.inr (.later hshape hbefore)

/-- What is found matches, and no other pattern that matches precedes it. -/
theorem picks_of_pick {gots : List String} : ∀ {routes : List (List String × α)} {a : α},
    pick routes gots = some a → ∃ wants, Picks routes gots wants a := by
  -- by the segments of the path, for all routes: each choice leaves other routes to search
  induction gots with
  | nil =>
      intro routes a h
      rw [pick_nil, Option.map_eq_some_iff] at h
      rcases h with ⟨⟨wants, b⟩, hfound, rfl⟩
      have hempty : wants = [] := by
        simpa using List.find?_some hfound
      subst hempty
      refine ⟨[], List.mem_of_find?_eq_some hfound, Path.accepts_nil_iff.2 rfl, ?_⟩
      rintro ⟨others, c⟩ - hmatch
      cases others with
      | nil =>
          exact Or.inl rfl
      | cons other others =>
          exact absurd hmatch Path.not_accepts_cons_nil
  | cons got gots ih =>
      intro routes a h
      rw [pick_cons, Option.or_eq_some_iff] at h
      rcases h with hfound | ⟨hnone, hfound⟩
      · rcases ih hfound with ⟨rest, hpicks⟩
        exact ⟨got :: rest, picks_literal hpicks⟩
      · by_cases hgot : got = ""
        · simp [hgot] at hfound
        · have hpick : pick (afterPlaceholder routes) gots = some a := by
            simpa [hgot] using hfound
          rcases ih hpick with ⟨rest, hpicks⟩
          rcases picks_placeholder hgot hnone hpicks with ⟨want, hwant⟩
          exact ⟨want :: rest, hwant⟩

end Http
end ResourceRouting
