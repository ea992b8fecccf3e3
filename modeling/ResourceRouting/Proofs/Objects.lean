import ResourceRouting.Json.Reader
import ResourceRouting.Proofs.Lists

/-!
# Objects — the members of an object that is read

A text may name a member of an object twice. The reader keeps the last of equal names and puts the
members in ascending order, so that a name that is there has one value.

* `Json.pairwise_insertMember`: a member that is put in keeps the order.
* `Json.Reader.ordered_step`: every token keeps the reader from a result that is out of order.
* `Json.nodup_of_read?`: an object that was read has each name once.
-/

namespace ResourceRouting
namespace Json

/-! ## Order -/

/-- If the value is an object, its names ascend. -/
def Ascending (v : Json) : Prop :=
  ∀ members, v = .object members → members.Pairwise fun m n => m.1 < n.1

theorem fst_of_mem_insertMember {name : String} {value : Json} {members : List (String × Json)}
    {m : String × Json} (h : m ∈ insertMember name value members) :
    m.1 = name ∨ m ∈ members := by
  induction members with
  | nil =>
      rw [insertMember, List.mem_singleton] at h
      exact Or.inl (congrArg Prod.fst h)
  | cons p rest ih =>
      rcases p with ⟨other, old⟩
      rw [insertMember] at h
      split at h
      · rcases List.mem_cons.1 h with rfl | hold
        · exact Or.inl rfl
        · exact Or.inr hold
      · split at h
        · rcases List.mem_cons.1 h with rfl | hold
          · exact Or.inl rfl
          · exact Or.inr (List.mem_cons_of_mem _ hold)
        · rcases List.mem_cons.1 h with rfl | hrest
          · exact Or.inr List.mem_cons_self
          · exact (ih hrest).imp_right (List.mem_cons_of_mem _)

theorem pairwise_insertMember (name : String) (value : Json) {members : List (String × Json)}
    (h : members.Pairwise fun m n => m.1 < n.1) :
    (insertMember name value members).Pairwise fun m n => m.1 < n.1 := by
  induction members with
  | nil =>
      exact List.pairwise_singleton _ _
  | cons p rest ih =>
      rcases p with ⟨other, old⟩
      rcases List.pairwise_cons.1 h with ⟨hfirst, hrest⟩
      rw [insertMember]
      split
      · rename_i hbefore
        refine List.pairwise_cons.2 ⟨?_, h⟩
        rintro m (_ | ⟨_, hm⟩)
        · exact hbefore
        · exact String.lt_trans hbefore (hfirst m hm)
      · rename_i hbefore
        split
        · rename_i hsame
          rw [hsame]
          exact List.pairwise_cons.2 ⟨hfirst, hrest⟩
        · rename_i hother
          refine List.pairwise_cons.2 ⟨?_, ih hrest⟩
          intro m hm
          rcases fst_of_mem_insertMember hm with hname | hold
          · have hafter : other < name := by
              by_contra hnot
              exact hother (String.le_antisymm hnot hbefore)
            rw [hname]
            exact hafter
          · exact hfirst m hold

theorem ascending_ofMembers (members : List (String × Json)) : (ofMembers members).Ascending := by
  have hfold : ∀ sorted : List (String × Json), sorted.Pairwise (fun m n => m.1 < n.1) →
      (members.foldl (fun sorted m => insertMember m.1 m.2 sorted) sorted).Pairwise
        fun m n => m.1 < n.1 := by
    induction members with
    | nil =>
        exact fun _ h => h
    | cons m rest ih =>
        exact fun sorted h => ih _ (pairwise_insertMember m.1 m.2 h)
  rintro _ ⟨⟩
  exact hfold [] List.Pairwise.nil

/-! ## Tokens -/

/-- A token that is a value is no object. -/
def Token.Plain (t : Token) : Prop := ∀ members, t ≠ .value (.object members)

namespace Scanner

theorem plain_settle {s s' : Scanner} (hs : ∀ t ∈ s.done, t.Plain) (h : s.settle = some s') :
    ∀ t ∈ s'.done, t.Plain := by
  unfold settle at h
  split at h
  · cases h
    exact hs
  · rename_i acc _
    rcases Option.map_eq_some_iff.1 h with ⟨v, hv, rfl⟩
    refine List.forall_mem_cons.2 ⟨?_, hs⟩
    rintro members ⟨⟩
    unfold word? at hv
    split at hv <;> cases hv
  · rcases Option.map_eq_some_iff.1 h with ⟨n, -, rfl⟩
    refine List.forall_mem_cons.2 ⟨?_, hs⟩
    rintro members ⟨⟩
  · cases h

/-- A bracket, a mark or a text goes to what is done, or nothing does. -/
theorem plain_start {s s' : Scanner} {c : Char} (hs : ∀ t ∈ s.done, t.Plain)
    (h : s.start c = some s') : ∀ t ∈ s'.done, t.Plain := by
  have hdone : s'.done = s.done ∨ ∃ t : Token, t.Plain ∧ s'.done = t :: s.done := by
    unfold start at h
    split at h
    case h_7 | h_8 | h_9 | h_10 | h_11 =>
      cases h
      exact Or.inl rfl
    case h_12 =>
      split at h
      · cases h
        exact Or.inl rfl
      · split at h <;> cases h
        exact Or.inl rfl
    all_goals
      cases h
      refine Or.inr ⟨_, ?_, rfl⟩
      intro members hvalue
      cases hvalue
  rcases hdone with hsame | ⟨t, ht, hmore⟩
  · rw [hsame]
    exact hs
  · rw [hmore]
    exact List.forall_mem_cons.2 ⟨ht, hs⟩

theorem plain_settle_start {s s' : Scanner} {c : Char} (hs : ∀ t ∈ s.done, t.Plain)
    (h : s.settle.bind (·.start c) = some s') : ∀ t ∈ s'.done, t.Plain := by
  rcases Option.bind_eq_some_iff.1 h with ⟨settled, hsettled, hstart⟩
  exact plain_start (plain_settle hs hsettled) hstart

theorem plain_step {s s' : Scanner} {c : Char} (hs : ∀ t ∈ s.done, t.Plain)
    (h : s.step c = some s') : ∀ t ∈ s'.done, t.Plain := by
  unfold step at h
  split at h
  case h_1 =>
    exact plain_start hs h
  case h_2 | h_3 =>
    split at h
    · cases h
      exact hs
    · exact plain_settle_start hs h
  case h_4 =>
    split at h
    · cases h
      refine List.forall_mem_cons.2 ⟨?_, hs⟩
      intro members hvalue
      cases hvalue
    · split at h
      · cases h
        exact hs
      · split at h <;> cases h
        exact hs
  -- inside of an escape nothing is done
  case h_5 =>
    split at h
    · cases h
      exact hs
    · rcases Option.map_eq_some_iff.1 h with ⟨_, -, rfl⟩
      exact hs
  case h_6 =>
    dsimp only at h
    split at h
    · cases h
      exact hs
    · rcases Option.bind_eq_some_iff.1 h with ⟨n, -, hcode⟩
      split at hcode
      · cases hcode
        exact hs
      · split at hcode <;> cases hcode
        exact hs
  case h_7 | h_8 =>
    split at h <;> cases h
    exact hs
  case h_9 =>
    dsimp only at h
    split at h
    · cases h
      exact hs
    · rcases Option.bind_eq_some_iff.1 h with ⟨n, -, hcode⟩
      split at hcode <;> cases hcode
      exact hs

end Scanner

theorem plain_of_tokens? {s : String} {ts : List Token} (h : tokens? s = some ts) :
    ∀ t ∈ ts, t.Plain := by
  rcases Option.bind_eq_some_iff.1 h with ⟨last, hlast, hrest⟩
  rcases Option.bind_eq_some_iff.1 hrest with ⟨settled, hsettled, hts⟩
  cases hts
  have hdone : ∀ t ∈ last.done, t.Plain :=
    foldlM_keeps (P := fun s : Scanner => ∀ t ∈ s.done, t.Plain) (Q := fun _ => True)
      (fun _ _ _ hs _ hstep => Scanner.plain_step hs hstep) (fun _ _ => trivial)
      (List.forall_mem_nil _) hlast
  intro t ht
  exact Scanner.plain_settle hdone hsettled t (List.mem_reverse.1 ht)

/-! ## Values -/

namespace Reader

/-- What the reader has for a result, if anything, is in order. -/
def Ordered (r : Reader) : Prop := ∀ v, r.result = some v → v.Ascending

theorem ordered_finish {r : Reader} {v : Json} (hv : v.Ascending) : (r.finish v).Ordered := by
  intro w hw
  unfold finish at hw
  split at hw <;> cases hw
  exact hv

theorem ordered_pop {r r' : Reader} (h : r.pop = some r') : r'.Ordered := by
  unfold pop at h
  split at h
  · cases h
  · cases h
    refine ordered_finish ?_
    rintro members ⟨⟩
  · cases h
    exact ordered_finish (ascending_ofMembers _)

theorem ordered_push {depth : Nat} {r r' : Reader} {f : Frame} {e : Expect}
    (h : r.push depth f e = some r') : r'.Ordered := by
  unfold push at h
  split at h <;> cases h
  rintro v ⟨⟩

theorem ordered_step {depth : Nat} {r r' : Reader} {t : Token} (hr : r.Ordered) (ht : t.Plain)
    (h : r.step depth t = some r') : r'.Ordered := by
  unfold step at h
  split at h
  -- a value or a text is finished
  case h_1 | h_2 =>
    cases h
    refine ordered_finish ?_
    rintro members rfl
    exact absurd rfl (ht members)
  case h_3 | h_4 =>
    cases h
    refine ordered_finish ?_
    rintro members ⟨⟩
  -- a bracket is opened or closed
  case h_5 | h_6 | h_7 | h_8 =>
    exact ordered_push h
  case h_9 | h_10 =>
    exact ordered_pop h
  case h_15 | h_16 =>
    split at h
    · exact ordered_pop h
    · cases h
  -- a name or a mark stands between values
  case h_13 =>
    cases h
    exact hr
  case h_11 | h_12 =>
    split at h <;> cases h
    rintro v ⟨⟩
  case h_14 =>
    split at h <;> cases h <;> exact hr
  case h_17 =>
    cases h

end Reader

/-- An object that was read has each name once. -/
theorem nodup_of_read? {depth : Nat} {s : String} {members : List (String × Json)}
    (h : read? depth s = some (.object members)) : (members.map Prod.fst).Nodup := by
  rcases Option.bind_eq_some_iff.1 h with ⟨ts, hts, hrest⟩
  rcases Option.bind_eq_some_iff.1 hrest with ⟨r, hr, hresult⟩
  have hordered : r.Ordered :=
    foldlM_keeps (fun _ _ _ hr ht hstep => Reader.ordered_step hr ht hstep) (plain_of_tokens? hts)
      (by rintro v ⟨⟩) hr
  have hascending := hordered _ hresult members rfl
  exact List.pairwise_map.2 (hascending.imp fun hlt => String.ne_of_lt hlt)

end Json
end ResourceRouting
