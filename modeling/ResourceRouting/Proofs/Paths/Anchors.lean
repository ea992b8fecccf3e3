import ResourceRouting.Proofs.Paths.Chains

/-!
# Anchors — where placeholders stand in the paths of an application

Where the names of an application are plain, a placeholder always stands right after the path of a
collection that has it for its identifier. So two paths of one shape that are not equal part at two
collections that are at one path and name different identifiers.

* `Path.Anchored.eq_or_owned`: where lists of segments of one shape part, both placeholders are
  owned by what is before them.
* `ApiDecl.places_of_mem_plan`: the placeholders of a table are anchored at its collections.
* `ApiDecl.eq_or_crossed_of_shape`: paths of one shape are equal, or two collections cross.
-/

namespace ResourceRouting

variable {σ : Type}

/-! ## Names -/

namespace Path

/-- The text is not empty and has none of the characters that mean something in a path or in a
pattern of the host. -/
def IsName (s : String) : Prop := s ≠ "" ∧ ∀ c ∈ s.toList, c ∉ ['/', ':', '\x7b', '\x7d', '*']

-- by the characters of the text, not by all characters there are
instance (s : String) : Decidable (IsName s) :=
  have : Decidable (∀ c ∈ s.toList, c ∉ ['/', ':', '\x7b', '\x7d', '*']) :=
    List.decidableBAll _ _
  inferInstanceAs (Decidable (_ ∧ _))

theorem IsName.isPlain {s : String} (h : IsName s) : IsPlain s :=
  ⟨h.1, fun hslash => h.2 '/' hslash (by decide), fun hcolon => h.2 ':' hcolon (by decide)⟩

theorem IsName.isSegment {s : String} (h : IsName s) : IsSegment s := h.isPlain.isSegment

theorem IsName.placeholder?_eq_none {s : String} (h : IsName s) : placeholder? s = none :=
  h.isPlain.placeholder?_eq_none

/-- The segment is a plain name or the placeholder of one. -/
def IsStep (s : String) : Prop := IsName s ∨ ∃ name, IsName name ∧ s = ":" ++ name

theorem IsStep.isSegment {s : String} (h : IsStep s) : IsSegment s := by
  rcases h with hname | ⟨name, hname, rfl⟩
  · exact hname.isSegment
  · exact isSegment_placeholder hname.isSegment.2

theorem proper_rootSegments_append {routing : Routing}
    (hroot : ∀ s ∈ rootSegments routing, IsName s) {ss : List String} (hne : ss ≠ [])
    (hsteps : ∀ s ∈ ss, IsStep s) : Proper (rootSegments routing ++ ss) := by
  refine ⟨List.append_ne_nil_of_right_ne_nil _ hne, ?_⟩
  rw [List.forall_mem_append]
  exact ⟨fun s hs => (hroot s hs).isSegment, fun s hs => (hsteps s hs).isSegment⟩

/-! ## Placeholders and their owners -/

/-- Every placeholder among the segments, which come after others, is owned by what is before
it. -/
def Anchored (owns : List String → String → Prop) : List String → List String → Prop
  | _, [] => True
  | before, s :: rest =>
      (∀ name, placeholder? s = some name → owns before name) ∧
        Anchored owns (before ++ [s]) rest

section Anchored

variable {owns : List String → String → Prop}

theorem anchored_append {before ss ts : List String} :
    Anchored owns before (ss ++ ts) ↔
      Anchored owns before ss ∧ Anchored owns (before ++ ss) ts := by
  induction ss generalizing before with
  | nil =>
      simp [Anchored]
  | cons s rest ih =>
      simp only [List.cons_append, Anchored, ih, and_assoc, List.append_assoc, List.nil_append]

theorem anchored_of_literals {before ss : List String} (h : ∀ s ∈ ss, placeholder? s = none) :
    Anchored owns before ss := by
  induction ss generalizing before with
  | nil =>
      trivial
  | cons s rest ih =>
      rw [List.forall_mem_cons] at h
      refine ⟨?_, ih h.2⟩
      intro name hname
      rw [h.1] at hname
      cases hname

/-- A step to a member and on to a name is anchored where it starts. -/
theorem anchored_turn {before : List String} {id name : String} {p q : Prop} [Decidable p]
    [Decidable q] (hid : owns before id) (hname : placeholder? name = none) :
    Anchored owns before ((if p then [":" ++ id] else []) ++ if q then [] else [name]) := by
  have hmember : Anchored owns before (if p then [":" ++ id] else []) := by
    split
    · refine ⟨?_, trivial⟩
      intro other hother
      rw [placeholder?_colon_append] at hother
      rw [← Option.some.inj hother]
      exact hid
    · trivial
  refine anchored_append.2 ⟨hmember, anchored_of_literals ?_⟩
  intro s hs
  have hsame : s = name := by
    by_cases hq : q
    · simp [hq] at hs
    · simpa [hq] using hs
  rw [hsame]
  exact hname

/-- Patterns of one shape are equal, or part at placeholders of two names that one and the same
path owns. -/
theorem Anchored.eq_or_owned {ss : List String} : ∀ {ts before : List String},
    Anchored owns before ss → Anchored owns before ts → ss.map anonymous = ts.map anonymous →
      ss = ts ∨ ∃ path a b, owns path a ∧ owns path b ∧ a ≠ b := by
  -- by the segments of one pattern; as long as nothing parts, both have the same ones before
  induction ss with
  | nil =>
      intro ts before _ _ hshape
      left
      exact (List.map_eq_nil_iff.1 hshape.symm).symm
  | cons s rest ih =>
      intro ts before hs ht hshape
      cases ts with
      | nil =>
          cases hshape
      | cons t others =>
          rw [List.map_cons, List.map_cons, List.cons.injEq] at hshape
          rcases hshape with ⟨hhead, htail⟩
          have hgoOn : s = t → s :: rest = t :: others ∨
              ∃ path a b, owns path a ∧ owns path b ∧ a ≠ b := by
            rintro rfl
            rcases ih hs.2 ht.2 htail with hrest | hparted
            · exact Or.inl (congrArg _ hrest)
            · exact Or.inr hparted
          rcases anonymous_eq_iff.1 hhead with ⟨-, hsame⟩ | ⟨hs?, ht?⟩
          · exact hgoOn hsame
          · rcases Option.isSome_iff_exists.1 hs? with ⟨a, ha⟩
            rcases Option.isSome_iff_exists.1 ht? with ⟨b, hb⟩
            by_cases hab : a = b
            · subst hab
              rw [placeholder?_eq_some_iff] at ha hb
              exact hgoOn (ha.trans hb.symm)
            · exact Or.inr ⟨before, a, b, hs.1 a ha, ht.1 b hb, hab⟩

end Anchored

end Path

/-! ## The paths of a tree -/

theorem Chain.segments_ne_nil (chain : Chain σ) : chain.segments ≠ [] := by
  induction chain with
  | root head => exact List.cons_ne_nil head.name []
  | under parent head ih => exact List.append_ne_nil_of_left_ne_nil ih _

namespace ApiDecl

variable {d : ApiDecl σ}

/-- There is a collection at the path that has the name for its identifier. -/
def Owns (d : ApiDecl σ) (path : List String) (name : String) : Prop :=
  ∃ chain ∈ d.chains, chain.segments = path ∧ chain.head.idParam = name

/-- After the segments of the root the path has steps, and every placeholder among them is the
identifier of the collection right before it. -/
def Places (d : ApiDecl σ) (path : String) : Prop :=
  ∃ ss, ss ≠ [] ∧ (∀ s ∈ ss, Path.IsStep s) ∧ Path.Anchored d.Owns [] ss ∧
    path = Path.along (Path.rootSegments d.routing ++ ss)

/-- A path of names alone has no placeholder. -/
theorem places_of_names {names : List String} (hne : names ≠ [])
    (h : ∀ s ∈ names, Path.IsName s) :
    d.Places (Path.along (Path.rootSegments d.routing ++ names)) := by
  refine ⟨names, hne, fun s hs => Or.inl (h s hs), ?_, rfl⟩
  exact Path.anchored_of_literals fun s hs => (h s hs).placeholder?_eq_none

section Named

variable (hnamed : ∀ chain ∈ d.chains, (chain.node d.context).NamedBy Path.IsName)
include hnamed

/-- Each placeholder in the path of a collection is the identifier of one above it. -/
theorem anchored_segments {chain : Chain σ} (h : chain ∈ d.chains) :
    (∀ s ∈ chain.segments, Path.IsStep s) ∧ Path.Anchored d.Owns [] chain.segments := by
  induction chain with
  | root head =>
      have hname : Path.IsName head.name := name_of_mem_chains hnamed h
      exact ⟨List.forall_mem_singleton.2 (Or.inl hname),
        Path.anchored_of_literals (List.forall_mem_singleton.2 hname.placeholder?_eq_none)⟩
  | under parent head ih =>
      have hparent := mem_chains_of_under h
      have hname : Path.IsName head.name := name_of_mem_chains hnamed h
      have hid := idParam_of_mem_chains hnamed hparent
      rcases ih hparent with ⟨hsteps, hanchored⟩
      rw [Chain.segments, Path.anchored_append, List.forall_mem_append, List.nil_append]
      exact ⟨⟨hsteps, Path.forall_mem_turn (Or.inr ⟨_, hid, rfl⟩) (Or.inl hname)⟩,
        hanchored, Path.anchored_turn ⟨parent, hparent, rfl, rfl⟩ hname.placeholder?_eq_none⟩

theorem leads_of_mem_chains {chain : Chain σ} (h : chain ∈ d.chains) :
    chain.Leads d.routing (chain.node d.context) :=
  leads_node (fun chain h => (hnamed chain h).imp fun _ hs => hs.isSegment) h

theorem places_collection {chain : Chain σ} (h : chain ∈ d.chains) :
    d.Places (chain.node d.context).path ∧ d.Places (chain.node d.context).docsPath := by
  have hleads := leads_of_mem_chains hnamed h
  rcases anchored_segments hnamed h with ⟨hsteps, hanchored⟩
  refine ⟨⟨chain.segments, chain.segments_ne_nil, hsteps, hanchored, hleads.path⟩, ?_⟩
  rw [hleads.docsPath]
  exact places_of_names (List.cons_ne_nil _ _)
    (List.forall_mem_cons.2 ⟨by decide, forall_mem_names hnamed h⟩)

theorem places_operation {chain : Chain σ} (h : chain ∈ d.chains) {o : Operation σ}
    (ho : o ∈ (chain.node d.context).operations) :
    d.Places o.path ∧ d.Places o.auxPath ∧
      d.Places (Table.operationDocsPath (chain.node d.context) o) := by
  have hleads := leads_of_mem_chains hnamed h
  have hname := (hnamed chain h).operations o ho
  have hid := idParam_of_mem_chains hnamed h
  have howner : d.Owns chain.segments chain.head.idParam := ⟨chain, h, rfl, rfl⟩
  rcases anchored_segments hnamed h with ⟨hsteps, hanchored⟩
  -- whatever the operation adds, it comes right after the path of its collection
  have hafter : ∀ {own : List String}, (∀ s ∈ own, Path.IsStep s) →
      Path.Anchored d.Owns chain.segments own →
        d.Places (Path.along (Path.rootSegments d.routing ++ (chain.segments ++ own))) := by
    intro own hown howned
    exact ⟨_, List.append_ne_nil_of_left_ne_nil chain.segments_ne_nil own,
      List.forall_mem_append.2 ⟨hsteps, hown⟩, Path.anchored_append.2 ⟨hanchored, howned⟩, rfl⟩
  rw [hleads.operationPath o ho, hleads.auxPath o ho, hleads.operationDocsPath o ho]
  refine ⟨hafter ?_ ?_, hafter ?_ ?_, places_of_names (List.cons_ne_nil _ _) ?_⟩
  · exact Path.forall_mem_turn (Or.inr ⟨_, hid, rfl⟩) (Or.inl hname)
  · exact Path.anchored_turn howner hname.placeholder?_eq_none
  · exact List.forall_mem_singleton.2 (Or.inl hname)
  · exact Path.anchored_of_literals (List.forall_mem_singleton.2 hname.placeholder?_eq_none)
  · rw [List.cons_append, List.forall_mem_cons, List.forall_mem_append]
    exact ⟨by decide, forall_mem_names hnamed h,
      List.forall_mem_cons.2 ⟨by decide, List.forall_mem_singleton.2 hname⟩⟩

theorem places_of_mem_plan : ∀ b ∈ d.plan, d.Places b.path := by
  have hcollections : ∀ c ∈ Collection.walkAll d.tree,
      (d.Places c.node.path ∧ d.Places c.node.docsPath) ∧ ∀ o ∈ c.node.operations,
        d.Places o.path ∧ d.Places o.auxPath ∧ d.Places (Table.operationDocsPath c.node o) :=
    (forall_chains_iff (P := fun node => (d.Places node.path ∧ d.Places node.docsPath) ∧
      ∀ o ∈ node.operations, d.Places o.path ∧ d.Places o.auxPath ∧
        d.Places (Table.operationDocsPath node o))).2
      fun chain h => ⟨places_collection hnamed h, fun o ho => places_operation hnamed h ho⟩
  have hindex : d.Places (d.routing.route "docs") := by
    have hdocs : Path.Proper ["docs"] := Path.proper_singleton (by decide)
    have hroute := Path.route_ofSegments hdocs d.routing
    rw [Path.ofSegments_singleton] at hroute
    rw [hroute]
    exact places_of_names hdocs.nonempty (by decide)
  rw [plan]
  refine Table.forall_mem_plan (P := fun b => d.Places b.path) ?_ ?_ ?_
  · intro c hc
    rcases hcollections c hc with ⟨⟨hpath, hdocs⟩, -⟩
    exact ⟨hpath, hpath, hdocs⟩
  · intro c hc o ho _
    rcases (hcollections c hc).2 o ho with ⟨hpath, haux, hdocs⟩
    exact ⟨hpath, haux, haux, hdocs⟩
  · dsimp only
    exact hindex

end Named

/-- Two paths of an application that have one shape are equal, or two collections are at one path
and name different identifiers. -/
theorem eq_or_crossed_of_shape (hroot : ∀ s ∈ Path.rootSegments d.routing, Path.IsName s)
    (hnamed : ∀ chain ∈ d.chains, (chain.node d.context).NamedBy Path.IsName)
    {p q : String} (hp : d.Places p)
    (hq : d.Places q) (hshape : Path.shape p = Path.shape q) :
    p = q ∨ ∃ c ∈ Collection.walkAll d.tree, ∃ c' ∈ Collection.walkAll d.tree,
      c.node.path = c'.node.path ∧ c.node.idParam ≠ c'.node.idParam := by
  have hsegments : ∀ {ss : List String}, ss ≠ [] → (∀ s ∈ ss, Path.IsStep s) →
      Path.segments (Path.along (Path.rootSegments d.routing ++ ss)) =
        "" :: (Path.rootSegments d.routing ++ ss) :=
    fun hne hsteps => Path.segments_along (Path.proper_rootSegments_append hroot hne hsteps)
  rcases hp with ⟨ss, hne, hsteps, hanchored, rfl⟩
  rcases hq with ⟨ts, hne', hsteps', hanchored', rfl⟩
  rw [Path.shape_eq_iff, hsegments hne hsteps, hsegments hne' hsteps', List.map_cons,
    List.map_cons, List.cons.injEq, List.map_append, List.map_append,
    List.append_cancel_left_eq] at hshape
  rcases hanchored.eq_or_owned hanchored' hshape.2 with rfl | ⟨path, a, b, ha, hb, hid⟩
  · exact Or.inl rfl
  · right
    rcases ha with ⟨chain, hchain, hpath, rfl⟩
    rcases hb with ⟨chain', hchain', hpath', rfl⟩
    rcases exists_collection_of_mem_chains hchain with ⟨c, hc, hnode⟩
    rcases exists_collection_of_mem_chains hchain' with ⟨c', hc', hnode'⟩
    refine ⟨c, hc, c', hc', ?_, ?_⟩
    · rw [hnode, hnode', (leads_of_mem_chains hnamed hchain).path,
        (leads_of_mem_chains hnamed hchain').path, hpath, hpath']
    · rw [hnode, hnode', chain.idParam_node, chain'.idParam_node]
      exact hid

end ApiDecl
end ResourceRouting
