import ResourceRouting.Proofs.Declared.Names
import ResourceRouting.Proofs.Lists
import ResourceRouting.Proofs.Paths.Chains

/-!
# Lineage — collections by their names from the root down

A collection is looked up name by name, and each step takes the first subcollection of a name. What
is found that way is told by lineages alone, because siblings have different names: no two
collections of a tree have one lineage, and looking a lineage up leads to the one that has it.

* `Collection.Grown`: siblings of different names, with all below them in order.
* `Collection.Grown.lookUp_eq_some_iff`: looking names up one by one finds what has them for its
  lineage.
* `Collection.Grown.nodup_sites`: lineages and names tell apart all collections and operations.
* `ApiDecl.names_chains`: the lineages of an application, read off the clauses that declare it.
* `Api.lineages_of_build`: walks and look-ups of a built application agree.
-/

namespace ResourceRouting

variable {σ : Type}

/-! ## Trees -/

namespace Collection

theorem walkAll_eq_flatMap (cs : List (Collection σ)) : walkAll cs = cs.flatMap walk := by
  induction cs with
  | nil => rfl
  | cons c rest ih => rw [walkAll_cons, ih, List.flatMap_cons]

theorem mem_walkAll_iff {cs : List (Collection σ)} {d : Collection σ} :
    d ∈ walkAll cs ↔ ∃ c ∈ cs, d ∈ c.walk := by
  rw [walkAll_eq_flatMap, List.mem_flatMap]

theorem mem_walk_iff {c d : Collection σ} : d ∈ c.walk ↔ d = c ∨ d ∈ walkAll c.children := by
  rcases c with ⟨node, children⟩
  rw [walk_mk, List.mem_cons]

theorem mem_walkAll_of_mem {cs : List (Collection σ)} {c : Collection σ} (h : c ∈ cs) :
    c ∈ walkAll cs :=
  mem_walkAll_iff.2 ⟨c, h, mem_walk_iff.2 (Or.inl rfl)⟩

theorem mem_walk_of_mem_children {c d e : Collection σ} (he : e ∈ d.children) :
    d ∈ c.walk → e ∈ c.walk := by
  induction c using Collection.induction with
  | step node children ih =>
      intro hd
      refine mem_walk_iff.2 (Or.inr ?_)
      rcases mem_walk_iff.1 hd with rfl | hbelow
      · exact mem_walkAll_of_mem he
      · rcases mem_walkAll_iff.1 hbelow with ⟨child, hchild, hmem⟩
        exact mem_walkAll_iff.2 ⟨child, hchild, ih child hchild hmem⟩

/-- What a collection has and every collection below it passes on, all of them have. -/
theorem forall_mem_walk_of_step {P : Collection σ → Prop} {c : Collection σ} :
    P c → (∀ d ∈ c.walk, P d → ∀ e ∈ d.children, P e) → ∀ d ∈ c.walk, P d := by
  induction c using Collection.induction with
  | step node children ih =>
      intro hc hstep d hd
      rcases mem_walk_iff.1 hd with rfl | hbelow
      · exact hc
      · rcases mem_walkAll_iff.1 hbelow with ⟨child, hchild, hmem⟩
        refine ih child hchild (hstep _ (mem_walk_iff.2 (Or.inl rfl)) hc child hchild) ?_ d hmem
        intro e he
        exact hstep e (mem_walk_iff.2 (Or.inr (mem_walkAll_iff.2 ⟨child, hchild, he⟩)))

/-! ## Siblings -/

/-- Collections side by side under a lineage, which all of them go on from by names of their
own. -/
structure Siblings (above : List String) (cs : List (Collection σ)) : Prop where
  names : (cs.map name).Nodup
  lineages : ∀ c ∈ cs, c.node.lineage = above ++ [c.name]

/-- Within the collection names tell operations apart, and subcollections too. -/
structure Orderly (c : Collection σ) : Prop where
  operations : (c.node.operations.map Operation.name).Nodup
  children : Siblings c.node.lineage c.children

/-- Siblings, with all that is below them. -/
structure Grown (above : List String) (cs : List (Collection σ)) : Prop where
  siblings : Siblings above cs
  orderly : ∀ c ∈ walkAll cs, c.Orderly

variable {above : List String} {cs : List (Collection σ)}

theorem Orderly.grown {c : Collection σ} (h : ∀ d ∈ c.walk, d.Orderly) :
    Grown c.node.lineage c.children :=
  ⟨(h c (mem_walk_iff.2 (Or.inl rfl))).children, fun d hd => h d (mem_walk_iff.2 (Or.inr hd))⟩

theorem Grown.below (h : Grown above cs) {c : Collection σ} (hc : c ∈ cs) :
    Grown c.node.lineage c.children :=
  Orderly.grown fun d hd => h.orderly d (mem_walkAll_iff.2 ⟨c, hc, hd⟩)

/-- Whatever is below a collection goes on from its lineage. -/
theorem lineage_prefix_of_mem_walk {c : Collection σ} (h : ∀ d ∈ c.walk, d.Orderly) :
    ∀ d ∈ c.walk, c.node.lineage <+: d.node.lineage := by
  refine forall_mem_walk_of_step List.prefix_rfl ?_
  intro d hd hprefix e he
  rw [(h d hd).children.lineages e he]
  exact hprefix.trans (List.prefix_append _ _)

/-- Lineages are made of the names in the tree and of what is above it. -/
theorem Grown.forall_mem_lineage (h : Grown above cs) {P : String → Prop}
    (habove : ∀ s ∈ above, P s) (hnames : ∀ c ∈ walkAll cs, P c.name) :
    ∀ c ∈ walkAll cs, ∀ s ∈ c.node.lineage, P s := by
  intro c hc
  rcases mem_walkAll_iff.1 hc with ⟨root, hroot, hmem⟩
  have hwithin : ∀ d ∈ root.walk, d ∈ walkAll cs := fun d hd => mem_walkAll_iff.2 ⟨root, hroot, hd⟩
  refine forall_mem_walk_of_step (P := fun d => ∀ s ∈ d.node.lineage, P s) ?_ ?_ c hmem
  · rw [h.siblings.lineages root hroot, List.forall_mem_append]
    exact ⟨habove, List.forall_mem_singleton.2 (hnames root (mem_walkAll_of_mem hroot))⟩
  · intro d hd hlineage e he
    have hbelow : e ∈ root.walk := mem_walk_of_mem_children he hd
    rw [(h.orderly d (hwithin d hd)).children.lineages e he, List.forall_mem_append]
    exact ⟨hlineage, List.forall_mem_singleton.2 (hnames e (hwithin e hbelow))⟩

/-- Of the siblings one is above a collection of the tree, and its name is on the way there. -/
theorem Grown.exists_prefix (h : Grown above cs) {d : Collection σ} (hd : d ∈ walkAll cs) :
    ∃ c ∈ cs, d ∈ c.walk ∧ above ++ [c.name] <+: d.node.lineage := by
  rcases mem_walkAll_iff.1 hd with ⟨c, hc, hmem⟩
  refine ⟨c, hc, hmem, ?_⟩
  rw [← h.siblings.lineages c hc]
  exact lineage_prefix_of_mem_walk
    (fun e he => h.orderly e (mem_walkAll_iff.2 ⟨c, hc, he⟩)) d hmem

theorem Grown.length_lt (h : Grown above cs) {d : Collection σ} (hd : d ∈ walkAll cs) :
    above.length < d.node.lineage.length := by
  rcases h.exists_prefix hd with ⟨c, -, -, hprefix⟩
  have hlength := hprefix.length_le
  rw [List.length_append, List.length_singleton] at hlength
  omega

/-! ## Looking names up -/

theorem Siblings.find?_eq_some_iff (h : Siblings above cs) {name : String} {c : Collection σ} :
    (cs.find? fun d => d.name == name) = some c ↔ c ∈ cs ∧ c.name = name :=
  find?_name_eq_some_iff h.names

/-- Names looked up one after the other find exactly the collection that has them for its
lineage. -/
theorem Grown.lookUp_eq_some_iff (h : Grown above cs) {first : String} {rest : List String}
    {d : Collection σ} :
    ((cs.find? fun c => c.name == first) >>= rest.foldlM child?) = some d ↔
      d ∈ walkAll cs ∧ d.node.lineage = above ++ first :: rest := by
  -- by the names; each one is looked up among siblings, and the next one among those below
  induction rest generalizing above cs first d with
  | nil =>
      have hfound : ((cs.find? fun c => c.name == first) >>= [].foldlM child?) = some d ↔
          d ∈ cs ∧ d.name = first := by
        simpa using h.siblings.find?_eq_some_iff
      rw [hfound]
      constructor
      · rintro ⟨hd, rfl⟩
        exact ⟨mem_walkAll_of_mem hd, h.siblings.lineages d hd⟩
      · rintro ⟨hd, hlineage⟩
        rcases mem_walkAll_iff.1 hd with ⟨c, hc, hmem⟩
        rcases mem_walk_iff.1 hmem with rfl | hbelow
        · have hname : above ++ [d.name] = above ++ [first] := by
            rw [← h.siblings.lineages d hc, hlineage]
          simp only [List.append_cancel_left_eq, List.cons.injEq, and_true] at hname
          exact ⟨hc, hname⟩
        · -- below a sibling lineages have one name more at least
          have hlength := (h.below hc).length_lt hbelow
          rw [h.siblings.lineages c hc, hlineage] at hlength
          simp at hlength
  | cons next rest ih =>
      have hsteps : ((cs.find? fun c => c.name == first) >>= (next :: rest).foldlM child?) =
          some d ↔ ∃ c ∈ cs, c.name = first ∧ d ∈ walkAll c.children ∧
            d.node.lineage = c.node.lineage ++ next :: rest := by
        simp only [Option.bind_eq_bind, Option.bind_eq_some_iff, h.siblings.find?_eq_some_iff,
          and_assoc]
        refine exists_congr fun c => and_congr_right fun hc => and_congr_right fun _ => ?_
        exact ih (h.below hc)
      rw [hsteps]
      constructor
      · rintro ⟨c, hc, rfl, hbelow, hlineage⟩
        refine ⟨mem_walkAll_iff.2 ⟨c, hc, mem_walk_iff.2 (Or.inr hbelow)⟩, ?_⟩
        rw [hlineage, h.siblings.lineages c hc, List.append_assoc, List.singleton_append]
      · rintro ⟨hd, hlineage⟩
        rcases h.exists_prefix hd with ⟨c, hc, hmem, hprefix⟩
        have hname : c.name = first := by
          rw [hlineage, List.prefix_append_right_inj] at hprefix
          exact (List.cons_prefix_cons.1 hprefix).1
        have hlineage' : d.node.lineage = c.node.lineage ++ next :: rest := by
          rw [hlineage, h.siblings.lineages c hc, hname, List.append_assoc, List.singleton_append]
        rcases mem_walk_iff.1 hmem with rfl | hbelow
        · simp at hlineage'
        · exact ⟨c, hc, hname, hbelow, hlineage'⟩

/-- A lineage that goes on from that of a collection leads through one of its children. -/
theorem Grown.exists_child (h : Grown [] cs) {c d : Collection σ} {name : String}
    {rest : List String} (hc : c ∈ walkAll cs) (hd : d ∈ walkAll cs)
    (hlineage : d.node.lineage = c.node.lineage ++ name :: rest) :
    ∃ e ∈ c.children, e.name = name := by
  have hlength := h.length_lt hc
  rcases List.exists_cons_of_length_pos hlength with ⟨first, between, hfirst⟩
  have hfoundC : ((cs.find? fun e => e.name == first) >>= between.foldlM child?) = some c :=
    h.lookUp_eq_some_iff.2 ⟨hc, hfirst⟩
  have hfoundD : ((cs.find? fun e => e.name == first) >>=
      (between ++ name :: rest).foldlM child?) = some d :=
    h.lookUp_eq_some_iff.2 ⟨hd, by rw [hlineage, hfirst]; rfl⟩
  -- looking up goes to the collection first, and on from there by the name
  have hsteps : (c.child? name >>= rest.foldlM child?) = some d := by
    calc
      (c.child? name >>= rest.foldlM child?)
          = (((cs.find? fun e => e.name == first) >>= between.foldlM child?) >>=
              (name :: rest).foldlM child?) := by rw [hfoundC]; rfl
      _ = ((cs.find? fun e => e.name == first) >>= (between ++ name :: rest).foldlM child?) := by
          simp [List.foldlM_append, Option.bind_assoc]
      _ = some d := hfoundD
  rcases Option.bind_eq_some_iff.1 hsteps with ⟨e, he, -⟩
  exact ⟨e, (h.orderly c hc).children.find?_eq_some_iff.1 he⟩

/-! ## Lineages are different -/

/-- No lineage comes twice below siblings if none does below any of them. -/
theorem Grown.nodup_of_forall (h : Grown above cs)
    (hwalks : ∀ c ∈ cs, (c.walk.map fun d => d.node.lineage).Nodup) :
    ((walkAll cs).map fun d => d.node.lineage).Nodup := by
  rw [walkAll_eq_flatMap, List.map_flatMap, List.nodup_flatMap]
  refine ⟨hwalks, ?_⟩
  have happart : cs.Pairwise fun c d => c.name ≠ d.name := List.pairwise_map.1 h.siblings.names
  refine happart.imp_of_mem fun {c d} hc hd hne => ?_
  -- a lineage below both would go on from both names
  have hbegins : ∀ e ∈ cs, ∀ l ∈ e.walk.map (fun d => d.node.lineage),
      above ++ [e.name] <+: l := by
    intro e he l hl
    rcases List.mem_map.1 hl with ⟨f, hf, rfl⟩
    rw [← h.siblings.lineages e he]
    exact lineage_prefix_of_mem_walk
      (fun x hx => h.orderly x (mem_walkAll_iff.2 ⟨e, he, hx⟩)) f hf
  intro l hl hl'
  have hsame : above ++ [c.name] = above ++ [d.name] :=
    List.IsPrefix.eq_of_length (List.prefix_of_prefix_length_le (hbegins c hc l hl)
      (hbegins d hd l hl') (by simp)) (by simp)
  exact hne (by simpa using hsame)

theorem nodup_lineages_walk {c : Collection σ} : (∀ d ∈ c.walk, d.Orderly) →
    (c.walk.map fun d => d.node.lineage).Nodup := by
  induction c using Collection.induction with
  | step node children ih =>
      intro h
      have hgrown : Grown node.lineage children := Orderly.grown h
      rw [walk_mk, List.map_cons, List.nodup_cons]
      refine ⟨?_, hgrown.nodup_of_forall fun c hc => ih c hc fun e he =>
        hgrown.orderly e (mem_walkAll_iff.2 ⟨c, hc, he⟩)⟩
      intro hmem
      rcases List.mem_map.1 hmem with ⟨d, hd, hlineage⟩
      have hlength := hgrown.length_lt hd
      rw [hlineage] at hlength
      exact Nat.lt_irrefl _ hlength

theorem Grown.nodup_lineages (h : Grown above cs) :
    ((walkAll cs).map fun c => c.node.lineage).Nodup :=
  h.nodup_of_forall fun c hc => nodup_lineages_walk fun d hd =>
    h.orderly d (mem_walkAll_iff.2 ⟨c, hc, hd⟩)

end Collection

/-! ## Resources -/

/-- What a declaration is about: the whole application, or a collection of it or an operation. -/
inductive Site
  | application
  | collection (lineage : List String)
  | operation (lineage : List String) (name : String)
  deriving DecidableEq, Repr

/-- The names down to the collection that is declared or has the operation. -/
def Site.lineage : Site → List String
  | .application => []
  | .collection lineage | .operation lineage _ => lineage

/-- A collection of a tree, or an operation of one. -/
inductive Resource (σ : Type)
  | collection (c : Collection σ)
  | operation (c : Collection σ) (o : Operation σ)

namespace Resource

def name : Resource σ → String
  | collection c => c.name
  | operation _ o => o.name

def site : Resource σ → Site
  | collection c => .collection c.node.lineage
  | operation c o => .operation c.node.lineage o.name

end Resource

namespace Collection

variable {above : List String} {cs : List (Collection σ)}

/-- The collection, and its operations after it. -/
def ownResources (c : Collection σ) : List (Resource σ) :=
  .collection c :: c.node.operations.map (.operation c)

/-- The resources of a tree in preorder, each collection before its operations. -/
def resources (cs : List (Collection σ)) : List (Resource σ) := (walkAll cs).flatMap ownResources

theorem forall_mem_resources_iff {P : Resource σ → Prop} :
    (∀ x ∈ resources cs, P x) ↔
      ∀ c ∈ walkAll cs, P (.collection c) ∧ ∀ o ∈ c.node.operations, P (.operation c o) := by
  simp only [resources, ownResources, List.forall_mem_flatMap, List.forall_mem_cons,
    List.forall_mem_map]

/-- Lineages and names tell all resources of a tree apart. -/
theorem Grown.nodup_sites (h : Grown above cs) : ((resources cs).map Resource.site).Nodup := by
  rw [resources, List.map_flatMap, List.nodup_flatMap]
  refine ⟨?_, ?_⟩
  · intro c hc
    have hoperations : (c.node.operations.map fun o =>
        Site.operation c.node.lineage o.name).Nodup := by
      have hnames : (c.node.operations.map Operation.name).Nodup := (h.orderly c hc).operations
      rw [List.Nodup, List.pairwise_map] at hnames ⊢
      exact hnames.imp fun hne hsame => hne (by simpa using hsame)
    simpa [ownResources, Resource.site, Function.comp_def] using hoperations
  · -- what belongs to two collections has two lineages
    have hlineages := h.nodup_lineages
    rw [List.Nodup, List.pairwise_map] at hlineages
    refine hlineages.imp fun {c d} hne => ?_
    have hof : ∀ e : Collection σ, ∀ site ∈ e.ownResources.map Resource.site,
        site.lineage = e.node.lineage := by
      intro e
      simp [ownResources, Resource.site, Site.lineage]
    intro site hc hd
    exact hne ((hof c site hc).symm.trans (hof d site hd))

end Collection

/-! ## Declared trees -/

namespace CollectionDecl

open Collection (Siblings Grown)

/-- What is compiled under a parent goes on from its lineage. -/
theorem siblings_settledAll (ctx : CompileContext σ) (parent? : Option (CollectionNode σ))
    {ds : List (CollectionDecl σ)} (h : (ds.map name).Nodup) :
    Siblings ((parent?.map CollectionNode.lineage).getD []) (settledAll ctx parent? ds) := by
  refine ⟨by rw [map_name_settledAll]; exact h, ?_⟩
  intro c hc
  rw [settledAll_eq_map] at hc
  rcases List.mem_map.1 hc with ⟨⟨head, children⟩, -, rfl⟩
  rfl

/-- Every collection of a settled tree is what one of the declarations settles to. -/
theorem exists_of_mem_walk_settled (ctx : CompileContext σ) {d : CollectionDecl σ} :
    ∀ parent?, ∀ c ∈ (d.settled ctx parent?).walk,
      ∃ e ∈ d.walk, ∃ above?, c = e.settled ctx above? := by
  induction d using CollectionDecl.induction with
  | step head children ih =>
      intro parent? c hc
      rw [settled, Collection.walk_mk, List.mem_cons] at hc
      simp only [walk, walkAll_eq_flatMap, List.mem_cons, List.mem_flatMap]
      rcases hc with rfl | hbelow
      · exact ⟨⟨head, children⟩, Or.inl rfl, parent?, by rw [settled]⟩
      · rw [settledAll_eq_map] at hbelow
        rcases Collection.mem_walkAll_iff.1 hbelow with ⟨_, hsettled, hmem⟩
        rcases List.mem_map.1 hsettled with ⟨d, hd, rfl⟩
        rcases ih d hd _ c hmem with ⟨e, he, above?, heq⟩
        exact ⟨e, Or.inr ⟨d, hd, he⟩, above?, heq⟩

theorem map_name_operations_settled (ctx : CompileContext σ)
    (above? : Option (CollectionNode σ)) (d : CollectionDecl σ) :
    (d.settled ctx above?).node.operations.map Operation.name =
      d.head.operations.map OperationDecl.name := by
  rcases d with ⟨head, children⟩
  simp [settled, CollectionHead.settled, CollectionHead.node, Function.comp_def,
    OperationDecl.settled]

theorem NamesApart.orderly {d : CollectionDecl σ} (h : d.NamesApart) (ctx : CompileContext σ)
    (above? : Option (CollectionNode σ)) : (d.settled ctx above?).Orderly := by
  refine ⟨by rw [map_name_operations_settled]; exact h.operations, ?_⟩
  rcases d with ⟨head, children⟩
  exact siblings_settledAll ctx (some (head.settled ctx above?)) h.children

end CollectionDecl

namespace ApiDecl

theorem exists_of_mem_tree {d : ApiDecl σ} {c : Collection σ}
    (hc : c ∈ Collection.walkAll d.tree) :
    ∃ e ∈ CollectionDecl.walkAll d.collections, ∃ above?, c = e.settled d.context above? := by
  rw [tree, CollectionDecl.settledAll_eq_map] at hc
  rcases Collection.mem_walkAll_iff.1 hc with ⟨_, hsettled, hmem⟩
  rcases List.mem_map.1 hsettled with ⟨root, hroot, rfl⟩
  rcases CollectionDecl.exists_of_mem_walk_settled d.context none c hmem with ⟨e, he, hsame⟩
  rw [CollectionDecl.walkAll_eq_flatMap]
  exact ⟨e, List.mem_flatMap.2 ⟨root, hroot, he⟩, hsame⟩

theorem NamesApart.grown {d : ApiDecl σ} (h : d.NamesApart) : Collection.Grown [] d.tree := by
  refine ⟨CollectionDecl.siblings_settledAll d.context none h.roots, ?_⟩
  intro c hc
  rcases exists_of_mem_tree hc with ⟨e, he, above?, rfl⟩
  exact (h.below e he).orderly d.context above?

end ApiDecl

/-! ## Lineages of clauses -/

namespace CollectionClause

mutual

/-- The lineages of the collections that a clause declares under a lineage, each before those that
go on from it. -/
def lineages (above : List String) : CollectionClause σ → List (List String)
  | .collection name body => (above ++ [name]) :: lineagesAll (above ++ [name]) body
  | _ => []

def lineagesAll (above : List String) : List (CollectionClause σ) → List (List String)
  | [] => []
  | clause :: rest => lineages above clause ++ lineagesAll above rest

end

end CollectionClause

def ApiClause.lineages : ApiClause σ → List (List String)
  | .collection name body => CollectionClause.lineages [] (.collection name body)
  | _ => []

namespace Chain

/-- The names so far, none before the first collection. -/
def namesOf (parent? : Option (Chain σ)) : List String := (parent?.map names).getD []

theorem names_extend (parent? : Option (Chain σ)) (head : CollectionHead σ) :
    (extend parent? head).names = namesOf parent? ++ [head.name] := by
  cases parent? <;> rfl

end Chain

namespace CollectionDecl

theorem chainsAll_eq_flatMap (parent? : Option (Chain σ)) (ds : List (CollectionDecl σ)) :
    chainsAll parent? ds = ds.flatMap (chains parent?) := by
  induction ds with
  | nil => rfl
  | cons d rest ih => rw [chainsAll, ih, List.flatMap_cons]

-- by the clauses; the chain so far is the one to the collection that the clauses belong to
mutual

theorem names_chainsAll_child? : ∀ (clause : CollectionClause σ) (parent? : Option (Chain σ)),
    (chainsAll parent? clause.child?.toList).map Chain.names =
      clause.lineages (Chain.namesOf parent?)
  | .collection name body, parent? => by
      have hself := Chain.names_extend parent? (CollectionHead.extended { name } body)
      have hbelow := names_chainsAll_children body
        (some (Chain.extend parent? (CollectionHead.extended { name } body)))
      rw [Chain.namesOf, Option.map_some, Option.getD_some, hself] at hbelow
      simp only [CollectionClause.child?, Option.toList_some, chainsAll, chains, List.append_nil,
        List.map_cons, CollectionClause.lineages, hself, hbelow]
      rfl
  | .description _, _ => rfl
  | .withId _, _ => rfl
  | .noMember, _ => rfl
  | .operation _ _, _ => rfl
  | .action _ _, _ => rfl
  | .control, _ => rfl

theorem names_chainsAll_children : ∀ (body : List (CollectionClause σ))
    (parent? : Option (Chain σ)),
      (chainsAll parent? (CollectionClause.children body)).map Chain.names =
        CollectionClause.lineagesAll (Chain.namesOf parent?) body
  | [], _ => rfl
  | clause :: rest, parent? => by
      rw [CollectionClause.children, chainsAll_eq_flatMap, List.flatMap_append,
        ← chainsAll_eq_flatMap, ← chainsAll_eq_flatMap, List.map_append,
        names_chainsAll_child? clause, names_chainsAll_children rest,
        CollectionClause.lineagesAll]

end

end CollectionDecl

namespace ApiDecl

theorem names_chains (name : String) (clauses : List (ApiClause σ)) :
    (declared name clauses).chains.map Chain.names = clauses.flatMap ApiClause.lineages := by
  have hcalls : ∀ clauses : List (ApiClause σ),
      (CollectionDecl.chainsAll none ((clauses.filterMap ApiClause.collectionCall?).map fun call =>
        CollectionDecl.declared call.1 call.2)).map Chain.names =
          clauses.flatMap ApiClause.lineages := by
    intro clauses
    induction clauses with
    | nil => rfl
    | cons clause rest ih =>
        cases clause with
        | collection name body =>
            have hroot : ((CollectionDecl.declared name body).chains none).map Chain.names =
                ApiClause.lineages (.collection name body) := by
              have hclause := CollectionDecl.names_chainsAll_child? (.collection name body) none
              rw [CollectionDecl.chainsAll_eq_flatMap, CollectionClause.child?, Option.toList_some,
                List.flatMap_singleton] at hclause
              exact hclause
            rw [CollectionDecl.chainsAll_eq_flatMap] at ih ⊢
            simp only [List.filterMap_cons, ApiClause.collectionCall?, List.map_cons,
              List.flatMap_cons, List.map_append, ih, hroot]
        | _ => exact ih
  exact hcalls clauses

/-- The lineages of a tree are those of the clauses that declare it, in the same order. -/
theorem lineages_tree (name : String) (clauses : List (ApiClause σ)) :
    ((Collection.walkAll (declared name clauses).tree).map fun c => c.node.lineage) =
      clauses.flatMap ApiClause.lineages := by
  have hnodes := congrArg (List.map CollectionNode.lineage) (nodes_tree (declared name clauses))
  simp only [List.map_map, Function.comp_def, Chain.lineage_node] at hnodes
  rw [hnodes, names_chains]

end ApiDecl

/-! ## Built applications -/

namespace Collection

/-- A name within a collection stands for the subcollection that has it, and only otherwise for an
operation. -/
theorem Orderly.get?_name {c : Collection σ} (h : c.Orderly) {o : Operation σ}
    (ho : o ∈ c.node.operations) :
    c.operation? o.name = some o ∧
      (∀ d ∈ c.children, d.name = o.name → c.get? o.name = some (.collection d)) ∧
      (o.name ∉ c.children.map name → c.get? o.name = some (.operation o)) := by
  have hoperation : c.operation? o.name = some o :=
    (find?_name_eq_some_iff h.operations).2 ⟨ho, rfl⟩
  refine ⟨hoperation, ?_, ?_⟩
  · intro d hd hname
    have hchild : c.child? o.name = some d := h.children.find?_eq_some_iff.2 ⟨hd, hname⟩
    rw [get?, hchild, Option.map_some, Option.some_or]
  · intro hother
    have hchild : c.child? o.name = none := by
      rw [child?, List.find?_eq_none]
      intro d hd hname
      exact hother (List.mem_map.2 ⟨d, hd, by simpa using hname⟩)
    rw [get?, hchild, hoperation, Option.map_none, Option.none_or, Option.map_some]

end Collection

namespace Api

theorem collectionAt?_eq_some_iff {api : Api σ} (h : Collection.Grown [] api.collections)
    {lineage : List String} {c : Collection σ} :
    api.collectionAt? lineage = some c ↔
      c ∈ Collection.walkAll api.collections ∧ c.node.lineage = lineage := by
  cases lineage with
  | nil =>
      -- nothing is found without a name, and no collection is without one
      refine iff_of_false (by simp [collectionAt?]) ?_
      rintro ⟨hc, hempty⟩
      have hlength := h.length_lt hc
      rw [hempty] at hlength
      exact Nat.lt_irrefl _ hlength
  | cons first rest => exact h.lookUp_eq_some_iff

/-- Lineages and look-ups undo each other. Walking a built application from its roots comes past
every declared collection once, in the order of the clauses and each before those below it, and no
two have one lineage. A look-up by names finds exactly the collection that has them for its
lineage; within it every operation is found by its name, which stands for a subcollection instead
if one has it. -/
theorem lineages_of_build {name : String} {clauses : List (ApiClause σ)} {api : Api σ}
    (hbuild : build name clauses = .ok api) :
    ((Collection.walkAll api.collections).map fun c => c.node.lineage) =
        clauses.flatMap ApiClause.lineages ∧
      (clauses.flatMap ApiClause.lineages).Nodup ∧
      (∀ lineage c, api.collectionAt? lineage = some c ↔
        c ∈ Collection.walkAll api.collections ∧ c.node.lineage = lineage) ∧
      ∀ c ∈ Collection.walkAll api.collections, ∀ o ∈ c.node.operations,
        c.operation? o.name = some o ∧
          (∀ d ∈ c.children, d.name = o.name → c.get? o.name = some (.collection d)) ∧
          (o.name ∉ c.children.map Collection.name → c.get? o.name = some (.operation o)) := by
  rcases build_eq_ok_iff.1 hbuild with ⟨⟨hdeclared, -, -⟩, rfl⟩
  have hgrown : Collection.Grown [] (ApiDecl.declared name clauses).tree :=
    (ApiDecl.namesApart_declared hdeclared).grown
  have hlineages := ApiDecl.lineages_tree name clauses
  refine ⟨hlineages, ?_, fun lineage c => collectionAt?_eq_some_iff hgrown, ?_⟩
  · rw [← hlineages]
    exact hgrown.nodup_lineages
  · intro c hc o ho
    exact (hgrown.orderly c hc).get?_name ho

/-- A site whose pages have pages below them, and an operation of the name of those. -/
def nestedPages : List (ApiClause Unit) :=
  [.routing { headRoutes := false, optionsRoutes := false },
    .collection "pages" [.operation "pages" [],
      .collection "pages" [.withId "page", .operation "show" []], .collection "drafts" []],
    .collection "drafts" []]

theorem lineages_nestedPages :
    ∃ api : Api Unit, build "site" nestedPages = .ok api ∧
      ((Collection.walkAll api.collections).map fun c => c.node.lineage) =
        [["pages"], ["pages", "pages"], ["pages", "drafts"], ["drafts"]] ∧
      (∀ c ∈ Collection.walkAll api.collections, api.collectionAt? c.node.lineage = some c) ∧
      ∃ c ∈ Collection.walkAll api.collections, ∃ o ∈ c.node.operations,
        o.name ∈ c.children.map Collection.name ∧ c.operation? o.name = some o ∧
          ∃ d ∈ c.children, c.get? o.name = some (.collection d) := by
  have hbuild : ∃ api : Api Unit, build "site" nestedPages = .ok api :=
    isOk_iff_exists.1 (by decide +kernel)
  rcases hbuild with ⟨api, h⟩
  rcases lineages_of_build h with ⟨hwalk, -, hlookUp, hnames⟩
  refine ⟨api, h, hwalk, fun c hc => (hlookUp _ c).2 ⟨hc, rfl⟩, ?_⟩
  -- the operation is found by its name, and the name stands for the pages below
  have hshared : ∃ c ∈ Collection.walkAll api.collections, ∃ o ∈ c.node.operations,
      ∃ d ∈ c.children, d.name = o.name := by
    rw [(build_eq_ok_iff.1 h).2]
    decide +kernel
  rcases hshared with ⟨c, hc, o, ho, d, hd, hname⟩
  rcases hnames c hc o ho with ⟨hoperation, hchild, -⟩
  exact ⟨c, hc, o, ho, hname ▸ List.mem_map_of_mem hd, hoperation, d, hd, hchild d hd hname⟩

end Api
end ResourceRouting
