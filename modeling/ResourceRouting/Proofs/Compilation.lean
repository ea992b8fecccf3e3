import ResourceRouting.Proofs.Declared.Application
import ResourceRouting.Proofs.Results

/-!
# Compilation — what a tree of declarations compiles to

Compiling stops at the first fault. `CollectionDecl.settled` is the tree that it is after, with
nothing checked: every collection at its place, every operation with all that a request needs.

* `CollectionDecl.compile_eq_ok_iff`: a tree compiles exactly when no fault was recorded at any
  depth and no path of a collection or an operation repeats a placeholder; it then compiles to
  the settled tree.
-/

namespace ResourceRouting

/-! ## Operations -/

namespace OperationDecl

variable {σ : Type}

theorem compile_eq_ok_iff {owner : OperationOwner} {hooks : Hooks σ} {d : OperationDecl σ}
    {o : Operation σ} :
    d.compile owner hooks = .ok o ↔
      (d.faults = [] ∧ (Path.params (d.relative owner)).Nodup) ∧ o = d.settled owner hooks := by
  rw [← Path.repeatedParam?_eq_none_iff]
  unfold compile
  cases d.faults with
  | cons fault rest =>
      simp
  | nil =>
      cases Path.repeatedParam? (d.relative owner) with
      | some name =>
          simp
      | none =>
          simp [pure, Except.pure, eq_comm]

theorem canonical_convention (d : OperationDecl σ) :
    d.convention.canonical = (Convention.ofName d.name).canonical := by
  by_cases hc : (Convention.ofName d.name).canonical = true
  · simp [convention, hc]
  · simp [convention, hc]

end OperationDecl

/-- The path of an operation relative to the root, read off the collection that has it. -/
def Operation.relative {σ : Type} (node : CollectionNode σ) (o : Operation σ) : String :=
  Path.ofOperation node.relative node.idParam o.name o.scope
    (Convention.ofName o.name).canonical

/-! ## Collections -/

/-- Neither the path of the collection nor that of one of its operations, both relative to the
root, names a placeholder twice. -/
def CollectionNode.DistinctPlaceholders {σ : Type} (node : CollectionNode σ) : Prop :=
  (Path.params node.relative).Nodup ∧
    ∀ o ∈ node.operations, (Path.params (o.relative node)).Nodup

namespace CollectionHead

variable {σ : Type}

/-- The collection with all of its operations, whatever may be wrong with their declarations. -/
def settled (ctx : CompileContext σ) (parent? : Option (CollectionNode σ))
    (h : CollectionHead σ) : CollectionNode σ :=
  h.node ctx parent? (h.operations.map (OperationDecl.settled (h.owner ctx parent?) ctx.hooks))

theorem relative_settled (ctx : CompileContext σ) (parent? : Option (CollectionNode σ))
    (h : CollectionHead σ) (d : OperationDecl σ) :
    (d.settled (h.owner ctx parent?) ctx.hooks).relative (h.settled ctx parent?) =
      d.relative (h.owner ctx parent?) := by
  simp only [Operation.relative, OperationDecl.relative, OperationDecl.canonical_convention]
  rfl

theorem distinctPlaceholders_settled_iff {ctx : CompileContext σ}
    {parent? : Option (CollectionNode σ)} {h : CollectionHead σ} :
    (h.settled ctx parent?).DistinctPlaceholders ↔
      (Path.params (h.relative parent?)).Nodup ∧
        ∀ d ∈ h.operations, (Path.params (d.relative (h.owner ctx parent?))).Nodup := by
  have hops : (h.settled ctx parent?).operations =
      h.operations.map (OperationDecl.settled (h.owner ctx parent?) ctx.hooks) := rfl
  rw [CollectionNode.DistinctPlaceholders, hops, List.forall_mem_map]
  simp only [relative_settled]
  rfl

/-- The last step of compiling a collection: its operations, in the order of their declaration. -/
theorem compileOperations_eq_ok_iff {ctx : CompileContext σ}
    {parent? : Option (CollectionNode σ)} {h : CollectionHead σ} {node : CollectionNode σ} :
    (do
      let operations ← h.operations.mapM
        (OperationDecl.compile (h.owner ctx parent?) ctx.hooks)
      return h.node ctx parent? operations) = .ok node ↔
      (∀ d ∈ h.operations, d.faults = [] ∧
        (Path.params (d.relative (h.owner ctx parent?))).Nodup) ∧
        node = h.settled ctx parent? := by
  have hops := mapM_eq_ok_iff (fun (d : OperationDecl σ) (o : Operation σ) =>
    (OperationDecl.compile_eq_ok_iff :
      d.compile (h.owner ctx parent?) ctx.hooks = .ok o ↔ _)) h.operations
  rw [bind_eq_ok_iff]
  constructor
  · rintro ⟨operations, hmap, hnode⟩
    rcases (hops operations).1 hmap with ⟨hall, rfl⟩
    exact ⟨hall, (Except.ok.inj hnode).symm⟩
  · rintro ⟨hall, rfl⟩
    exact ⟨_, (hops _).2 ⟨hall, rfl⟩, rfl⟩

theorem compile_eq_ok_iff {ctx : CompileContext σ} {parent? : Option (CollectionNode σ)}
    {h : CollectionHead σ} {node : CollectionNode σ} :
    h.compile ctx parent? = .ok node ↔
      (h.Faultless ∧ (h.settled ctx parent?).DistinctPlaceholders) ∧
        node = h.settled ctx parent? := by
  rw [distinctPlaceholders_settled_iff, ← Path.repeatedParam?_eq_none_iff]
  unfold compile Faultless
  cases h.faults with
  | cons fault rest =>
      simp
  | nil =>
      cases Path.repeatedParam? (h.relative parent?) with
      | some name =>
          simp
      | none =>
          simp only [true_and]
          exact compileOperations_eq_ok_iff.trans (and_congr_left fun _ => forall₂_and)

end CollectionHead

/-! ## Trees -/

namespace Collection

variable {σ : Type}

/-- What a collection takes over from its subcollections holds of every collection. -/
@[elab_as_elim]
theorem induction {motive : Collection σ → Prop}
    (step : ∀ node children, (∀ c ∈ children, motive c) → motive ⟨node, children⟩) :
    ∀ c, motive c
  | ⟨node, children⟩ => step node children fun c _ => induction step c

theorem walkAll_cons (c : Collection σ) (rest : List (Collection σ)) :
    walkAll (c :: rest) = c.walk ++ walkAll rest := by
  rw [walkAll]

theorem walk_mk (node : CollectionNode σ) (children : List (Collection σ)) :
    walk ⟨node, children⟩ = ⟨node, children⟩ :: walkAll children := by
  rw [walk]

end Collection

namespace CollectionDecl

variable {σ : Type}

mutual

/-- The collection that a declaration is compiled to, with all below it and nothing checked. -/
def settled (ctx : CompileContext σ) (parent? : Option (CollectionNode σ)) :
    CollectionDecl σ → Collection σ
  | ⟨head, children⟩ =>
      ⟨head.settled ctx parent?, settledAll ctx (some (head.settled ctx parent?)) children⟩

def settledAll (ctx : CompileContext σ) (parent? : Option (CollectionNode σ)) :
    List (CollectionDecl σ) → List (Collection σ)
  | [] => []
  | d :: rest => settled ctx parent? d :: settledAll ctx parent? rest

end

theorem settledAll_eq_map (ctx : CompileContext σ) (parent? : Option (CollectionNode σ))
    (ds : List (CollectionDecl σ)) : settledAll ctx parent? ds = ds.map (settled ctx parent?) := by
  induction ds with
  | nil => rfl
  | cons d rest ih => rw [settledAll, ih, List.map_cons]

theorem name_settled (ctx : CompileContext σ) (parent? : Option (CollectionNode σ))
    (d : CollectionDecl σ) : (d.settled ctx parent?).name = d.name := by
  rcases d with ⟨head, children⟩
  rfl

theorem map_name_settledAll (ctx : CompileContext σ) (parent? : Option (CollectionNode σ))
    (ds : List (CollectionDecl σ)) :
    (settledAll ctx parent? ds).map Collection.name = ds.map CollectionDecl.name := by
  rw [settledAll_eq_map, List.map_map]
  exact List.map_congr_left fun d _ => d.name_settled ctx parent?

mutual

theorem compile_eq_ok_iff (ctx : CompileContext σ) : ∀ (d : CollectionDecl σ)
    (parent? : Option (CollectionNode σ)) (c : Collection σ),
      d.compile ctx parent? = .ok c ↔
        (d.Faultless ∧ ∀ e ∈ (d.settled ctx parent?).walk, e.node.DistinctPlaceholders) ∧
          c = d.settled ctx parent?
  | ⟨head, children⟩, parent?, c => by
      have hfaultless : Faultless ⟨head, children⟩ ↔
          head.Faultless ∧ ∀ d ∈ children, d.Faultless := faultless_iff
      simp only [compile, settled, Collection.walk_mk, bind_eq_ok_iff, hfaultless,
        CollectionHead.compile_eq_ok_iff, compileAll_eq_ok_iff ctx children,
        List.forall_mem_cons]
      constructor
      · rintro ⟨node, ⟨⟨hhead, hplaces⟩, rfl⟩, cs, ⟨⟨hchildren, hwalk⟩, rfl⟩, hc⟩
        exact ⟨⟨⟨hhead, hchildren⟩, hplaces, hwalk⟩, (Except.ok.inj hc).symm⟩
      · rintro ⟨⟨⟨hhead, hchildren⟩, hplaces, hwalk⟩, rfl⟩
        exact ⟨_, ⟨⟨hhead, hplaces⟩, rfl⟩, _, ⟨⟨hchildren, hwalk⟩, rfl⟩, rfl⟩

theorem compileAll_eq_ok_iff (ctx : CompileContext σ) : ∀ (ds : List (CollectionDecl σ))
    (parent? : Option (CollectionNode σ)) (cs : List (Collection σ)),
      compileAll ctx parent? ds = .ok cs ↔
        ((∀ d ∈ ds, d.Faultless) ∧
          ∀ e ∈ Collection.walkAll (settledAll ctx parent? ds), e.node.DistinctPlaceholders) ∧
            cs = settledAll ctx parent? ds
  | [], parent?, cs => by
      simp [compileAll, settledAll, Collection.walkAll, pure, Except.pure, eq_comm]
  | d :: rest, parent?, cs => by
      simp only [compileAll, settledAll, Collection.walkAll_cons, bind_eq_ok_iff,
        compile_eq_ok_iff ctx d, compileAll_eq_ok_iff ctx rest, List.forall_mem_cons,
        List.forall_mem_append]
      constructor
      · rintro ⟨c, ⟨⟨hd, hwalk⟩, rfl⟩, cs', ⟨⟨hrest, hwalks⟩, rfl⟩, hcs⟩
        exact ⟨⟨⟨hd, hrest⟩, hwalk, hwalks⟩, (Except.ok.inj hcs).symm⟩
      · rintro ⟨⟨⟨hd, hrest⟩, hwalk, hwalks⟩, rfl⟩
        exact ⟨_, ⟨⟨hd, hwalk⟩, rfl⟩, _, ⟨⟨hrest, hwalks⟩, rfl⟩, rfl⟩

end

end CollectionDecl
end ResourceRouting
