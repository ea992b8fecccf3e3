import ResourceRouting.Proofs.Declared.Application

/-!
# Names — what is gathered is told apart by its names

A declaration that repeats a name is a fault, and it is left out of what is gathered. So names tell
operations of one collection apart, and collections side by side, whatever else is wrong with the
clauses.

* `ApiDecl.NamesApart`: names tell apart all that stands side by side, at every depth.
* `ApiDecl.namesApart_ofClauses`: they do in whatever is gathered.
-/

namespace ResourceRouting

variable {σ : Type}

/-- Names tell the operations of a collection apart, and its subcollections too. -/
structure CollectionDecl.NamesApart (d : CollectionDecl σ) : Prop where
  operations : (d.head.operations.map OperationDecl.name).Nodup
  children : (d.children.map name).Nodup

/-- Names tell apart all that stands side by side, at every depth. -/
structure ApiDecl.NamesApart (d : ApiDecl σ) : Prop where
  roots : (d.collections.map CollectionDecl.name).Nodup
  below : ∀ e ∈ CollectionDecl.walkAll d.collections, e.NamesApart

instance (d : CollectionDecl σ) : Decidable d.NamesApart :=
  decidable_of_iff ((d.head.operations.map OperationDecl.name).Nodup ∧
      (d.children.map CollectionDecl.name).Nodup)
    ⟨fun ⟨hoperations, hchildren⟩ => ⟨hoperations, hchildren⟩,
      fun h => ⟨h.operations, h.children⟩⟩

instance (d : ApiDecl σ) : Decidable d.NamesApart :=
  decidable_of_iff ((d.collections.map CollectionDecl.name).Nodup ∧
      ∀ e ∈ CollectionDecl.walkAll d.collections, e.NamesApart)
    ⟨fun ⟨hroots, hbelow⟩ => ⟨hroots, hbelow⟩, fun h => ⟨h.roots, h.below⟩⟩

/-! ## Collections -/

namespace CollectionDecl

/-- Names depend on the operations and subcollections only. -/
theorem namesApart_of_same {d d' : CollectionDecl σ} (h : ∀ e ∈ d.walk, e.NamesApart)
    (hops : d'.head.operations = d.head.operations) (hchildren : d'.children = d.children) :
    ∀ e ∈ d'.walk, e.NamesApart := by
  rw [forall_mem_walk_iff] at h ⊢
  rw [hchildren]
  exact ⟨⟨hops ▸ h.1.operations, hchildren ▸ h.1.children⟩, h.2⟩

/-- Nothing that repeats a name is taken in. -/
theorem namesApart_addOperation {d : CollectionDecl σ} (h : ∀ e ∈ d.walk, e.NamesApart)
    (o : OperationDecl σ) : ∀ e ∈ (d.addOperation o).walk, e.NamesApart := by
  by_cases hmem : o.name ∈ d.head.operations.map OperationDecl.name
  · rw [addOperation_of_repeated hmem]
    exact namesApart_of_same h rfl rfl
  · rw [forall_mem_walk_iff] at h
    rw [addOperation_of_fresh hmem, forall_mem_walk_iff]
    exact ⟨⟨nodup_map_concat_iff.2 ⟨hmem, h.1.operations⟩, h.1.children⟩, h.2⟩

theorem namesApart_addChild {d c : CollectionDecl σ} (h : ∀ e ∈ d.walk, e.NamesApart)
    (hc : ∀ e ∈ c.walk, e.NamesApart) : ∀ e ∈ (d.addChild c).walk, e.NamesApart := by
  by_cases hmem : c.name ∈ d.children.map name
  · rw [addChild_of_repeated hmem]
    exact namesApart_of_same h rfl rfl
  · rw [forall_mem_walk_iff] at h
    rw [addChild_of_fresh hmem, forall_mem_walk_iff, List.forall_mem_append]
    exact ⟨⟨h.1.operations, nodup_map_concat_iff.2 ⟨hmem, h.1.children⟩⟩, h.2,
      List.forall_mem_singleton.2 hc⟩

theorem namesApart_empty (name : String) :
    ∀ e ∈ walk (⟨{ name }, []⟩ : CollectionDecl σ), e.NamesApart :=
  forall_mem_walk_iff.2 ⟨⟨List.nodup_nil, List.nodup_nil⟩, by simp⟩

-- by the clauses; a subcollection is gathered from nothing before it is taken in
mutual

theorem namesApart_apply : ∀ (clause : CollectionClause σ) {d : CollectionDecl σ},
    (∀ e ∈ d.walk, e.NamesApart) → ∀ e ∈ (d.apply clause).walk, e.NamesApart
  | .collection child body, _, h => by
      rw [apply]
      exact namesApart_addChild h (namesApart_applyAll body (namesApart_empty child))
  | .operation _ _, _, h => namesApart_addOperation h _
  | .action _ _, _, h => namesApart_addOperation h _
  | .description _, _, h => namesApart_of_same h rfl rfl
  | .withId _, _, h => namesApart_of_same h rfl rfl
  | .noMember, _, h => namesApart_of_same h rfl rfl
  | .control, _, h => namesApart_of_same h rfl rfl

theorem namesApart_applyAll : ∀ (body : List (CollectionClause σ)) {d : CollectionDecl σ},
    (∀ e ∈ d.walk, e.NamesApart) → ∀ e ∈ (d.applyAll body).walk, e.NamesApart
  | [], _, h => h
  | clause :: rest, _, h => namesApart_applyAll rest (namesApart_apply clause h)

end

theorem namesApart_ofClauses (name : String) (body : List (CollectionClause σ)) :
    ∀ e ∈ (ofClauses name body).walk, e.NamesApart :=
  namesApart_applyAll body (namesApart_empty name)

end CollectionDecl

/-! ## Applications -/

namespace ApiDecl

theorem namesApart_addCollection {d : ApiDecl σ} (h : d.NamesApart) {c : CollectionDecl σ}
    (hc : ∀ e ∈ c.walk, e.NamesApart) : (d.addCollection c).NamesApart := by
  by_cases hmem : c.name ∈ d.collections.map CollectionDecl.name
  · rw [addCollection_of_repeated hmem]
    exact ⟨h.roots, h.below⟩
  · rw [addCollection_of_fresh hmem]
    refine ⟨nodup_map_concat_iff.2 ⟨hmem, h.roots⟩, ?_⟩
    have hbelow := h.below
    rw [CollectionDecl.walkAll_eq_flatMap, List.forall_mem_flatMap] at hbelow ⊢
    rw [List.forall_mem_append]
    exact ⟨hbelow, List.forall_mem_singleton.2 hc⟩

theorem namesApart_foldl_apply (clauses : List (ApiClause σ)) {d : ApiDecl σ} (h : d.NamesApart) :
    (clauses.foldl apply d).NamesApart := by
  induction clauses generalizing d with
  | nil =>
      exact h
  | cons clause rest ih =>
      refine ih ?_
      cases clause with
      | feature name target body =>
          have hsame : (d.addFeature name target body).collections = d.collections :=
            collections_addFeature d name target body
          exact ⟨hsame ▸ h.roots, hsame ▸ h.below⟩
      | collection name body =>
          exact namesApart_addCollection h (CollectionDecl.namesApart_ofClauses name body)
      | _ =>
          exact ⟨h.roots, h.below⟩

/-- Names tell apart all that is gathered, whatever is wrong with the clauses. -/
theorem namesApart_ofClauses (name : String) (clauses : List (ApiClause σ)) :
    (ofClauses name clauses).NamesApart :=
  namesApart_foldl_apply clauses ⟨List.nodup_nil, by simp [CollectionDecl.walkAll]⟩

/-- So they do in the application that clauses declare, if none of them is at fault. -/
theorem namesApart_declared {name : String} {clauses : List (ApiClause σ)}
    (h : WellDeclared clauses) : (declared name clauses).NamesApart := by
  rw [← ofClauses_eq_declared h]
  exact namesApart_ofClauses name clauses

end ApiDecl
end ResourceRouting
