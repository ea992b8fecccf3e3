import Mathlib.Data.List.Forall2
import ResourceRouting.Proofs.Compilation

/-!
# Contexts — one declaration compiled in two contexts

A declared tree is compiled against settings, decisions of the host and features. Where two
contexts settle every single collection alike, for parents that are alike, they settle whole trees
alike.

* `CollectionDecl.related_settledAll`: a relation of collections one by one is a relation of trees.
-/

namespace ResourceRouting

variable {σ : Type}

namespace CollectionDecl

section Related

variable {ctx ctx' : CompileContext σ} {N : CollectionNode σ → CollectionNode σ → Prop}
  {T : Collection σ → Collection σ → Prop}

-- by the tree of declarations: what is related at a collection is handed down as the next parent
mutual

theorem related_settled
    (hnode : ∀ (head : CollectionHead σ) parent? parent'?, Option.Rel N parent? parent'? →
      N (head.settled ctx parent?) (head.settled ctx' parent'?))
    (htree : ∀ {node node' children children'}, N node node' → List.Forall₂ T children children' →
      T ⟨node, children⟩ ⟨node', children'⟩) :
    ∀ (d : CollectionDecl σ) {parent? parent'? : Option (CollectionNode σ)},
      Option.Rel N parent? parent'? → T (d.settled ctx parent?) (d.settled ctx' parent'?)
  | ⟨head, children⟩, parent?, parent'?, hparent => by
      have hhead := hnode head parent? parent'? hparent
      rw [settled, settled]
      exact htree hhead (related_settledAll hnode htree children (.some hhead))

/-- Trees are related if their collections are, one by one. -/
theorem related_settledAll
    (hnode : ∀ (head : CollectionHead σ) parent? parent'?, Option.Rel N parent? parent'? →
      N (head.settled ctx parent?) (head.settled ctx' parent'?))
    (htree : ∀ {node node' children children'}, N node node' → List.Forall₂ T children children' →
      T ⟨node, children⟩ ⟨node', children'⟩) :
    ∀ (ds : List (CollectionDecl σ)) {parent? parent'? : Option (CollectionNode σ)},
      Option.Rel N parent? parent'? →
        List.Forall₂ T (settledAll ctx parent? ds) (settledAll ctx' parent'? ds)
  | [], _, _, _ => by
      rw [settledAll, settledAll]
      exact .nil
  | d :: rest, _, _, hparent => by
      rw [settledAll, settledAll]
      exact .cons (related_settled hnode htree d hparent)
        (related_settledAll hnode htree rest hparent)

end

end Related

/-- Contexts that settle every collection to the same settle trees to the same. -/
theorem settledAll_congr {ctx ctx' : CompileContext σ}
    (h : ∀ (head : CollectionHead σ) parent?, head.settled ctx parent? = head.settled ctx' parent?)
    (ds : List (CollectionDecl σ)) : settledAll ctx none ds = settledAll ctx' none ds := by
  have hnode : ∀ (head : CollectionHead σ) parent? parent'?, Option.Rel Eq parent? parent'? →
      head.settled ctx parent? = head.settled ctx' parent'? := by
    intro head parent? parent'? hparent
    cases hparent with
    | some hparent => rw [hparent, h]
    | none => exact h head none
  have htree : ∀ {node node' : CollectionNode σ} {children children' : List (Collection σ)},
      node = node' → List.Forall₂ Eq children children' →
        (⟨node, children⟩ : Collection σ) = ⟨node', children'⟩ := by
    intro node node' children children' hnode hchildren
    rw [List.forall₂_eq_eq_eq] at hchildren
    rw [hnode, hchildren]
  have hall := related_settledAll hnode htree ds .none
  rwa [List.forall₂_eq_eq_eq] at hall

end CollectionDecl

namespace Collection

/-- A relation of trees is one of their collections in preorder. -/
theorem related_walkAll {N : CollectionNode σ → CollectionNode σ → Prop}
    {cs cs' : List (Collection σ)}
    (h : List.Forall₂ (fun c c' => List.Forall₂ (fun e e' => N e.node e'.node) c.walk c'.walk)
      cs cs') :
    List.Forall₂ (fun e e' => N e.node e'.node) (walkAll cs) (walkAll cs') := by
  induction h with
  | nil =>
      rw [walkAll]
      exact .nil
  | cons hc _ ih =>
      rw [walkAll_cons, walkAll_cons]
      exact List.rel_append hc ih

end Collection

/-- Where single collections are related, so are all collections of two trees in preorder. -/
theorem CollectionDecl.related_walkAll_settledAll {ctx ctx' : CompileContext σ}
    {N : CollectionNode σ → CollectionNode σ → Prop}
    (hnode : ∀ (head : CollectionHead σ) parent? parent'?, Option.Rel N parent? parent'? →
      N (head.settled ctx parent?) (head.settled ctx' parent'?)) (ds : List (CollectionDecl σ)) :
    List.Forall₂ (fun c c' => N c.node c'.node) (Collection.walkAll (settledAll ctx none ds))
      (Collection.walkAll (settledAll ctx' none ds)) := by
  refine Collection.related_walkAll (related_settledAll hnode ?_ ds .none)
  intro node node' children children' hnode hchildren
  rw [Collection.walk_mk, Collection.walk_mk]
  exact .cons hnode (Collection.related_walkAll hchildren)

end ResourceRouting
