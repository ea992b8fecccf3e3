import ResourceRouting.Feature
import ResourceRouting.Proofs.Declared.Operation
import ResourceRouting.Proofs.Lists

/-!
# Bodies — what the clauses of a feature add up to

The clauses of a feature are taken in one after the other, and each kind of clause is merged in its
own way: the first description stays, parameters are appended operation by operation, and the last
value of a constraint counts. `Feature.Gathers` says the same of a whole body at once.

* `Feature.Gathers.apply`: what one more clause changes.
* `Feature.gathers_ofBody`: a feature gathers the body that it is declared with.
-/

namespace ResourceRouting

/-! ## What one clause says -/

namespace FeatureClause

@[simp]
def description? : FeatureClause → Option String
  | .description text => some text
  | _ => none

/-- The operation that a clause mentions. -/
@[simp]
def operation? : FeatureClause → Option String
  | .operation name _ => some name
  | _ => none

/-- The parameters that a clause gives to an operation. -/
@[simp]
def paramsFor (operation : String) : FeatureClause → List Parameter
  | .operation name params => if name = operation then params else []
  | _ => []

/-- The value that a clause gives to a constraint. -/
@[simp]
def valueFor? (constraint : String) : FeatureClause → Option Json
  | .constraint name value => if name = constraint then some value else none
  | _ => none

end FeatureClause

/-! ## What a body says -/

namespace Feature

/-- The operations that a body mentions, each once, in the order of their first mention, with all
the parameters that the body gives to each. -/
def extensionsOf (body : List FeatureClause) : List Extension :=
  (body.filterMap FeatureClause.operation?).eraseDups.map fun operation =>
    ⟨operation, body.flatMap (FeatureClause.paramsFor operation)⟩

/-- The feature has what a body says: the first description, the extensions, and of each
constraint the last value. -/
structure Gathers (f : Feature) (body : List FeatureClause) : Prop where
  description : f.description? = body.findSome? FeatureClause.description?
  extensions : f.extensions = extensionsOf body
  constraints : ∀ constraint,
    f.constraints[constraint]? = lastSaid? (FeatureClause.valueFor? constraint) body

/-! ## Extensions -/

theorem extend_of_fresh {operation : String} {params : List Parameter}
    {extensions : List Extension} (h : operation ∉ extensions.map Extension.operation) :
    extend operation params extensions = extensions ++ [⟨operation, params⟩] := by
  induction extensions with
  | nil =>
      rfl
  | cons e rest ih =>
      simp only [List.map_cons, List.mem_cons, not_or] at h
      simp [extend, Ne.symm h.1, ih h.2]

/-- Extending an operation that is there already leaves the others as they are. -/
theorem extend_of_mem {operation : String} {params : List Parameter} {names : List String}
    (given : String → List Parameter) (hnodup : names.Nodup) (hmem : operation ∈ names) :
    extend operation params (names.map fun name => ⟨name, given name⟩) =
      names.map fun name => ⟨name, given name ++ if operation = name then params else []⟩ := by
  -- by the names: the walk stops at the operation, and no name behind it is the same
  induction names with
  | nil =>
      cases hmem
  | cons name rest ih =>
      rcases List.nodup_cons.1 hnodup with ⟨hname, hrest⟩
      by_cases hsame : name = operation
      · subst hsame
        have hothers : ∀ other ∈ rest, ¬ name = other := fun other hother heq =>
          hname (heq ▸ hother)
        have htail : rest.map (fun other => (⟨other, given other ++
            if name = other then params else []⟩ : Extension)) =
              rest.map fun other => ⟨other, given other⟩ :=
          List.map_congr_left fun other hother => by simp [hothers other hother]
        simp [extend, htail]
      · have hthere : operation ∈ rest := by simpa [Ne.symm hsame] using hmem
        simp [extend, hsame, Ne.symm hsame, ih hrest hthere]

theorem paramsFor_eq_nil_of_fresh {body : List FeatureClause} {operation : String}
    (h : operation ∉ body.filterMap FeatureClause.operation?) :
    body.flatMap (FeatureClause.paramsFor operation) = [] := by
  rw [List.flatMap_eq_nil_iff]
  intro clause hclause
  cases clause with
  | operation name params =>
      have hname : ¬ name = operation := by
        intro heq
        exact h (List.mem_filterMap.2 ⟨_, hclause, congrArg some heq⟩)
      simp [hname]
  | _ =>
      rfl

theorem extend_extensionsOf (body : List FeatureClause) (operation : String)
    (params : List Parameter) :
    extend operation params (extensionsOf body) =
      extensionsOf (body ++ [.operation operation params]) := by
  have hnames : (body ++ [FeatureClause.operation operation params]).filterMap
      FeatureClause.operation? = body.filterMap FeatureClause.operation? ++ [operation] := by
    simp
  have hgiven : ∀ name, (body ++ [FeatureClause.operation operation params]).flatMap
      (FeatureClause.paramsFor name) =
        body.flatMap (FeatureClause.paramsFor name) ++ if operation = name then params else [] := by
    intro name
    simp
  rw [extensionsOf, extensionsOf, hnames, eraseDups_concat]
  simp only [hgiven]
  by_cases hmem : operation ∈ body.filterMap FeatureClause.operation?
  · rw [if_pos hmem]
    exact extend_of_mem (fun name => body.flatMap (FeatureClause.paramsFor name))
      (nodup_eraseDups _) (List.mem_eraseDups.2 hmem)
  · -- the operation is mentioned for the first time, and the others get nothing
    have hfresh : operation ∉ ((body.filterMap FeatureClause.operation?).eraseDups.map
        fun name => (⟨name, body.flatMap (FeatureClause.paramsFor name)⟩ : Extension)).map
          Extension.operation := by
      simpa [Function.comp_def, List.mem_eraseDups] using hmem
    have hothers : ∀ name ∈ (body.filterMap FeatureClause.operation?).eraseDups,
        ¬ operation = name := by
      rintro name hname rfl
      exact hmem (List.mem_eraseDups.1 hname)
    rw [if_neg hmem, extend_of_fresh hfresh, List.map_append, List.map_singleton,
      paramsFor_eq_nil_of_fresh hmem, if_pos rfl, List.nil_append]
    congr 1
    refine List.map_congr_left fun name hname => ?_
    rw [if_neg (hothers name hname), List.append_nil]

/-! ## Taking clauses in -/

theorem gathers_nil (name target : String) : Gathers { name, target } [] :=
  ⟨rfl, rfl, fun _ => Std.ExtTreeMap.getElem?_empty⟩

theorem lastSaid?_concat {α β : Type} (said : α → Option β) (clauses : List α) (clause : α) :
    lastSaid? said (clauses ++ [clause]) = (said clause).or (lastSaid? said clauses) := by
  cases hsaid : said clause <;> simp [lastSaid?, hsaid]

/-- One more clause is merged into what a feature has gathered. -/
theorem Gathers.apply {f : Feature} {body : List FeatureClause} (h : f.Gathers body)
    (clause : FeatureClause) : (f.apply clause).Gathers (body ++ [clause]) := by
  -- each kind of clause has its own rule and leaves what the other two have gathered
  cases clause with
  | description text =>
      refine ⟨?_, ?_, ?_⟩
      · simp [Feature.apply, h.description, List.findSome?_append]
      · simp [Feature.apply, h.extensions, extensionsOf, List.filterMap_cons]
      · intro constraint
        simp [Feature.apply, h.constraints, lastSaid?_concat]
  | operation name params =>
      refine ⟨?_, ?_, ?_⟩
      · simp [Feature.apply, h.description, List.findSome?_append]
      · simp [Feature.apply, h.extensions, extend_extensionsOf]
      · intro constraint
        simp [Feature.apply, h.constraints, lastSaid?_concat]
  | constraint name value =>
      refine ⟨?_, ?_, ?_⟩
      · simp [Feature.apply, h.description, List.findSome?_append]
      · simp [Feature.apply, h.extensions, extensionsOf, List.filterMap_cons]
      · intro constraint
        by_cases hname : name = constraint
        · simp [Feature.apply, lastSaid?_concat, hname]
        · simp [Feature.apply, lastSaid?_concat, hname, h.constraints,
            Std.ExtTreeMap.getElem?_insert]

theorem Gathers.foldl_apply {f : Feature} {earlier : List FeatureClause} (h : f.Gathers earlier)
    (body : List FeatureClause) : (body.foldl Feature.apply f).Gathers (earlier ++ body) := by
  induction body generalizing f earlier with
  | nil =>
      simpa using h
  | cons clause rest ih =>
      simpa using ih (h.apply clause)

/-- The feature that one declaration makes. -/
def ofBody (name target : String) (body : List FeatureClause) : Feature :=
  body.foldl Feature.apply { name, target }

theorem Gathers.nodup_operations {f : Feature} {body : List FeatureClause} (h : f.Gathers body) :
    (f.extensions.map Extension.operation).Nodup := by
  rw [h.extensions, extensionsOf, List.map_map]
  simpa [Function.comp_def] using nodup_eraseDups (body.filterMap FeatureClause.operation?)

theorem gathers_ofBody (name target : String) (body : List FeatureClause) :
    (ofBody name target body).Gathers body :=
  (gathers_nil name target).foldl_apply body

/-! ## Look-up -/

/-- What a feature gives to an operation is all that its body gives to it. -/
theorem Gathers.params_extension? {f : Feature} {body : List FeatureClause} (h : f.Gathers body)
    (operation : String) :
    ((f.extension? operation).map Extension.params).getD [] =
      body.flatMap (FeatureClause.paramsFor operation) := by
  rw [extension?, h.extensions, extensionsOf, List.find?_map]
  by_cases hmem : operation ∈ body.filterMap FeatureClause.operation?
  · have hfind : (body.filterMap FeatureClause.operation?).eraseDups.find?
        (fun name => name == operation) = some operation := by
      cases hfound : (body.filterMap FeatureClause.operation?).eraseDups.find?
          (fun name => name == operation) with
      | none =>
          simpa using List.find?_eq_none.1 hfound operation (List.mem_eraseDups.2 hmem)
      | some name =>
          simpa using List.find?_some hfound
    simp only [Function.comp_def, hfind, Option.map_some, Option.getD_some]
  · have hfind : (body.filterMap FeatureClause.operation?).eraseDups.find?
        (fun name => name == operation) = none := by
      rw [List.find?_eq_none]
      intro name hname heq
      exact hmem (by simpa [← beq_iff_eq.1 heq] using List.mem_eraseDups.1 hname)
    simp only [Function.comp_def, hfind, Option.map_none, Option.getD_none,
      paramsFor_eq_nil_of_fresh hmem]

end Feature
end ResourceRouting
