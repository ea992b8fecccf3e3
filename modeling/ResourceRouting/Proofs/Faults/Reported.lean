import ResourceRouting.Proofs.Faults.Recorded

/-!
# Reported — which fault of a declaration is reported

Building goes through the declarations in an order of its own: the application first, then the
collections in preorder, and in each the collection before its operations. It reports the first
fault that it comes past. Two offences about one declaration are therefore reported in the order in
which they were made, but an offence of the application is reported before any offence within a
collection, however late it was made.

* `CollectionDecl.compile_eq_checked`: compiling is a walk past checkpoints.
* `Api.build_reports`: what is reported, told from the clauses and their offences.
-/

namespace ResourceRouting

variable {σ : Type}

/-! ## Checkpoints -/

/-- The fault of a path that repeats a placeholder. -/
def Path.repeatedPlaceholder? (path : String) : Option Fault :=
  (repeatedParam? path).map (.repeatedPlaceholder path)

/-- What compiling looks at when it comes past a declaration: the faults that were recorded there,
and then a path. -/
structure Checkpoint where
  site : Site
  faults : List Fault
  path : String

/-- What is found at a checkpoint: its first fault, or else that of its path. -/
def Checkpoint.fault? (c : Checkpoint) : Option Fault :=
  c.faults.head?.or (Path.repeatedPlaceholder? c.path)

theorem Checkpoint.fault?_eq_none_iff {c : Checkpoint} :
    c.fault? = none ↔ c.faults = [] ∧ (Path.params c.path).Nodup := by
  rw [Checkpoint.fault?, Path.repeatedPlaceholder?, Option.or_eq_none_iff, List.head?_eq_none_iff,
    Option.map_eq_none_iff, Path.repeatedParam?_eq_none_iff]

namespace OperationDecl

/-- The checkpoint of an operation of a collection with the given lineage. -/
def checkpoint (lineage : List String) (owner : OperationOwner) (d : OperationDecl σ) :
    Checkpoint :=
  ⟨.operation lineage d.name, d.faults, d.relative owner⟩

theorem compile_eq_checked (lineage : List String) (owner : OperationOwner) (hooks : Hooks σ)
    (d : OperationDecl σ) :
    d.compile owner hooks =
      checked (d.checkpoint lineage owner).fault? (d.settled owner hooks) := by
  unfold compile Checkpoint.fault? checkpoint Path.repeatedPlaceholder?
  cases d.faults with
  | cons fault rest => rfl
  | nil => cases Path.repeatedParam? (d.relative owner) <;> rfl

end OperationDecl

namespace CollectionHead

variable (ctx : CompileContext σ) (parent? : Option (CollectionNode σ)) (h : CollectionHead σ)

/-- The checkpoint of the collection itself. -/
def checkpoint : Checkpoint :=
  ⟨.collection (h.settled ctx parent?).lineage, h.faults, h.relative parent?⟩

/-- The checkpoint of the collection, and those of its operations. -/
def checkpoints : List Checkpoint :=
  h.checkpoint ctx parent? :: h.operations.map
    (OperationDecl.checkpoint (h.settled ctx parent?).lineage (h.owner ctx parent?))

theorem compile_eq_checked :
    h.compile ctx parent? = checked ((h.checkpoints ctx parent?).findSome? Checkpoint.fault?)
      (h.settled ctx parent?) := by
  have hoperations := mapM_eq_checked (OperationDecl.compile_eq_checked
    (h.settled ctx parent?).lineage (h.owner ctx parent?) ctx.hooks) h.operations
  have hnode : (do
      let operations ← h.operations.mapM (OperationDecl.compile (h.owner ctx parent?) ctx.hooks)
      return h.node ctx parent? operations) =
        checked ((h.operations.map (OperationDecl.checkpoint (h.settled ctx parent?).lineage
          (h.owner ctx parent?))).findSome? Checkpoint.fault?) (h.settled ctx parent?) := by
    rw [hoperations, checked_bind_pure, List.findSome?_map]
    rfl
  rw [checkpoints, List.findSome?_cons]
  unfold compile Checkpoint.fault? checkpoint Path.repeatedPlaceholder? at *
  cases h.faults with
  | cons fault rest => rfl
  | nil =>
      cases Path.repeatedParam? (h.relative parent?) with
      | some name => rfl
      | none => exact hnode

end CollectionHead

namespace CollectionDecl

mutual

/-- The checkpoints of a collection and of all below it. -/
def checkpoints (ctx : CompileContext σ) (parent? : Option (CollectionNode σ)) :
    CollectionDecl σ → List Checkpoint
  | ⟨head, children⟩ =>
      head.checkpoints ctx parent? ++ checkpointsAll ctx (some (head.settled ctx parent?)) children

def checkpointsAll (ctx : CompileContext σ) (parent? : Option (CollectionNode σ)) :
    List (CollectionDecl σ) → List Checkpoint
  | [] => []
  | d :: rest => checkpoints ctx parent? d ++ checkpointsAll ctx parent? rest

end

variable (ctx : CompileContext σ)

-- by the tree; each collection is checked before those below it, under the node it settles to
mutual

theorem compile_eq_checked : ∀ (d : CollectionDecl σ) (parent? : Option (CollectionNode σ)),
    d.compile ctx parent? = checked ((d.checkpoints ctx parent?).findSome? Checkpoint.fault?)
      (d.settled ctx parent?)
  | ⟨head, children⟩, parent? => by
      have hchildren := compileAll_eq_checked children (some (head.settled ctx parent?))
      have hbelow : (do
          let cs ← compileAll ctx (some (head.settled ctx parent?)) children
          return (⟨head.settled ctx parent?, cs⟩ : Collection σ)) =
            checked ((checkpointsAll ctx (some (head.settled ctx parent?)) children).findSome?
              Checkpoint.fault?) (settled ctx parent? ⟨head, children⟩) := by
        rw [hchildren, checked_bind_pure, settled]
      rw [compile, head.compile_eq_checked ctx parent?, checkpoints, List.findSome?_append]
      exact checked_bind hbelow

theorem compileAll_eq_checked : ∀ (ds : List (CollectionDecl σ))
    (parent? : Option (CollectionNode σ)),
      compileAll ctx parent? ds =
        checked ((checkpointsAll ctx parent? ds).findSome? Checkpoint.fault?)
          (settledAll ctx parent? ds)
  | [], _ => rfl
  | d :: rest, parent? => by
      have hrest := compileAll_eq_checked rest parent?
      have hafter : (do
          let cs ← compileAll ctx parent? rest
          return d.settled ctx parent? :: cs) =
            checked ((checkpointsAll ctx parent? rest).findSome? Checkpoint.fault?)
              (settledAll ctx parent? (d :: rest)) := by
        rw [hrest, checked_bind_pure, settledAll]
      rw [compileAll, compile_eq_checked d parent?, checkpointsAll, List.findSome?_append]
      exact checked_bind hafter

end

/-! ## What is checked -/

-- by the tree; the lineage so far is that of the node under which the collections are compiled
mutual

/-- What was recorded in a collection is what its checkpoints look at. -/
theorem recorded_eq_checkpoints : ∀ (d : CollectionDecl σ) (parent? : Option (CollectionNode σ)),
    d.recorded ((parent?.map CollectionNode.lineage).getD []) =
      (d.checkpoints ctx parent?).flatMap fun c => about c.site c.faults
  | ⟨head, children⟩, parent? => by
      have hchildren := recordedAll_eq_checkpoints children (some (head.settled ctx parent?))
      rw [Option.map_some, Option.getD_some] at hchildren
      rw [recorded, checkpoints, List.flatMap_append, ← hchildren, CollectionHead.checkpoints,
        List.flatMap_cons, List.flatMap_map]
      rfl

theorem recordedAll_eq_checkpoints : ∀ (ds : List (CollectionDecl σ))
    (parent? : Option (CollectionNode σ)),
      recordedAll ((parent?.map CollectionNode.lineage).getD []) ds =
        (checkpointsAll ctx parent? ds).flatMap fun c => about c.site c.faults
  | [], _ => rfl
  | d :: rest, parent? => by
      rw [recordedAll, checkpointsAll, List.flatMap_append, recorded_eq_checkpoints d,
        recordedAll_eq_checkpoints rest]

end

end CollectionDecl

/-- The path of a resource relative to the root. -/
def Resource.relative : Resource σ → String
  | collection c => c.node.relative
  | operation c o => o.relative c.node

namespace CollectionDecl

variable (ctx : CompileContext σ)

theorem map_checkpoints_head (head : CollectionHead σ) (children : List (Collection σ))
    (parent? : Option (CollectionNode σ)) :
    (head.checkpoints ctx parent?).map (fun c => (c.site, c.path)) =
      (Collection.ownResources ⟨head.settled ctx parent?, children⟩).map fun x =>
        (x.site, x.relative) := by
  have hoperations : (head.settled ctx parent?).operations =
      head.operations.map (OperationDecl.settled (head.owner ctx parent?) ctx.hooks) := rfl
  rw [CollectionHead.checkpoints, Collection.ownResources, List.map_cons, List.map_cons,
    hoperations, List.map_map, List.map_map, List.map_map]
  refine congrArg₂ List.cons rfl (List.map_congr_left fun o _ => ?_)
  simp only [Function.comp_apply, OperationDecl.checkpoint, Resource.site, Resource.relative,
    CollectionHead.relative_settled]
  rfl

mutual

/-- Checkpoints are passed in the order of the resources that are compiled. -/
theorem map_checkpoints : ∀ (d : CollectionDecl σ) (parent? : Option (CollectionNode σ)),
    (d.checkpoints ctx parent?).map (fun c => (c.site, c.path)) =
      ((d.settled ctx parent?).walk.flatMap Collection.ownResources).map fun x =>
        (x.site, x.relative)
  | ⟨head, children⟩, parent? => by
      rw [checkpoints, settled, Collection.walk_mk, List.flatMap_cons, List.map_append,
        List.map_append, map_checkpoints_head, map_checkpointsAll children]

theorem map_checkpointsAll : ∀ (ds : List (CollectionDecl σ))
    (parent? : Option (CollectionNode σ)),
      (checkpointsAll ctx parent? ds).map (fun c => (c.site, c.path)) =
        ((Collection.walkAll (settledAll ctx parent? ds)).flatMap Collection.ownResources).map
          fun x => (x.site, x.relative)
  | [], _ => rfl
  | d :: rest, parent? => by
      rw [checkpointsAll, settledAll, Collection.walkAll_cons, List.flatMap_append,
        List.map_append, List.map_append, map_checkpoints d, map_checkpointsAll rest]

end

end CollectionDecl

/-- Where no two checkpoints are about one declaration, each has all faults that are about its
own. -/
theorem faultsAt_of_mem_checkpoints {cs : List Checkpoint}
    (hsites : (cs.map Checkpoint.site).Nodup) :
    ∀ c ∈ cs, faultsAt c.site (cs.flatMap fun c => about c.site c.faults) = c.faults := by
  induction cs with
  | nil =>
      simp
  | cons c rest ih =>
      rw [List.map_cons, List.nodup_cons] at hsites
      rw [List.forall_mem_cons, List.flatMap_cons]
      refine ⟨?_, fun e he => ?_⟩
      · have hrest : ∀ x ∈ rest.flatMap (fun e => about e.site e.faults), x.1 ≠ c.site := by
          intro x hx hsame
          rcases List.mem_flatMap.1 hx with ⟨e, he, habout⟩
          rw [fst_of_mem_about habout] at hsame
          exact hsites.1 (List.mem_map.2 ⟨e, he, hsame⟩)
        rw [faultsAt_append, faultsAt_about, faultsAt_eq_nil hrest, List.append_nil]
      · have hne : c.site ≠ e.site := by
          intro hsame
          exact hsites.1 (List.mem_map.2 ⟨e, he, hsame.symm⟩)
        rw [faultsAt_append, faultsAt_about_of_ne hne, List.nil_append, ih hsites.2 e he]

/-! ## Applications -/

/-- What compiling looks at when it comes past a resource, read off a log: the faults that are about
it, in the order in which they were logged. -/
def Resource.checkpoint (log : List (Site × Fault)) (x : Resource σ) : Checkpoint :=
  ⟨x.site, faultsAt x.site log, x.relative⟩

namespace ApiDecl

variable (d : ApiDecl σ)

def checkpoints : List Checkpoint := CollectionDecl.checkpointsAll d.context none d.collections

theorem recorded_eq_checkpoints :
    d.recorded = about .application d.faults ++
      d.checkpoints.flatMap fun c => about c.site c.faults := by
  rw [recorded, checkpoints, ← CollectionDecl.recordedAll_eq_checkpoints]
  rfl

theorem map_checkpoints :
    d.checkpoints.map (fun c => (c.site, c.path)) =
      (Collection.resources d.tree).map fun x => (x.site, x.relative) :=
  CollectionDecl.map_checkpointsAll d.context d.collections none

theorem compile_eq_checked :
    d.compile = checked (d.faults.head?.or (d.checkpoints.findSome? Checkpoint.fault?)) d.tree >>=
      fun collections => d.assembled collections <$> Table.ofCollections d.name d.routing
        collections := by
  have htree := CollectionDecl.compileAll_eq_checked d.context d.collections none
  unfold compile
  rw [htree]
  cases d.faults with
  | cons fault rest => rfl
  | nil =>
      rw [List.head?_nil, Option.none_or, checkpoints, tree]
      rfl

section Logged

variable {d : ApiDecl σ} (hapart : d.NamesApart) {log : List (Site × Fault)}
  (hlog : ∀ site, faultsAt site d.recorded = faultsAt site log)
include hlog

theorem faults_eq_faultsAt : d.faults = faultsAt .application log := by
  have hbelow : ∀ e ∈ CollectionDecl.recordedAll [] d.collections, e.1 ≠ .application :=
    CollectionDecl.ne_of_mem_recordedAll (Nat.le_refl _)
  rw [← hlog, recorded, faultsAt_append, faultsAt_about, faultsAt_eq_nil hbelow, List.append_nil]

include hapart

/-- Whatever log has for every declaration the faults that were recorded there tells what compiling
looks at. -/
theorem checkpoints_eq :
    d.checkpoints = (Collection.resources d.tree).map (Resource.checkpoint log) := by
  have hsites : d.checkpoints.map Checkpoint.site =
      (Collection.resources d.tree).map Resource.site := by
    simpa [Function.comp_def] using congrArg (List.map Prod.fst) d.map_checkpoints
  have hnodup : (d.checkpoints.map Checkpoint.site).Nodup := by
    rw [hsites]
    exact hapart.grown.nodup_sites
  have hfaults : ∀ c ∈ d.checkpoints, c.faults = faultsAt c.site log := by
    intro c hc
    have hresource : c.site ∈ (Collection.resources d.tree).map Resource.site := by
      rw [← hsites]
      exact List.mem_map_of_mem hc
    have hsite : Site.application ≠ c.site := by
      rcases List.mem_map.1 hresource with ⟨x, -, hx⟩
      rw [← hx]
      cases x <;> exact Site.noConfusion
    rw [← hlog, recorded_eq_checkpoints, faultsAt_append, faultsAt_about_of_ne hsite,
      List.nil_append, faultsAt_of_mem_checkpoints hnodup c hc]
  calc
    d.checkpoints = d.checkpoints.map id := (List.map_id _).symm
    _ = d.checkpoints.map fun c => ⟨c.site, faultsAt c.site log, c.path⟩ :=
        List.map_congr_left fun c hc => by rw [← hfaults c hc]; rfl
    _ = (d.checkpoints.map fun c => (c.site, c.path)).map fun p =>
          ⟨p.1, faultsAt p.1 log, p.2⟩ := by rw [List.map_map]; rfl
    _ = (Collection.resources d.tree).map (Resource.checkpoint log) := by
        rw [d.map_checkpoints, List.map_map]
        rfl

end Logged

end ApiDecl

/-- What building reports of clauses before it binds routes: the first offence of the application,
or else the first fault on the way through its resources. -/
def ApiClause.reported? (name : String) (clauses : List (ApiClause σ)) : Option Fault :=
  (faultsAt .application (offencesAll name clauses)).head?.or
    ((Collection.resources (ApiDecl.ofClauses name clauses).tree).findSome? fun x =>
      (x.checkpoint (offencesAll name clauses)).fault?)

namespace Api

theorem build_eq_checked (name : String) (clauses : List (ApiClause σ)) :
    build name clauses =
      checked (ApiClause.reported? name clauses) (ApiDecl.ofClauses name clauses).tree >>=
        fun collections => (ApiDecl.ofClauses name clauses).assembled collections <$>
          Table.ofCollections name (ApiDecl.ofClauses name clauses).routing collections := by
  have hlog := ApiDecl.faultsAt_recorded_ofClauses name clauses
  have hname : (ApiDecl.ofClauses name clauses).name = name := ApiDecl.name_foldl_apply clauses _
  rw [build, ApiDecl.compile_eq_checked, ApiDecl.faults_eq_faultsAt hlog,
    ApiDecl.checkpoints_eq (ApiDecl.namesApart_ofClauses name clauses) hlog, List.findSome?_map,
    hname]
  rfl

/-- Every offence is about the application or about a resource that building comes past. -/
theorem site_of_mem_offencesAll {name : String} {clauses : List (ApiClause σ)}
    {e : Site × Fault} (he : e ∈ ApiClause.offencesAll name clauses) :
    e.1 = .application ∨
      ∃ x ∈ Collection.resources (ApiDecl.ofClauses name clauses).tree, x.site = e.1 := by
  have hmem : e.2 ∈ faultsAt e.1 (ApiDecl.ofClauses name clauses).recorded := by
    rw [ApiDecl.faultsAt_recorded_ofClauses]
    exact mem_faultsAt_iff.2 he
  rw [mem_faultsAt_iff, ApiDecl.recorded_eq_checkpoints, List.mem_append] at hmem
  rcases hmem with happlication | hbelow
  · exact Or.inl (fst_of_mem_about happlication)
  · rcases List.mem_flatMap.1 hbelow with ⟨c, hc, habout⟩
    rw [ApiDecl.checkpoints_eq (ApiDecl.namesApart_ofClauses name clauses)
      (ApiDecl.faultsAt_recorded_ofClauses name clauses)] at hc
    rcases List.mem_map.1 hc with ⟨x, hx, rfl⟩
    exact Or.inr ⟨x, hx, (fst_of_mem_about habout).symm⟩

/-- Nothing is reported only where no clause offends. -/
theorem offencesAll_eq_nil_of_reported? {name : String} {clauses : List (ApiClause σ)}
    (h : ApiClause.reported? name clauses = none) : ApiClause.offencesAll name clauses = [] := by
  rw [ApiClause.reported?, Option.or_eq_none_iff, List.head?_eq_none_iff,
    List.findSome?_eq_none_iff] at h
  rw [List.eq_nil_iff_forall_not_mem]
  intro e he
  have hnil : faultsAt e.1 (ApiClause.offencesAll name clauses) = [] := by
    rcases site_of_mem_offencesAll he with happlication | ⟨x, hx, hsite⟩
    · rw [happlication]
      exact h.1
    · rw [← hsite]
      exact (Checkpoint.fault?_eq_none_iff.1 (h.2 x hx)).1
  exact List.not_mem_nil (hnil ▸ mem_faultsAt_iff.2 he)

/-- Offences that are all about one declaration are reported in the order in which they are made. -/
theorem reported?_of_one_site {name : String} {clauses : List (ApiClause σ)} {first : Site × Fault}
    {rest : List (Site × Fault)} (hlog : ApiClause.offencesAll name clauses = first :: rest)
    (hrest : ∀ other ∈ rest, other.1 = first.1)
    (hpaths : ∀ x ∈ Collection.resources (ApiDecl.ofClauses name clauses).tree,
      (Path.params x.relative).Nodup) :
    ApiClause.reported? name clauses = some first.2 := by
  -- whatever is reported comes first among the offences of its site, and all have this site
  have hfirst : ∀ site fault, (faultsAt site (first :: rest)).head? = some fault →
      fault = first.2 := by
    intro site fault hhead
    have hsite : first.1 = site := by
      rcases List.mem_cons.1 (mem_faultsAt_iff.1 (List.mem_of_head? hhead)) with hsame | hother
      · exact (congrArg Prod.fst hsame).symm
      · exact (hrest _ hother).symm
    simpa [faultsAt, List.filterMap_cons, hsite, eq_comm] using hhead
  cases hreported : ApiClause.reported? name clauses with
  | none =>
      rw [offencesAll_eq_nil_of_reported? hreported] at hlog
      cases hlog
  | some fault =>
      rw [ApiClause.reported?, hlog, Option.or_eq_some_iff] at hreported
      rcases hreported with happlication | ⟨-, hresources⟩
      · rw [hfirst _ _ happlication]
      · rcases List.exists_of_findSome?_eq_some hresources with ⟨x, hx, hfault⟩
        have hpath : Path.repeatedPlaceholder? x.relative = none := by
          rw [Path.repeatedPlaceholder?, Option.map_eq_none_iff, Path.repeatedParam?_eq_none_iff]
          exact hpaths x hx
        have hhead : (faultsAt x.site (first :: rest)).head? = some fault := by
          simpa [Checkpoint.fault?, Resource.checkpoint, hpath] using hfault
        rw [hfirst _ _ hhead]

/-- What building reports of clauses that offend, which are those that are not well declared. If the
application itself offends, this is the first of its offences; otherwise it is the first that is
found on the way through the resources, where each is asked for the first offence about it and then
for a repeated placeholder. No offence goes unreported, and routes are bound only where there is
none. Offences about one declaration are reported in the order in which they are made, and those
about several in the order of the resources. -/
theorem build_reports (name : String) (clauses : List (ApiClause σ)) :
    (ApiClause.offencesAll name clauses = [] ↔ ApiDecl.WellDeclared clauses) ∧
    (∀ fault, ApiClause.reported? name clauses = some fault →
      build name clauses = .error fault) ∧
    (ApiClause.reported? name clauses = none →
      ApiClause.offencesAll name clauses = [] ∧
        build name clauses =
          (ApiDecl.ofClauses name clauses).assembled (ApiDecl.ofClauses name clauses).tree <$>
            Table.ofCollections name (ApiDecl.ofClauses name clauses).routing
              (ApiDecl.ofClauses name clauses).tree) ∧
    ∀ first rest, ApiClause.offencesAll name clauses = first :: rest →
      (∀ other ∈ rest, other.1 = first.1) →
      (∀ x ∈ Collection.resources (ApiDecl.ofClauses name clauses).tree,
        (Path.params x.relative).Nodup) →
      build name clauses = .error first.2 := by
  have hreports : ∀ fault, ApiClause.reported? name clauses = some fault →
      build name clauses = .error fault := by
    intro fault h
    rw [build_eq_checked, h]
    rfl
  refine ⟨ApiDecl.offencesAll_eq_nil_iff, hreports,
    fun h => ⟨offencesAll_eq_nil_of_reported? h, ?_⟩, ?_⟩
  · rw [build_eq_checked, h]
    rfl
  · intro first rest hlog hrest hpaths
    exact hreports _ (reported?_of_one_site hlog hrest hpaths)

/-- Pages that have a body of their own, and after it two operations of one name. -/
def strayBeforeRepeated : List (ApiClause Unit) :=
  [.collection "pages" [.control, .operation "show" [], .operation "show" []]]

theorem build_reports_strayBeforeRepeated :
    ApiClause.offencesAll "site" strayBeforeRepeated =
        [(.collection ["pages"], .strayControl "pages"),
          (.collection ["pages"], .repeatedOperation "pages" "show")] ∧
      build "site" strayBeforeRepeated = .error (.strayControl "pages") := by
  have hlog : ApiClause.offencesAll "site" strayBeforeRepeated =
      [(.collection ["pages"], .strayControl "pages"),
        (.collection ["pages"], .repeatedOperation "pages" "show")] := by decide +kernel
  rcases build_reports "site" strayBeforeRepeated with ⟨-, -, -, hone⟩
  exact ⟨hlog, hone _ _ hlog (by decide +kernel) (by decide +kernel)⟩

/-- Pages that have a body of their own, and after them a feature without a target. -/
def strayBeforeFeature : List (ApiClause Unit) :=
  [.collection "pages" [.control], .feature "archive" "" []]

/-- The feature is reported, and not the body that was given before it. -/
theorem build_strayBeforeFeature :
    ApiClause.offencesAll "site" strayBeforeFeature =
        [(.collection ["pages"], .strayControl "pages"),
          (.application, .untargetedFeature "archive")] ∧
      build "site" strayBeforeFeature = .error (.untargetedFeature "archive") := by
  refine ⟨by decide +kernel, ?_⟩
  rw [← failure?_eq_some_iff]
  decide +kernel

end Api
end ResourceRouting
