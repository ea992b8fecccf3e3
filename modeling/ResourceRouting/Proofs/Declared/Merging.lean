import ResourceRouting.Proofs.Declared.Bodies
import ResourceRouting.Proofs.Declared.Features

/-!
# Merging — what a run of feature declarations leaves in a registry

Declarations of one name are merged, and declarations of several names may alternate. A registry is
changed in place: `FeatureRegistry.declaring` looks the name up, makes room for a new feature, and
then hands the feature to the body. `FeatureRegistry.merged` reads off a sequence of calls the one
declaration that the calls of a name amount to.

* `FeatureRegistry.answer_eq`: a refused call leaves the registry as it was.
* `FeatureRegistry.Records.declare`: what one accepted call changes.
* `FeatureRegistry.registry_of_calls`: what every run of calls leaves behind.
-/

namespace ResourceRouting

/-- A call that declares a feature: its name, its target and its body. -/
abbrev FeatureCall := String × String × List FeatureClause

namespace FeatureRegistry

/-! ## Calls on a registry that is changed in place -/

/-- Where a registry that is changed in place has the feature of a name, which is put at the end if
it is new. -/
def placing (name target : String) : ExceptT Fault (StateM FeatureRegistry) Nat := do
  let r ← get
  match r.features.zipIdx.find? fun entry => entry.1.name == name with
  | some (f, place) =>
      if target.isEmpty || f.target = target then return place
      else throw (.retargetedFeature name f.target target)
  | none =>
      if Text.isBlankText target then throw (.untargetedFeature name)
      else do
        set (⟨r.features ++ [({ name, target } : Feature)]⟩ : FeatureRegistry)
        return r.features.length

/-- A declaration in a registry that is changed in place. -/
def declaring (call : FeatureCall) : ExceptT Fault (StateM FeatureRegistry) Unit := do
  let place ← placing call.1 call.2.1
  modifyThe FeatureRegistry fun r =>
    ⟨r.features.modify place (call.2.2.foldl Feature.apply)⟩

/-- What a call answers, and the registry after it. -/
def answer (r : FeatureRegistry) (call : FeatureCall) : Except Fault Unit × FeatureRegistry :=
  (declaring call).run.run r

/-- The registry after a run of calls, from an empty one. -/
def after (calls : List FeatureCall) : FeatureRegistry :=
  calls.foldl (fun r call => (r.answer call).2) {}

def names (r : FeatureRegistry) : List String := r.features.map Feature.name

theorem find?_zipIdx_append {before : List Feature} {f : Feature} {rest : List Feature}
    {name : String} (hbefore : ∀ g ∈ before, g.name ≠ name) (hf : f.name = name) :
    (before ++ f :: rest).zipIdx.find? (fun entry => entry.1.name == name) =
      some (f, before.length) := by
  have hnone : before.zipIdx.find? (fun entry => entry.1.name == name) = none := by
    rw [List.find?_eq_none]
    rintro ⟨g, i⟩ hmem
    simpa using hbefore g (List.fst_mem_of_mem_zipIdx hmem)
  simp [List.zipIdx_append, List.find?_append, hnone, List.zipIdx_cons, hf]

theorem modify_length_append (before : List Feature) (f : Feature) (rest : List Feature)
    (change : Feature → Feature) :
    (before ++ f :: rest).modify before.length change = before ++ change f :: rest := by
  simp [List.modify_eq_take_cons_drop]

/-- Of features with distinct names, the one of a name is changed and no other. -/
theorem modify_of_split {r : FeatureRegistry} {before : List Feature} {f : Feature}
    {rest : List Feature} (hsplit : r.features = before ++ f :: rest) (hnodup : r.names.Nodup)
    (change : Feature → Feature) :
    r.modify f.name change = ⟨before ++ change f :: rest⟩ := by
  simp only [names, hsplit, List.map_append, List.map_cons, List.nodup_append,
    List.nodup_cons] at hnodup
  rcases hnodup with ⟨-, ⟨hrest, -⟩, hapart⟩
  -- on both sides of the feature all names are others
  have hbefore : ∀ g ∈ before, ¬ g.name = f.name := fun g hg =>
    hapart g.name (List.mem_map_of_mem hg) f.name List.mem_cons_self
  have hafter : ∀ g ∈ rest, ¬ g.name = f.name := fun g hg heq =>
    hrest (heq ▸ List.mem_map_of_mem hg)
  have hkept : ∀ l : List Feature, (∀ g ∈ l, ¬ g.name = f.name) →
      l.map (fun g => if g.name = f.name then change g else g) = l := by
    intro l hl
    exact (List.map_congr_left fun g hg => if_neg (hl g hg)).trans (List.map_id' l)
  simp [modify, hsplit, hkept before hbefore, hkept rest hafter]

theorem placing_run (r : FeatureRegistry) (name target : String) :
    (placing name target).run.run r =
      match r.features.zipIdx.find? fun entry => entry.1.name == name with
      | some (f, place) =>
          if target.isEmpty || f.target = target then (.ok place, r)
          else (.error (.retargetedFeature name f.target target), r)
      | none =>
          if Text.isBlankText target then (.error (.untargetedFeature name), r)
          else (.ok r.features.length, ⟨r.features ++ [({ name, target } : Feature)]⟩) := by
  have hlooks : (placing name target).run.run r =
      (match r.features.zipIdx.find? fun entry => entry.1.name == name with
        | some (f, place) =>
            if target.isEmpty || f.target = target then return place
            else throw (.retargetedFeature name f.target target)
        | none =>
            if Text.isBlankText target then throw (.untargetedFeature name)
            else do
              set (⟨r.features ++ [({ name, target } : Feature)]⟩ : FeatureRegistry)
              return r.features.length :
          ExceptT Fault (StateM FeatureRegistry) Nat).run.run r :=
    rfl
  rw [hlooks]
  split <;> split <;> rfl

theorem answer_of_placing (r : FeatureRegistry) (call : FeatureCall) :
    r.answer call =
      match (placing call.1 call.2.1).run.run r with
      | (.ok place, grown) =>
          (.ok (), ⟨grown.features.modify place (call.2.2.foldl Feature.apply)⟩)
      | (.error fault, kept) => (.error fault, kept) := by
  simp only [answer, declaring, ExceptT.run_bind, StateT.run_bind]
  rcases (placing call.1 call.2.1).run.run r with ⟨place | fault, grown⟩
  · rfl
  · rfl

/-- Changed in place or not, a registry answers alike, and a refused call leaves it as it was. -/
theorem answer_eq {r : FeatureRegistry} (hnodup : r.names.Nodup) (call : FeatureCall) :
    r.answer call =
      match r.declare call.1 call.2.1 call.2.2 with
      | .ok declared => (.ok (), declared)
      | .error fault => (.error fault, r) := by
  rcases call with ⟨name, target, body⟩
  rw [answer_of_placing, placing_run]
  unfold declare
  cases hget : r.get? name with
  | some f =>
      rcases List.find?_eq_some_iff_append.1 hget with ⟨hname, before, rest, hsplit, hbefore⟩
      have hsame : f.name = name := beq_iff_eq.1 hname
      have hfind : r.features.zipIdx.find? (fun entry => entry.1.name == name) =
          some (f, before.length) := by
        rw [hsplit]
        exact find?_zipIdx_append (fun g hg => by simpa using hbefore g hg) hsame
      -- the feature at the place that was found is the only one of its name
      have hchange : r.modify name (body.foldl Feature.apply) =
          ⟨r.features.modify before.length (body.foldl Feature.apply)⟩ := by
        rw [← hsame, modify_of_split hsplit hnodup, hsplit, modify_length_append]
      by_cases haccepted : (target.isEmpty || decide (f.target = target)) = true
      · simp [hfind, haccepted, hchange]
      · simp [hfind, haccepted]
  | none =>
      have hfind : r.features.zipIdx.find? (fun entry => entry.1.name == name) = none := by
        rw [List.find?_eq_none]
        rintro ⟨g, i⟩ hmem
        exact List.find?_eq_none.1 hget g (List.fst_mem_of_mem_zipIdx hmem)
      cases Text.isBlankText target with
      | true =>
          simp [hfind]
      | false =>
          simp [hfind, modify_length_append]

/-! ## What the calls of a name amount to -/

/-- The calls of a run that the registry accepts. -/
def acceptedBy (r : FeatureRegistry) : List FeatureCall → List FeatureCall
  | [] => []
  | call :: rest =>
      if (r.answer call).1.isOk then call :: (r.answer call).2.acceptedBy rest
      else (r.answer call).2.acceptedBy rest

/-- The target of the first call of a name. -/
def targetOf? (calls : List FeatureCall) (name : String) : Option String :=
  (calls.lookup name).map Prod.fst

/-- The bodies of the calls of a name, one after the other. -/
def bodyOf (calls : List FeatureCall) (name : String) : List FeatureClause :=
  calls.flatMap fun call => if call.1 = name then call.2.2 else []

/-- The names that calls declare, in the order of the first call of each. -/
def namesOf (calls : List FeatureCall) : List String := (calls.map Prod.fst).eraseDups

/-- The calls with one for each name, which has all clauses of that name. -/
def merged (calls : List FeatureCall) : List FeatureCall :=
  (namesOf calls).map fun name => (name, (targetOf? calls name).getD "", bodyOf calls name)

/-- The feature that one call makes. -/
def made (call : FeatureCall) : Feature := Feature.ofBody call.1 call.2.1 call.2.2

theorem name_made (call : FeatureCall) : (made call).name = call.1 :=
  name_foldl_apply { name := call.1, target := call.2.1 } call.2.2

theorem target_made (call : FeatureCall) : (made call).target = call.2.1 :=
  target_foldl_apply { name := call.1, target := call.2.1 } call.2.2

theorem mem_namesOf_iff {calls : List FeatureCall} {name : String} :
    name ∈ namesOf calls ↔ name ∈ calls.map Prod.fst :=
  List.mem_eraseDups

theorem map_fst_merged (calls : List FeatureCall) :
    (merged calls).map Prod.fst = namesOf calls := by
  simp [merged, Function.comp_def]

theorem isSome_targetOf?_iff {calls : List FeatureCall} {name : String} :
    (targetOf? calls name).isSome ↔ name ∈ namesOf calls := by
  simp [targetOf?, mem_namesOf_iff, List.lookup_isSome_iff]

theorem targetOf?_append_of_mem {calls : List FeatureCall} {name : String}
    (h : name ∈ namesOf calls) (later : List FeatureCall) :
    targetOf? (calls ++ later) name = targetOf? calls name := by
  rcases Option.isSome_iff_exists.1 (isSome_targetOf?_iff.2 h) with ⟨target, htarget⟩
  rcases Option.map_eq_some_iff.1 htarget with ⟨first, hfirst, -⟩
  simp [targetOf?, List.lookup_append, hfirst]

/-- A later call of a name adds to the body and leaves the target. -/
theorem merged_concat_of_mem {calls : List FeatureCall} {call : FeatureCall}
    (h : call.1 ∈ namesOf calls) :
    merged (calls ++ [call]) = (merged calls).map fun c =>
      (c.1, c.2.1, c.2.2 ++ if call.1 = c.1 then call.2.2 else []) := by
  have hnames : namesOf (calls ++ [call]) = namesOf calls := by
    simp only [namesOf, List.map_append, List.map_singleton, eraseDups_concat,
      if_pos (mem_namesOf_iff.1 h)]
  rw [merged, merged, hnames, List.map_map]
  refine List.map_congr_left fun name hname => ?_
  simp [targetOf?_append_of_mem hname, bodyOf]

/-- The first call of a name comes after the others. -/
theorem merged_concat_of_fresh {calls : List FeatureCall} {call : FeatureCall}
    (h : call.1 ∉ namesOf calls) : merged (calls ++ [call]) = merged calls ++ [call] := by
  rcases call with ⟨name, target, body⟩
  have hfresh : name ∉ calls.map Prod.fst := fun hmem => h (mem_namesOf_iff.2 hmem)
  have hnames : namesOf (calls ++ [(name, target, body)]) = namesOf calls ++ [name] := by
    simp only [namesOf, List.map_append, List.map_singleton, eraseDups_concat, if_neg hfresh]
  have hothers : ∀ other ∈ namesOf calls, ¬ name = other := by
    rintro other hother rfl
    exact h hother
  have hkept : (namesOf calls).map (fun other =>
      ((other, (targetOf? (calls ++ [(name, target, body)]) other).getD "",
        bodyOf (calls ++ [(name, target, body)]) other) : FeatureCall)) = merged calls := by
    refine List.map_congr_left fun other hother => ?_
    simp [targetOf?_append_of_mem hother, bodyOf, hothers other hother]
  -- no call before says anything under the name
  have htarget : targetOf? (calls ++ [(name, target, body)]) name = some target := by
    have hnone : calls.lookup name = none :=
      Option.not_isSome_iff_eq_none.1 fun hsome =>
        hfresh (by simpa [List.lookup_isSome_iff] using hsome)
    simp [targetOf?, List.lookup_append, hnone]
  have hbody : bodyOf (calls ++ [(name, target, body)]) name = body := by
    have hnone : bodyOf calls name = [] := by
      refine List.flatMap_eq_nil_iff.2 fun other hother => if_neg ?_
      rintro rfl
      exact hfresh (List.mem_map_of_mem hother)
    calc bodyOf (calls ++ [(name, target, body)]) name
        = bodyOf calls name ++ body := by simp [bodyOf]
      _ = body := by simp [hnone]
  rw [merged, hnames, List.map_append, hkept]
  simp [htarget, hbody]

/-! ## One accepted call -/

/-- The registry holds what its accepted calls amount to. -/
structure Records (r : FeatureRegistry) (calls : List FeatureCall) : Prop where
  features : r.features = (merged calls).map made
  targets : ∀ call ∈ merged calls, Text.isBlankText call.2.1 = false

theorem Records.names {r : FeatureRegistry} {calls : List FeatureCall} (h : r.Records calls) :
    r.names = namesOf calls := by
  rw [FeatureRegistry.names, h.features, ← map_fst_merged]
  simp [Function.comp_def, name_made]

theorem Records.nodup {r : FeatureRegistry} {calls : List FeatureCall} (h : r.Records calls) :
    r.names.Nodup := by
  rw [h.names]
  exact nodup_eraseDups _

theorem mem_names_iff {r : FeatureRegistry} {name : String} :
    name ∈ r.names ↔ ∃ f, r.get? name = some f := by
  rw [← Option.isSome_iff_exists, get?, List.find?_isSome]
  simp [names]

theorem modify_made (call : FeatureCall) (body : List FeatureClause) :
    body.foldl Feature.apply (made call) = made (call.1, call.2.1, call.2.2 ++ body) := by
  simp [made, Feature.ofBody, List.foldl_append]

theorem Records.declare {r r' : FeatureRegistry} {calls : List FeatureCall} {call : FeatureCall}
    (h : r.Records calls) (hdeclare : r.declare call.1 call.2.1 call.2.2 = .ok r') :
    r'.Records (calls ++ [call]) := by
  -- a known name changes its one feature, and a new one adds a feature at the end
  unfold FeatureRegistry.declare at hdeclare
  cases hget : r.get? call.1 with
  | some f =>
      have hmem : call.1 ∈ namesOf calls := h.names ▸ mem_names_iff.2 ⟨f, hget⟩
      simp only [hget] at hdeclare
      split at hdeclare
      · cases hdeclare
        refine ⟨?_, ?_⟩
        · rw [merged_concat_of_mem hmem, modify, h.features, List.map_map, List.map_map]
          refine List.map_congr_left fun c _ => ?_
          by_cases hsame : call.1 = c.1
          · simp [name_made, hsame, modify_made]
          · simp [name_made, hsame, Ne.symm hsame]
        · rw [merged_concat_of_mem hmem]
          intro c hc
          rcases List.mem_map.1 hc with ⟨earlier, hearlier, rfl⟩
          exact h.targets earlier hearlier
      · cases hdeclare
  | none =>
      have hfresh : call.1 ∉ namesOf calls := by
        rw [← h.names, mem_names_iff]
        simp [hget]
      simp only [hget] at hdeclare
      split at hdeclare
      · cases hdeclare
      · rename_i hblank
        cases hdeclare
        refine ⟨?_, ?_⟩
        · rw [merged_concat_of_fresh hfresh, List.map_append, ← h.features]
          rfl
        · rw [merged_concat_of_fresh hfresh]
          intro c hc
          rcases List.mem_append.1 hc with hold | hnew
          · exact h.targets c hold
          · rw [List.mem_singleton.1 hnew]
            exact Bool.eq_false_iff.2 hblank

/-! ## Refused calls -/

/-- How a registry answers a call, and what it is then. -/
structure Settles (r : FeatureRegistry) (call : FeatureCall) (answer : Except Fault Unit)
    (after : FeatureRegistry) : Prop where
  refused_iff : (∃ fault, answer = .error fault) ↔
    (call.1 ∉ r.names ∧ Text.isBlankText call.2.1) ∨
      ∃ f ∈ r.features, f.name = call.1 ∧ call.2.1 ≠ "" ∧ call.2.1 ≠ f.target
  refused : ∀ fault, answer = .error fault →
    r.declare call.1 call.2.1 call.2.2 = .error fault ∧ fault.report.kind = .featureTarget ∧
      after = r
  taken : answer = .ok () → r.declare call.1 call.2.1 call.2.2 = .ok after

theorem not_featureAccepted_iff {r : FeatureRegistry} (hnodup : r.names.Nodup)
    (name target : String) :
    ¬ FeatureAccepted (r.target? name) target ↔
      (name ∉ r.names ∧ Text.isBlankText target) ∨
        ∃ f ∈ r.features, f.name = name ∧ target ≠ "" ∧ target ≠ f.target := by
  cases hget : r.get? name with
  | some f =>
      have hname : name ∈ r.names := mem_names_iff.2 ⟨f, hget⟩
      have hf : f ∈ r.features := List.mem_of_find?_eq_some hget
      have hsame : f.name = name := by simpa using List.find?_some hget
      -- no other feature has the name
      have honly : ∀ g ∈ r.features, g.name = name → g = f := fun g hg hg' =>
        List.inj_on_of_nodup_map hnodup hg hf (hg'.trans hsame.symm)
      simp only [target?, hget, Option.map_some, FeatureAccepted, not_or, hname,
        not_true_eq_false, false_and, false_or]
      constructor
      · intro hapart
        exact ⟨f, hf, hsame, hapart⟩
      · rintro ⟨g, hg, hg', hapart⟩
        exact honly g hg hg' ▸ hapart
  | none =>
      have hname : name ∉ r.names := by
        simp [mem_names_iff, hget]
      have hnone : ∀ f ∈ r.features, ¬ f.name = name := by
        rintro f hf rfl
        exact hname (List.mem_map_of_mem hf)
      simp only [target?, hget, Option.map_none, FeatureAccepted, Bool.not_eq_false, hname,
        not_false_eq_true, true_and]
      constructor
      · exact Or.inl
      · rintro (hblank | ⟨f, hf, hsame, -⟩)
        · exact hblank
        · exact absurd hsame (hnone f hf)

theorem kind_of_declare_eq_error {r : FeatureRegistry} {name target : String}
    {body : List FeatureClause} {fault : Fault} (h : r.declare name target body = .error fault) :
    fault.report.kind = .featureTarget := by
  unfold declare at h
  split at h <;> split at h <;> cases h <;> rfl

theorem settles_answer {r : FeatureRegistry} (hnodup : r.names.Nodup) (call : FeatureCall) :
    r.Settles call (r.answer call).1 (r.answer call).2 := by
  have haccepted : (∃ declared, r.declare call.1 call.2.1 call.2.2 = .ok declared) ↔ _ :=
    declare_isOk_iff.trans (not_iff_comm.1 (not_featureAccepted_iff hnodup call.1 call.2.1)).symm
  rw [answer_eq hnodup]
  cases hdeclare : r.declare call.1 call.2.1 call.2.2 with
  | ok declared =>
      have hapart := haccepted.1 ⟨declared, hdeclare⟩
      exact ⟨by simpa using hapart, by simp, by simp [hdeclare]⟩
  | error fault =>
      have hrefused := not_not.1 (mt haccepted.2 (by simp [hdeclare]))
      refine ⟨by simpa using hrefused, ?_, by simp⟩
      rintro fault' ⟨⟩
      exact ⟨hdeclare, kind_of_declare_eq_error hdeclare, rfl⟩

/-! ## Runs of calls -/

theorem Records.answer {r : FeatureRegistry} {calls : List FeatureCall} (h : r.Records calls)
    (call : FeatureCall) :
    (r.answer call).2.Records
      (calls ++ if (r.answer call).1.isOk then [call] else []) := by
  rw [answer_eq h.nodup]
  cases hdeclare : r.declare call.1 call.2.1 call.2.2 with
  | ok declared =>
      exact h.declare hdeclare
  | error fault =>
      simpa [Except.isOk, Except.toBool] using h

theorem Records.foldl_answer {r : FeatureRegistry} {earlier : List FeatureCall}
    (h : r.Records earlier) (calls : List FeatureCall) :
    (calls.foldl (fun r call => (r.answer call).2) r).Records (earlier ++ r.acceptedBy calls) := by
  -- by the calls: what has been accepted so far grows by each call that is accepted
  induction calls generalizing r earlier with
  | nil =>
      simpa [acceptedBy] using h
  | cons call rest ih =>
      have hrest := ih (h.answer call)
      cases hok : (r.answer call).1.isOk with
      | true =>
          simpa [acceptedBy, hok] using hrest
      | false =>
          simpa [acceptedBy, hok] using hrest

theorem records_nil : Records {} [] := ⟨rfl, fun _ hcall => absurd hcall List.not_mem_nil⟩

/-- The calls that are accepted of a run that starts with an empty registry. -/
def accepted (calls : List FeatureCall) : List FeatureCall := acceptedBy {} calls

theorem records_after (calls : List FeatureCall) : (after calls).Records (accepted calls) :=
  records_nil.foldl_answer calls

theorem declareOrKeep_eq_answer {r : FeatureRegistry} (hnodup : r.names.Nodup)
    (call : FeatureCall) : r.declareOrKeep call = (r.answer call).2 := by
  rw [answer_eq hnodup, declareOrKeep]
  cases r.declare call.1 call.2.1 call.2.2 with
  | ok declared => rfl
  | error fault => rfl

/-- Changed in place or not, a run of calls leaves the same registry. -/
theorem foldl_declareOrKeep_eq_after (calls : List FeatureCall) :
    calls.foldl declareOrKeep {} = after calls := by
  -- by the last call: the calls before it leave features of distinct names
  induction calls using List.reverseRecOn with
  | nil =>
      rfl
  | append_singleton calls call ih =>
      have hlast : after (calls ++ [call]) = ((after calls).answer call).2 := by
        simp [after]
      rw [List.foldl_append, ih, hlast]
      exact declareOrKeep_eq_answer (records_after calls).nodup call

/-- The names and the targets of calls. -/
def targetsOf (calls : List FeatureCall) : List (String × String) :=
  calls.map fun call => (call.1, call.2.1)

theorem Records.acceptedBy_eq {r : FeatureRegistry} {earlier calls : List FeatureCall}
    (h : r.Records earlier) (htargets : ∀ name, r.target? name = (targetsOf earlier).lookup name)
    (haccepted : FeaturesAcceptedAfter (targetsOf earlier) (targetsOf calls)) :
    r.acceptedBy calls = calls := by
  -- by the calls: targets are fixed by the first call of a name, so they can be told beforehand
  induction calls generalizing r earlier with
  | nil =>
      rfl
  | cons call rest ih =>
      rcases featuresAcceptedAfter_cons_iff.1 haccepted with ⟨hfirst, hrest⟩
      rw [← htargets] at hfirst
      rcases declare_isOk_iff.2 hfirst with ⟨declared, hdeclare⟩
      have hanswer : r.answer call = (.ok (), declared) := by
        rw [answer_eq h.nodup, hdeclare]
      have hnext : declared.acceptedBy rest = rest := by
        refine ih (h.declare hdeclare) ?_ (by simpa [targetsOf] using hrest)
        intro name
        rw [target?_of_declare hdeclare, htargets]
        simp [targetsOf, List.lookup_append]
      simp [acceptedBy, hanswer, hnext, Except.isOk, Except.toBool]

theorem accepted_of_featuresAccepted {calls : List FeatureCall}
    (h : FeaturesAccepted (targetsOf calls)) : accepted calls = calls :=
  records_nil.acceptedBy_eq (fun _ => rfl) h

/-- Calls under new names that name their targets are accepted, each for a feature of its own. -/
theorem run_of_fresh {r : FeatureRegistry} {calls : List FeatureCall}
    (hnodup : (r.names ++ calls.map Prod.fst).Nodup)
    (htargets : ∀ call ∈ calls, Text.isBlankText call.2.1 = false) :
    r.acceptedBy calls = calls ∧
      calls.foldl (fun r call => (r.answer call).2) r = ⟨r.features ++ calls.map made⟩ := by
  -- by the calls: a new name joins those that the next calls have to keep away from
  induction calls generalizing r with
  | nil =>
      simp [acceptedBy]
  | cons call rest ih =>
      have hnames : r.names.Nodup := (List.nodup_append.1 hnodup).1
      have hfresh : r.get? call.1 = none := by
        by_contra hsome
        have hmem : call.1 ∈ r.names :=
          mem_names_iff.2 (Option.ne_none_iff_exists'.1 hsome)
        exact (List.nodup_append.1 hnodup).2.2 call.1 hmem call.1 (by simp) rfl
      have hblank : Text.isBlankText call.2.1 = false := htargets call List.mem_cons_self
      have hanswer : r.answer call = (.ok (), ⟨r.features ++ [made call]⟩) := by
        rw [answer_eq hnames, FeatureRegistry.declare, hfresh]
        simp [hblank, made, Feature.ofBody]
      have hrest := ih (r := ⟨r.features ++ [made call]⟩)
        (by simpa [names, name_made] using hnodup)
        fun c hc => htargets c (List.mem_cons_of_mem call hc)
      simpa [acceptedBy, hanswer, Except.isOk, Except.toBool] using hrest

theorem Records.after_merged {r : FeatureRegistry} {calls : List FeatureCall}
    (h : r.Records calls) :
    accepted (merged calls) = merged calls ∧ after (merged calls) = r := by
  have hnodup : ((merged calls).map Prod.fst).Nodup := by
    rw [map_fst_merged, ← h.names]
    exact h.nodup
  rcases run_of_fresh (r := {}) (by simpa [FeatureRegistry.names] using hnodup) h.targets with
    ⟨haccepted, hafter⟩
  refine ⟨haccepted, ?_⟩
  calc after (merged calls)
      = ⟨(merged calls).map made⟩ := hafter
    _ = r := by rw [← h.features]

theorem Records.forall₂_features {r : FeatureRegistry} {calls : List FeatureCall}
    (h : r.Records calls) :
    List.Forall₂ (fun name f => f.name = name ∧ targetOf? calls name = some f.target ∧
      f.Gathers (bodyOf calls name) ∧ (f.extensions.map Extension.operation).Nodup)
      (namesOf calls) r.features := by
  rw [h.features, merged, List.map_map, List.forall₂_map_right_iff, List.forall₂_same]
  intro name hname
  rcases Option.isSome_iff_exists.1 (isSome_targetOf?_iff.2 hname) with ⟨target, htarget⟩
  have hgathers := Feature.gathers_ofBody name ((targetOf? calls name).getD "") (bodyOf calls name)
  exact ⟨name_made _, by simp [htarget, target_made], hgathers, hgathers.nodup_operations⟩

/-- After every run of calls, a further call is refused exactly if it introduces a feature without
a target or gives a feature another one, and then nothing has changed. The registry has one feature
for each name that was accepted, in the order of the first acceptance, with the target of that
first call and with what all bodies of the name say together, as if each name had been declared
once with its bodies one after the other. -/
theorem registry_of_calls (calls : List FeatureCall) :
    (∀ call,
      (after calls).Settles call ((after calls).answer call).1 ((after calls).answer call).2) ∧
    (namesOf (accepted calls)).Nodup ∧
    List.Forall₂ (fun name f => f.name = name ∧ targetOf? (accepted calls) name = some f.target ∧
      f.Gathers (bodyOf (accepted calls) name) ∧ (f.extensions.map Extension.operation).Nodup)
      (namesOf (accepted calls)) (after calls).features ∧
    accepted (merged (accepted calls)) = merged (accepted calls) ∧
    after (merged (accepted calls)) = after calls :=
  have hrecords := records_after calls
  ⟨settles_answer hrecords.nodup, nodup_eraseDups _, hrecords.forall₂_features,
    hrecords.after_merged⟩

example : merged (accepted
      [("search", "pages", [.operation "index" [.declare "q" .string []]]),
       ("audit", " ", [.description "refused, for there is no target"]),
       ("audit", "users", []),
       ("search", "users", [.description "refused, for the target is another"]),
       ("search", "", [.description "by text", .operation "index" [.declare "limit" .number []]])]) =
    [("search", "pages",
        [.operation "index" [.declare "q" .string []], .description "by text",
          .operation "index" [.declare "limit" .number []]]),
     ("audit", "users", [])] := by
  rfl

end FeatureRegistry
end ResourceRouting
