import ResourceRouting.Proofs.Dispatch.Handling
import ResourceRouting.Proofs.Dispatch.Instances
import ResourceRouting.Proofs.Host.Mounting
import ResourceRouting.Proofs.Objects
import ResourceRouting.Proofs.Results

/-!
# Gathering — the inputs that a request brings to an operation

A request names inputs in its query, in its body and in its path. Of one name the path counts
before the body, and the body before the query. The form of a `GET` request is not looked for in
its body, so there the body says nothing. All other endpoints look at none of the three.

* `Http.Request.BodySays`: what a body says, by its content type.
* `Http.Request.brings_bodyPairs`: the pairs that a body brings, one case a content type.
* `Http.Request.exists_inputs_iff`, `Http.Request.gathers_of_inputs`: which requests have inputs
  that can be read, and the value of each name then.
* `Http.Router.serve_gathers`: what a mounted application makes of a request.
-/

namespace ResourceRouting

theorem Endpoint.kind_eq_operation_iff {σ : Type} {e : Endpoint σ} :
    e.kind = "operation" ↔ ∃ o, e = .operation o := by
  cases e <;> simp [kind, Auxiliary.text]

/-! ## Captures -/

namespace Path

/-- What the path has at a place of the placeholder. -/
def At (wants gots : List String) (name value : String) : Prop :=
  ∃ i : Nat, wants[i]? = some (":" ++ name) ∧ gots[i]? = some value

theorem at_cons_iff {want got name value : String} {wants gots : List String} :
    At (want :: wants) (got :: gots) name value ↔
      (want = ":" ++ name ∧ got = value) ∨ At wants gots name value := by
  constructor
  · rintro ⟨_ | i, hwant, hgot⟩
    · exact Or.inl ⟨Option.some.inj hwant, Option.some.inj hgot⟩
    · exact Or.inr ⟨i, hwant, hgot⟩
  · rintro (⟨rfl, rfl⟩ | ⟨i, hwant, hgot⟩)
    · exact ⟨0, rfl, rfl⟩
    · exact ⟨i + 1, hwant, hgot⟩

theorem LastAt.at {wants gots : List String} {name value : String}
    (h : LastAt wants gots name value) : At wants gots name value := by
  rcases h with ⟨before, after, rfl, -, hvalue⟩
  exact ⟨before.length, by simp, hvalue⟩

theorem Fits.mem_iff_at {wants gots : List String} {captured : List (String × String)}
    (h : Fits wants gots captured) {name value : String} :
    (name, value) ∈ captured ↔ At wants gots name value := by
  induction h with
  | nil =>
      simp [At]
  | literal hwant _ ih =>
      rw [ih, at_cons_iff, or_iff_right]
      rintro ⟨hname, -⟩
      exact placeholder?_eq_none_iff.1 hwant name hname
  | @capture want other got wants gots captured hwant _ _ ih =>
      have hhere : want = ":" ++ name ↔ name = other := by
        rw [← placeholder?_eq_some_iff, hwant, Option.some.injEq, eq_comm]
      rw [List.mem_cons, Prod.mk.injEq, ih, at_cons_iff, hhere, eq_comm (a := value)]

end Path

theorem Inputs.lastValue?_map (f : String → String) (pairs : List (String × String))
    (name : String) :
    lastValue? (pairs.map fun p => (p.1, f p.2)) name = (lastValue? pairs name).map f := by
  induction pairs with
  | nil =>
      rfl
  | cons p rest ih =>
      rw [List.map_cons, lastValue?_cons, ih, lastValue?_cons, Option.map_or]
      congr 1
      split <;> rfl

namespace Http
namespace Request

theorem decodedCaptures_eq_ok_iff {captures decoded : List (String × String)} :
    decodedCaptures captures = .ok decoded ↔
      (∀ c ∈ captures, (Text.percentDecoded? c.2).isSome = true) ∧
        decoded = captures.map fun c => (c.1, (Text.percentDecoded? c.2).getD "") := by
  refine mapM_eq_ok_iff (fun c d => ?_) captures decoded
  cases Text.percentDecoded? c.2 with
  | none =>
      simp
  | some value =>
      simp [eq_comm]

/-! ## Bodies -/

/-- The content type is that of a form. -/
def HasForm (r : Request) : Prop :=
  ∃ rest, r.contentType = "application/x-www-form-urlencoded" ++ rest

/-- The content type is that of a JSON text. -/
def HasJson (r : Request) : Prop :=
  ∃ rest, r.contentType = "application/json" ++ rest

/-- What the body says of a name: in a form the last value of the name, in a JSON object the
member, a string as it is and another value as its text. -/
inductive BodySays (r : Request) (name : String) : String → Prop
  | form {value : String} (htype : r.HasForm) (hmethod : r.method ≠ "GET")
      (hlast : Inputs.lastValue? (formPairs r.body) name = some value) : BodySays r name value
  | string {members : List (String × Json)} {value : String} (htype : r.HasJson)
      (hread : Json.read? Json.maxDepth r.body = some (.object members))
      (hmem : (name, .string value) ∈ members) : BodySays r name value
  | other {members : List (String × Json)} {v : Json} (htype : r.HasJson)
      (hread : Json.read? Json.maxDepth r.body = some (.object members))
      (hmem : (name, v) ∈ members) (hnull : v ≠ .null) (hstring : ∀ s, v ≠ .string s) :
      BodySays r name v.text

/-- Bodies that say nothing of a name: a JSON object where it is `null`, a JSON text that is no
object, the form of a `GET` request, and what is of another content type. -/
inductive Silent (r : Request) (name : String) : Prop
  | null {members : List (String × Json)} (htype : r.HasJson)
      (hread : Json.read? Json.maxDepth r.body = some (.object members))
      (hmem : (name, .null) ∈ members)
  | noObject {v : Json} (htype : r.HasJson)
      (hread : Json.read? Json.maxDepth r.body = some v) (hv : ∀ members, v ≠ .object members)
  | formOfGet (htype : r.HasForm) (hmethod : r.method = "GET")
  | otherType (hform : ¬ r.HasForm) (hjson : ¬ r.HasJson)

/-- The body is not larger than two mebibytes. -/
def IsBounded (r : Request) : Prop := r.body.utf8ByteSize ≤ 2097152

/-- The body can be read: what is sent as JSON is JSON of a JSON type, and neither that nor a form,
unless it is that of a `GET` request, is too large. -/
structure HasBody (r : Request) : Prop where
  form : r.HasForm → r.method ≠ "GET" → r.IsBounded
  json : r.HasJson → (MediaType.ofText? r.contentType).any MediaType.isJson = true ∧
    r.IsBounded ∧ ∃ v, Json.read? Json.maxDepth r.body = some v

theorem isTooLarge_eq_false_iff {r : Request} : r.isTooLarge = false ↔ r.IsBounded := by
  rw [isTooLarge, decide_eq_false_iff_not, Nat.not_lt]
  exact Iff.rfl

theorem beginsWith_form_iff {r : Request} :
    Text.beginsWith "application/x-www-form-urlencoded" r.contentType = true ↔ r.HasForm :=
  Text.beginsWith_iff

theorem beginsWith_json_iff {r : Request} :
    Text.beginsWith "application/json" r.contentType = true ↔ r.HasJson :=
  Text.beginsWith_iff

theorem HasJson.not_hasForm {r : Request} (h : r.HasJson) : ¬ r.HasForm := by
  rintro ⟨rest, hform⟩
  rcases h with ⟨rest', hjson⟩
  rw [hform] at hjson
  have hlist := congrArg String.toList hjson
  simp at hlist

theorem Silent.not_bodySays {r : Request} {name : String} (h : r.Silent name) (value : String) :
    ¬ r.BodySays name value := by
  intro hsaid
  cases h with
  | null htype hread hmem =>
      -- the object has the name once, and with another value
      have hother : ∃ v, v ≠ .null ∧ ∃ members,
          Json.read? Json.maxDepth r.body = some (.object members) ∧ (name, v) ∈ members := by
        cases hsaid with
        | form hform => exact absurd hform htype.not_hasForm
        | @string members value _ hobject hvalue =>
            exact ⟨.string value, nofun, members, hobject, hvalue⟩
        | other _ hobject hvalue hnull => exact ⟨_, hnull, _, hobject, hvalue⟩
      rcases hother with ⟨v, hv, members, hobject, hvalue⟩
      cases hread.symm.trans hobject
      have hsame := List.inj_on_of_nodup_map (Json.nodup_of_read? hread) hmem hvalue rfl
      exact hv (congrArg Prod.snd hsame).symm
  | noObject htype hread hv =>
      cases hsaid with
      | form hform => exact htype.not_hasForm hform
      | string _ hobject | other _ hobject =>
          exact hv _ (Option.some.inj (hread.symm.trans hobject))
  | formOfGet htype hmethod =>
      cases hsaid with
      | form _ hother => exact hother hmethod
      | string hjson | other hjson => exact hjson.not_hasForm htype
  | otherType hform hjson =>
      cases hsaid with
      | form htype => exact hform htype
      | string htype | other htype => exact hjson htype

/-- The pairs that a body brings, or why it brings none. -/
inductive Brings (r : Request) : Except Rejection (List (String × String)) → Prop
  | query (htype : r.HasForm) (hmethod : r.method = "GET") : Brings r (.ok r.queryPairs)
  | form (htype : r.HasForm) (hmethod : r.method ≠ "GET") (hbounded : r.IsBounded) :
      Brings r (.ok (formPairs r.body))
  | largeForm (htype : r.HasForm) (hmethod : r.method ≠ "GET") (hlarge : ¬ r.IsBounded) :
      Brings r (.error .tooLarge)
  | json {v : Json} (htype : r.HasJson)
      (hmedia : (MediaType.ofText? r.contentType).any MediaType.isJson = true)
      (hbounded : r.IsBounded) (hread : Json.read? Json.maxDepth r.body = some v) :
      Brings r (.ok (jsonPairs v))
  | notJsonType (htype : r.HasJson)
      (hmedia : (MediaType.ofText? r.contentType).any MediaType.isJson = false) :
      Brings r (.error .notJsonType)
  | largeJson (htype : r.HasJson)
      (hmedia : (MediaType.ofText? r.contentType).any MediaType.isJson = true)
      (hlarge : ¬ r.IsBounded) : Brings r (.error .tooLarge)
  | notJson (htype : r.HasJson)
      (hmedia : (MediaType.ofText? r.contentType).any MediaType.isJson = true)
      (hbounded : r.IsBounded) (hread : Json.read? Json.maxDepth r.body = none) :
      Brings r (.error .notJson)
  | nothing (hform : ¬ r.HasForm) (hjson : ¬ r.HasJson) : Brings r (.ok [])

/-- What is too large is rejected, and the rest is read. -/
theorem brings_of_bounds {r : Request} {result : Except Rejection (List (String × String))}
    (hlarge : ¬ r.IsBounded → r.Brings (.error .tooLarge))
    (hbounded : r.IsBounded → r.Brings result) :
    r.Brings (if r.isTooLarge then .error .tooLarge else result) := by
  cases hsize : r.isTooLarge with
  | true =>
      exact hlarge fun h => Bool.eq_false_iff.1 (isTooLarge_eq_false_iff.2 h) hsize
  | false =>
      exact hbounded (isTooLarge_eq_false_iff.1 hsize)

theorem brings_bodyPairs (r : Request) : r.Brings r.bodyPairs := by
  unfold bodyPairs
  dsimp only
  -- the content type decides, and then the size where the body is taken in
  split
  · rename_i hform
    rw [beginsWith_form_iff] at hform
    split
    · exact .query hform ‹_›
    · exact brings_of_bounds (.largeForm hform ‹_›) (.form hform ‹_›)
  · rename_i hform
    rw [beginsWith_form_iff] at hform
    split
    · rename_i hjson
      rw [beginsWith_json_iff] at hjson
      cases hmedia : (MediaType.ofText? r.contentType).any MediaType.isJson with
      | false =>
          exact .notJsonType hjson hmedia
      | true =>
          refine brings_of_bounds (.largeJson hjson hmedia) fun hbounded => ?_
          split
          · exact .json hjson hmedia hbounded ‹_›
          · exact .notJson hjson hmedia hbounded ‹_›
    · rename_i hjson
      rw [beginsWith_json_iff] at hjson
      exact .nothing hform hjson

/-! ## JSON bodies -/

theorem mem_jsonPairs_iff {members : List (String × Json)} {name value : String} :
    (name, value) ∈ jsonPairs (.object members) ↔
      (name, .string value) ∈ members ∨
        ∃ v, (name, v) ∈ members ∧ v ≠ .null ∧ (∀ s, v ≠ .string s) ∧ v.text = value := by
  rw [jsonPairs, List.mem_filterMap]
  constructor
  · rintro ⟨⟨other, v⟩, hmem, hpair⟩
    dsimp only at hpair
    split at hpair
    · cases hpair
    · cases hpair
      exact Or.inl hmem
    · rename_i hnull hstring
      cases hpair
      exact Or.inr ⟨v, hmem, hnull, hstring, rfl⟩
  · rintro (hmem | ⟨v, hmem, hnull, hstring, rfl⟩)
    · exact ⟨(name, .string value), hmem, rfl⟩
    · refine ⟨(name, v), hmem, ?_⟩
      dsimp only
      split
      · exact absurd rfl hnull
      · exact absurd rfl (hstring _)
      · rfl

theorem names_jsonPairs_sublist (members : List (String × Json)) :
    ((jsonPairs (.object members)).map Prod.fst).Sublist (members.map Prod.fst) := by
  rw [jsonPairs]
  induction members with
  | nil =>
      exact List.Sublist.refl _
  | cons m rest ih =>
      rcases m with ⟨name, v⟩
      cases v with
      | null => exact ih.cons name
      | _ => exact ih.cons_cons name

/-- A body that is read as JSON says what its pairs say. -/
theorem bodySays_iff_of_json {r : Request} (htype : r.HasJson) {v : Json}
    (hread : Json.read? Json.maxDepth r.body = some v) {name value : String} :
    r.BodySays name value ↔ Inputs.lastValue? (jsonPairs v) name = some value := by
  constructor
  · intro hsaid
    -- only an object says anything, and its names are distinct
    have hpair : ∃ members, v = .object members ∧ (name, value) ∈ jsonPairs (.object members) := by
      cases hsaid with
      | form hform =>
          exact absurd hform htype.not_hasForm
      | string _ hobject hmem =>
          exact ⟨_, Option.some.inj (hread.symm.trans hobject), mem_jsonPairs_iff.2 (Or.inl hmem)⟩
      | other _ hobject hmem hnull hstring =>
          exact ⟨_, Option.some.inj (hread.symm.trans hobject),
            mem_jsonPairs_iff.2 (Or.inr ⟨_, hmem, hnull, hstring, rfl⟩)⟩
    rcases hpair with ⟨members, rfl, hpair⟩
    have hnodup := (Json.nodup_of_read? hread).sublist (names_jsonPairs_sublist members)
    exact (Inputs.lastValue?_eq_some_iff_mem hnodup).2 hpair
  · intro hlast
    cases v with
    | object members =>
        have hnodup := (Json.nodup_of_read? hread).sublist (names_jsonPairs_sublist members)
        rw [Inputs.lastValue?_eq_some_iff_mem hnodup, mem_jsonPairs_iff] at hlast
        rcases hlast with hmem | ⟨v, hmem, hnull, hstring, rfl⟩
        · exact .string htype hread hmem
        · exact .other htype hread hmem hnull hstring
    | _ => cases hlast

/-! ## Query and body -/

theorem exists_bodyPairs_iff {r : Request} : (∃ pairs, r.bodyPairs = .ok pairs) ↔ r.HasBody := by
  have hbrings := r.brings_bodyPairs
  cases hpairs : r.bodyPairs with
  | ok pairs =>
      rw [hpairs] at hbrings
      refine ⟨fun _ => ?_, fun _ => ⟨pairs, rfl⟩⟩
      cases hbrings with
      | query htype hmethod =>
          exact ⟨fun _ hother => absurd hmethod hother, fun hjson => absurd htype hjson.not_hasForm⟩
      | form htype _ hbounded =>
          exact ⟨fun _ _ => hbounded, fun hjson => absurd htype hjson.not_hasForm⟩
      | json htype hmedia hbounded hread =>
          exact ⟨fun hform => absurd hform htype.not_hasForm, fun _ => ⟨hmedia, hbounded, _, hread⟩⟩
      | nothing hform hjson =>
          exact ⟨fun htype => absurd htype hform, fun htype => absurd htype hjson⟩
  | error rejection =>
      rw [hpairs] at hbrings
      refine ⟨fun ⟨_, hok⟩ => (nomatch hok), fun hbody => ?_⟩
      cases hbrings with
      | largeForm htype hmethod hlarge =>
          exact absurd (hbody.form htype hmethod) hlarge
      | notJsonType htype hmedia =>
          have hyes := (hbody.json htype).1
          rw [hmedia] at hyes
          cases hyes
      | largeJson htype _ hlarge =>
          exact absurd (hbody.json htype).2.1 hlarge
      | notJson htype _ _ hread =>
          rcases (hbody.json htype).2.2 with ⟨v, hv⟩
          rw [hread] at hv
          cases hv

/-- A body of a JSON type is not read when it is too large. -/
theorem bodyPairs_of_large {r : Request} (htype : r.HasJson)
    (hmedia : (MediaType.ofText? r.contentType).any MediaType.isJson = true)
    (hlarge : ¬ r.IsBounded) : r.bodyPairs = .error .tooLarge := by
  have hbrings := r.brings_bodyPairs
  cases hpairs : r.bodyPairs with
  | ok pairs =>
      have hbody := exists_bodyPairs_iff.1 ⟨pairs, hpairs⟩
      exact absurd (hbody.json htype).2.1 hlarge
  | error rejection =>
      rw [hpairs] at hbrings
      cases hbrings with
      | largeForm | largeJson =>
          rfl
      | notJsonType _ hother =>
          rw [hmedia] at hother
          cases hother
      | notJson _ _ hbounded =>
          exact absurd hbounded hlarge

/-- What the body says counts, and where it says nothing the query does. -/
theorem getElem?_withBody {r : Request} {pairs : List (String × String)}
    (h : r.bodyPairs = .ok pairs) (name : String) :
    (∀ value, r.BodySays name value →
      ((Inputs.ofPairs r.queryPairs).extended pairs)[name]? = some value) ∧
    ((∀ value, ¬ r.BodySays name value) →
      ((Inputs.ofPairs r.queryPairs).extended pairs)[name]? =
        Inputs.lastValue? r.queryPairs name) := by
  have hbrings := r.brings_bodyPairs
  rw [h] at hbrings
  -- the pairs say what the body says, unless they are those of the query once more
  have hpairs : (pairs = r.queryPairs ∧ ∀ value, ¬ r.BodySays name value) ∨
      ∀ value, r.BodySays name value ↔ Inputs.lastValue? pairs name = some value := by
    cases hbrings with
    | query htype hmethod =>
        exact Or.inl ⟨rfl, (Silent.formOfGet htype hmethod).not_bodySays⟩
    | form htype hmethod _ =>
        refine Or.inr fun value => ⟨?_, .form htype hmethod⟩
        rintro (⟨_, _, hlast⟩ | ⟨hjson⟩ | ⟨hjson⟩)
        · exact hlast
        · exact absurd htype hjson.not_hasForm
        · exact absurd htype hjson.not_hasForm
    | json htype _ _ hread =>
        exact Or.inr fun value => bodySays_iff_of_json htype hread
    | nothing hform hjson =>
        have hsilent : r.Silent name := .otherType hform hjson
        exact Or.inr fun value => ⟨fun h => absurd h (hsilent.not_bodySays value), nofun⟩
  rw [Inputs.getElem?_extended, Inputs.getElem?_ofPairs]
  rcases hpairs with ⟨rfl, hnone⟩ | hsaid
  · refine ⟨fun value hvalue => absurd hvalue (hnone value), fun _ => ?_⟩
    exact Option.or_self
  · refine ⟨fun value hvalue => ?_, fun hnone => ?_⟩
    · rw [(hsaid value).1 hvalue, Option.some_or]
    · have hlast : Inputs.lastValue? pairs name = none :=
        Option.eq_none_iff_forall_ne_some.2 fun value hvalue =>
          hnone value ((hsaid value).2 hvalue)
      rw [hlast, Option.none_or]

/-! ## All sources -/

/-- The inputs can be read: the body can, and what the path has at the places of the pattern has
no escapes that are no text. -/
structure Readable (r : Request) (pattern : String) : Prop where
  captures : ∀ name raw, Path.At (Path.segments pattern) (Path.segments r.path) name raw →
    (Text.percentDecoded? raw).isSome = true
  body : r.HasBody

/-- The inputs are those that the request brings to the pattern. A name of a placeholder has what
the path has at its last place, with the escapes decoded. Any other name has what the body says,
or, where the body says nothing of it, the last value of the query, if there is one. -/
structure Gathers (r : Request) (pattern : String) (inputs : Inputs) : Prop where
  captured : ∀ name ∈ Path.params pattern, ∃ raw value,
    Path.LastAt (Path.segments pattern) (Path.segments r.path) name raw ∧
      Text.percentDecoded? raw = some value ∧ inputs[name]? = some value
  body : ∀ name ∉ Path.params pattern, ∀ value, r.BodySays name value →
    inputs[name]? = some value
  query : ∀ name ∉ Path.params pattern, (∀ value, ¬ r.BodySays name value) →
    inputs[name]? = Inputs.lastValue? r.queryPairs name
  silent : ∀ name ∉ Path.params pattern, r.Silent name →
    inputs[name]? = Inputs.lastValue? r.queryPairs name

section Captured

variable {r : Request} {pattern : String} {captures : List (String × String)}
  (hfits : Path.Fits (Path.segments pattern) (Path.segments r.path) captures)
include hfits

theorem exists_inputs_iff : (∃ inputs, r.inputs captures = .ok inputs) ↔ r.Readable pattern := by
  have hcaptures : (∀ c ∈ captures, (Text.percentDecoded? c.2).isSome = true) ↔
      ∀ name raw, Path.At (Path.segments pattern) (Path.segments r.path) name raw →
        (Text.percentDecoded? raw).isSome = true := by
    simp only [← hfits.mem_iff_at, Prod.forall]
  constructor
  · rintro ⟨inputs, h⟩
    rcases bind_eq_ok_iff.1 h with ⟨decoded, hdecoded, hrest⟩
    rcases bind_eq_ok_iff.1 hrest with ⟨pairs, hpairs, -⟩
    have hall := (decodedCaptures_eq_ok_iff.1 hdecoded).1
    exact ⟨hcaptures.1 hall, exists_bodyPairs_iff.1 ⟨pairs, hpairs⟩⟩
  · rintro ⟨hdecode, hbody⟩
    rcases exists_bodyPairs_iff.2 hbody with ⟨pairs, hpairs⟩
    have hdecoded := decodedCaptures_eq_ok_iff.2 ⟨hcaptures.2 hdecode, rfl⟩
    exact ⟨_, bind_eq_ok_iff.2 ⟨_, hdecoded, bind_eq_ok_iff.2 ⟨pairs, hpairs, rfl⟩⟩⟩

theorem gathers_of_inputs {inputs : Inputs} (h : r.inputs captures = .ok inputs) :
    r.Gathers pattern inputs := by
  rcases bind_eq_ok_iff.1 h with ⟨decoded, hdecoded, hrest⟩
  rcases bind_eq_ok_iff.1 hrest with ⟨pairs, hpairs, hinputs⟩
  rcases decodedCaptures_eq_ok_iff.1 hdecoded with ⟨hall, rfl⟩
  have hvalue : ∀ name, inputs[name]? =
      ((Inputs.lastValue? captures name).map fun raw => (Text.percentDecoded? raw).getD "").or
        ((Inputs.ofPairs r.queryPairs).extended pairs)[name]? := by
    intro name
    rw [← Except.ok.inj hinputs, Inputs.getElem?_extended,
      Inputs.lastValue?_map fun raw => (Text.percentDecoded? raw).getD ""]
  have hnames : ∀ name, name ∉ Path.params pattern → Inputs.lastValue? captures name = none := by
    intro name hname
    rw [Inputs.lastValue?_eq_none_iff, hfits.names]
    exact hname
  have hquery : ∀ name ∉ Path.params pattern, (∀ value, ¬ r.BodySays name value) →
      inputs[name]? = Inputs.lastValue? r.queryPairs name := by
    intro name hname hnone
    rw [hvalue, hnames name hname, Option.map_none, Option.none_or]
    exact (getElem?_withBody hpairs name).2 hnone
  refine ⟨?_, ?_, hquery, fun name hname hsilent => hquery name hname hsilent.not_bodySays⟩
  · intro name hname
    have hsome : Inputs.lastValue? captures name ≠ none := by
      rw [Ne, Inputs.lastValue?_eq_none_iff, hfits.names, not_not]
      exact hname
    rcases Option.ne_none_iff_exists'.1 hsome with ⟨raw, hraw⟩
    have hlast := hfits.lastValue?_eq_some_iff.1 hraw
    have hmem : (name, raw) ∈ captures := hfits.mem_iff_at.2 hlast.at
    rcases Option.isSome_iff_exists.1 (hall _ hmem) with ⟨value, hdecode⟩
    refine ⟨raw, value, hlast, hdecode, ?_⟩
    rw [hvalue, hraw, Option.map_some, Option.some_or, hdecode, Option.getD_some]
  · intro name hname value hsaid
    rw [hvalue, hnames name hname, Option.map_none, Option.none_or]
    exact (getElem?_withBody hpairs name).1 value hsaid

end Captured

end Request

/-! ## Answers -/

/-- A response as it is sent for a method: one to `HEAD` has no body. -/
def Response.sentTo (method : String) (r : Response) : Response :=
  if method = "HEAD" then r.withoutBody else r

/-- The response to what an operation answers. -/
def Response.ofOutcome : Outcome → Response
  | .ok reply => .ofReply reply
  | .error _ => failure

variable {σ : Type}

theorem Route.mem_of_binding? {route : Route σ} {method : String} {b : Binding σ}
    (h : route.binding? method = some b) : b ∈ route.bindings := by
  rcases Option.or_eq_some_iff.1 h with hfind | ⟨-, hget⟩
  · exact List.mem_of_find?_eq_some hfind
  · split at hget
    · exact List.mem_of_find?_eq_some hget
    · cases hget

namespace Router

theorem serve_of_binding? {router : Router σ} {request : Request} {route : Route σ}
    {b : Binding σ} (hroute : router.route? request.path = some route)
    (hbinding : route.binding? request.method = some b) (s : σ) :
    router.serve request s = ((dispatch router.api b request s).1.sentTo request.method,
      (dispatch router.api b request s).2) := by
  simp only [serve, hroute, hbinding]
  rfl

/-- The pattern of a binding that is run fits the path. -/
theorem exists_fits {api : Api σ} {router : Router σ} (hmounted : Mounted api router)
    {path method : String} {route : Route σ} {b : Binding σ}
    (hroute : router.route? path = some route) (hbinding : route.binding? method = some b) :
    ∃ captures, Path.matchSegments (Path.segments b.path) (Path.segments path) = some captures ∧
      Path.Fits (Path.segments b.path) (Path.segments path) captures := by
  rcases hmounted.preferred_of_route? hroute with ⟨hmem, hmatches, -⟩
  have hpath : b.path = route.pattern :=
    ((Route.mem_bindings_iff (hmounted.gathers.bindings route hmem)).1
      (Route.mem_of_binding? hbinding)).2
  rw [hpath]
  rcases Option.isSome_iff_exists.1 hmatches with ⟨captured, hcaptured⟩
  rcases Path.captures?_eq_some_iff.1 hcaptured with ⟨captures, hfits, -⟩
  exact ⟨captures, Path.matchSegments_eq_some_iff.2 hfits, hfits⟩

/-- The answer of an operation is that of its invocation with the inputs, if these can be read. -/
theorem dispatch_operation {api : Api σ} {b : Binding σ} {o : Operation σ}
    (hendpoint : b.endpoint = .operation o) {request : Request}
    {captures : List (String × String)}
    (hcaptures : Path.matchSegments (Path.segments b.path) (Path.segments request.path) =
      some captures) (s : σ) :
    dispatch api b request s =
      match request.inputs captures with
      | .error rejection => (.ofRejection rejection, s)
      | .ok inputs =>
          (.ofOutcome (o.invoke api.hooks inputs s).1, (o.invoke api.hooks inputs s).2) := by
  simp only [dispatch, hendpoint, Endpoint.fixedReply?, hcaptures, Option.getD_some,
    Endpoint.respond]
  cases request.inputs captures with
  | error rejection =>
      rfl
  | ok inputs =>
      dsimp only
      rcases o.invoke api.hooks inputs s with ⟨answer | reply, after⟩ <;> rfl

/-- What a mounted application makes of a request that one of its bindings answers. An operation is
invoked with the inputs that the request brings to the path of the binding, unless these cannot be
read, and then the request is rejected whatever the state. Any other binding answers every request
for its method and path alike, and leaves the state as it is. -/
theorem serve_gathers {api : Api σ} {router : Router σ} (hmount : mount? api = some router)
    {request : Request} {route : Route σ} {b : Binding σ}
    (hroute : router.route? request.path = some route)
    (hbinding : route.binding? request.method = some b) :
    (∀ o, b.endpoint = .operation o →
      (request.Readable b.path → ∃ inputs, request.Gathers b.path inputs ∧ ∀ s,
        router.serve request s =
          ((Response.ofOutcome (o.invoke api.hooks inputs s).1).sentTo request.method,
            (o.invoke api.hooks inputs s).2)) ∧
      (¬ request.Readable b.path → ∃ rejection, ∀ s,
        router.serve request s = ((Response.ofRejection rejection).sentTo request.method, s))) ∧
    ((∀ o, b.endpoint ≠ .operation o) →
      ∀ other : Request, other.method = request.method → other.path = request.path → ∀ s s',
        (router.serve other s').1 = (router.serve request s).1 ∧
          (router.serve request s).2 = s) := by
  have hmounted := mounted_of_mount? hmount
  refine ⟨?_, ?_⟩
  · intro o hendpoint
    rcases exists_fits hmounted hroute hbinding with ⟨captures, hcaptures, hfits⟩
    have hserve := fun s => serve_of_binding? hroute hbinding s
    simp only [hmounted.source, dispatch_operation hendpoint hcaptures] at hserve
    cases hinputs : request.inputs captures with
    | ok inputs =>
        have hreadable := (Request.exists_inputs_iff hfits).1 ⟨inputs, hinputs⟩
        simp only [hinputs] at hserve
        exact ⟨fun _ => ⟨inputs, Request.gathers_of_inputs hfits hinputs, hserve⟩,
          fun hnot => absurd hreadable hnot⟩
    | error rejection =>
        simp only [hinputs] at hserve
        refine ⟨fun hreadable => ?_, fun _ => ⟨rejection, hserve⟩⟩
        rcases (Request.exists_inputs_iff hfits).2 hreadable with ⟨inputs, hok⟩
        rw [hinputs] at hok
        cases hok
  · intro hfixed other hmethod hpath s s'
    have hsome : b.endpoint.fixedReply? ≠ none := by
      intro hnone
      rcases Endpoint.operation_of_fixedReply?_eq_none hnone with ⟨o, ho⟩
      exact hfixed o ho
    rcases Option.ne_none_iff_exists'.1 hsome with ⟨reply, hreply⟩
    have hdispatch : ∀ (request : Request) (s : σ),
        dispatch router.api b request s = (.ofReply reply, s) := by
      intro request s
      simp only [dispatch, hreply]
    rw [serve_of_binding? hroute hbinding, hdispatch,
      serve_of_binding? (hpath ▸ hroute) (hmethod ▸ hbinding), hdispatch, hmethod]
    exact ⟨rfl, rfl⟩

/-- Pages of which the operations answer with some of their inputs. -/
def notedPages : List (ApiClause Unit) :=
  let note : Control Unit := fun inputs s =>
    (.ok (.text 200 (Text.commaList (["id", "page", "lang"].map inputs.text))), s)
  [.collection "pages" [.operation "update" [.control note], .operation "index" [.control note]]]

/-- A form that names the page again, and something that the query names too. -/
def editedPage : Request :=
  { method := "PATCH"
    path := "/pages/7"
    query? := some "id=1&page=1&lang=en"
    headers := [("content-type", "application/x-www-form-urlencoded")]
    body := "id=2&page=3" }

/-- The same is sent to the collection, only to ask for its methods. -/
def askedPages : Request := { editedPage with method := "OPTIONS", path := "/pages" }

theorem serve_gathers_notedPages :
    ∃ (api : Api Unit) (router : Router Unit), Api.build "site" notedPages = .ok api ∧
      mount? api = some router ∧
      (∃ (b : Binding Unit) (o : Operation Unit) (inputs : Inputs),
        b.path = "/pages/:id" ∧ b.endpoint = .operation o ∧ editedPage.Gathers b.path inputs ∧
          (router.serve editedPage ()).1 =
            (Response.ofOutcome (o.invoke api.hooks inputs ()).1).sentTo "PATCH") ∧
      (router.serve editedPage ()).1.body = "7,3,en" ∧
      (router.serve { method := "OPTIONS", path := "/pages" } ()).1 =
        (router.serve askedPages ()).1 := by
  rcases isOk_iff_exists.1 (by decide +kernel : (Api.build "site" notedPages).isOk = true) with
    ⟨api, hbuild⟩
  have hrouter : ((mount? api).map fun router => ((router.serve editedPage ()).1.body,
      (router.route? "/pages/7").bind fun route =>
        (route.binding? "PATCH").map fun b => (b.path, b.endpoint.kind),
      (router.route? "/pages").bind fun route =>
        (route.binding? "OPTIONS").map fun b => b.endpoint.kind)) =
          some ("7,3,en", some ("/pages/:id", "operation"), some "options") := by
    rw [(Api.build_eq_ok_iff.1 hbuild).2]
    decide +kernel
  rcases Option.map_eq_some_iff.1 hrouter with ⟨router, hmount, hanswers⟩
  simp only [Prod.mk.injEq, Option.bind_eq_some_iff, Option.map_eq_some_iff] at hanswers
  rcases hanswers with ⟨hbody, ⟨page, hpage, edit, hedit, hpath, hoperation⟩,
    pages, hpages, options, hoptions, hkind⟩
  refine ⟨api, router, hbuild, hmount, ?_, hbody, ?_⟩
  · rcases Endpoint.kind_eq_operation_iff.1 hoperation with ⟨o, hendpoint⟩
    have hinputs : ∃ inputs, editedPage.inputs [("id", "7")] = .ok inputs :=
      isOk_iff_exists.1 (by decide +kernel)
    have hreadable : editedPage.Readable edit.path := by
      rw [hpath]
      exact (Request.exists_inputs_iff
        (Path.matchSegments_eq_some_iff.1 (by decide +kernel))).1 hinputs
    rcases ((serve_gathers hmount hpage hedit).1 o hendpoint).1 hreadable with
      ⟨inputs, hgathers, hserve⟩
    exact ⟨edit, o, inputs, hpath, hendpoint, hgathers, congrArg Prod.fst (hserve ())⟩
  · have hfixed : ∀ o, options.endpoint ≠ .operation o := by
      intro o hendpoint
      rw [Endpoint.kind_eq_operation_iff.2 ⟨o, hendpoint⟩] at hkind
      revert hkind
      decide
    have hpages' : router.route? askedPages.path = some pages := hpages
    exact ((serve_gathers hmount hpages' hoptions).2 hfixed
      { method := "OPTIONS", path := "/pages" } rfl rfl () ()).1

/-- A form in the body of a `GET`, and a query that gives the name another value. -/
def formOfGet : Request :=
  { method := "GET"
    path := "/pages"
    query? := some "page=1"
    headers := [("content-type", "application/x-www-form-urlencoded")]
    body := "page=7" }

/-- The form has a value for the name, and the operation is given that of the query. -/
theorem serve_formOfGet :
    ∃ (api : Api Unit) (router : Router Unit), Api.build "site" notedPages = .ok api ∧
      mount? api = some router ∧ formOfGet.HasForm ∧
      Inputs.lastValue? (formPairs formOfGet.body) "page" = some "7" ∧
      (router.serve formOfGet ()).1.body = ",1," := by
  rcases isOk_iff_exists.1 (by decide +kernel : (Api.build "site" notedPages).isOk = true) with
    ⟨api, hbuild⟩
  have hrouter : ((mount? api).map fun router => (router.serve formOfGet ()).1.body) =
      some ",1," := by
    rw [(Api.build_eq_ok_iff.1 hbuild).2]
    decide +kernel
  rcases Option.map_eq_some_iff.1 hrouter with ⟨router, hmount, hbody⟩
  exact ⟨api, router, hbuild, hmount, ⟨"", rfl⟩, by decide +kernel, hbody⟩

end Router
end Http
end ResourceRouting
