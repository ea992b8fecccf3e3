import ResourceRouting.Json.Value

/-!
# Method — request methods and naming conventions

The methods a binding can answer, the scope of an operation within its collection, and the
convention that the name of an operation selects: five names are canonical, every other name
is a custom operation.
-/

namespace ResourceRouting

/-! ## Methods -/

inductive Method
  | get
  | post
  | put
  | patch
  | delete
  | head
  | options
  deriving DecidableEq, Repr

namespace Method

/-- All methods, in their fixed order. -/
def all : List Method := [get, post, put, patch, delete, head, options]

/-- The place of a method in that order. -/
def order : Method → Nat
  | get => 0
  | post => 1
  | put => 2
  | patch => 3
  | delete => 4
  | head => 5
  | options => 6

def text : Method → String
  | get => "GET"
  | post => "POST"
  | put => "PUT"
  | patch => "PATCH"
  | delete => "DELETE"
  | head => "HEAD"
  | options => "OPTIONS"

/-- The method whose text is exactly `s`. -/
def ofText? (s : String) : Option Method := all.find? fun m => m.text == s

/-- The method that a value names: by its text, or as the name of the only member of an object,
which is `null`. -/
def ofJson? : Json → Option Method
  | .string s => ofText? s
  | .object [(s, .null)] => ofText? s
  | _ => none

theorem ofText?_text (m : Method) : ofText? m.text = some m := by cases m <;> decide

theorem text_inj {m n : Method} (h : m.text = n.text) : m = n := by
  have hm := ofText?_text m
  rw [h, ofText?_text n] at hm
  exact (Option.some.inj hm).symm

theorem mem_all (m : Method) : m ∈ all := by cases m <;> decide

end Method

/-! ## Scopes -/

/-- Whether an operation acts on a whole collection or on one member of it. -/
inductive Scope
  | collection
  | member
  deriving DecidableEq, Repr

def Scope.text : Scope → String
  | collection => "collection"
  | member => "member"

/-! ## Conventions -/

/-- What the name of an operation settles; a canonical name is left out of the path. -/
structure Convention where
  method : Method
  scope : Scope
  canonical : Bool
  deriving DecidableEq, Repr

namespace Convention

/-- The canonical names and their conventions. -/
def standard : List (String × Convention) :=
  [("create", ⟨.post, .collection, true⟩),
   ("index", ⟨.get, .collection, true⟩),
   ("show", ⟨.get, .member, true⟩),
   ("destroy", ⟨.delete, .member, true⟩),
   ("update", ⟨.patch, .member, true⟩)]

/-- The convention of every name that is not canonical. -/
def custom : Convention := ⟨.get, .member, false⟩

def ofName (name : String) : Convention := (standard.lookup name).getD custom

theorem canonical_ofName_iff {name : String} :
    (ofName name).canonical = true ↔ name ∈ standard.map Prod.fst := by
  have hcanonical : ∀ p ∈ standard, p.2.canonical = true := by decide
  cases hlookup : standard.lookup name with
  | none =>
      have hnot : name ∉ standard.map Prod.fst := by
        intro hmem
        rcases List.mem_map.1 hmem with ⟨p, hp, rfl⟩
        simpa using List.lookup_eq_none_iff.1 hlookup p hp
      simp [ofName, hlookup, hnot, custom]
  | some convention =>
      rcases List.lookup_eq_some_iff.1 hlookup with ⟨before, after, hsplit, -⟩
      have hmem : (name, convention) ∈ standard := by
        rw [hsplit]
        exact List.mem_append_right before List.mem_cons_self
      have hname : name ∈ standard.map Prod.fst := List.mem_map_of_mem hmem
      have hconvention : convention.canonical = true := hcanonical _ hmem
      simp [ofName, hlookup, hname, hconvention]

/-- Whether an operation of that name needs the identifier of a member: the canonical ones on a
member do. -/
def impliesId (name : String) : Bool :=
  let c := ofName name
  c.canonical && c.scope == .member

end Convention

example : Convention.standard.all (fun p => Convention.ofName p.1 == p.2) = true := by decide

end ResourceRouting
