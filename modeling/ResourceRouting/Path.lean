import ResourceRouting.Inputs
import ResourceRouting.Method
import ResourceRouting.Text.Pieces

/-!
# Path — synthesis and matching of route patterns

A path is a text of segments between slashes. A segment that begins with a colon is a
placeholder: it stands for any one segment that is not empty, and captures it under its name.
Paths are built relative to the root of an application; `Routing.route` puts the root in front.

* `Path.segments` is the view through which paths are matched and compared.
* `Path.shape` forgets the names of placeholders: two patterns of one shape match alike.
* `Path.captures?` matches a pattern and answers what its placeholders captured.
-/

namespace ResourceRouting
namespace Path

/-! ## Segments -/

def isSlash (c : Char) : Bool := c == '/'

def segments (path : String) : List String := Text.cut '/' path

def ofSegments (parts : List String) : String := Text.glue '/' parts

theorem ofSegments_segments (path : String) : ofSegments (segments path) = path :=
  Text.glue_cut '/' path

theorem slash_not_mem_of_mem_segments {path segment : String} (h : segment ∈ segments path) :
    '/' ∉ segment.toList :=
  Text.not_mem_of_mem_cut h

theorem segments_ofSegments {parts : List String} (hne : parts ≠ [])
    (h : ∀ part ∈ parts, '/' ∉ part.toList) : segments (ofSegments parts) = parts :=
  Text.cut_glue hne h

/-- A path whose segments are changed without a slash coming in has the changed segments. -/
theorem segments_ofSegments_map {path : String} {f : String → String}
    (h : ∀ segment ∈ segments path, '/' ∉ (f segment).toList) :
    segments (ofSegments ((segments path).map f)) = (segments path).map f := by
  refine segments_ofSegments ?_ (List.forall_mem_map.2 h)
  rw [Ne, List.map_eq_nil_iff]
  exact Text.cut_ne_nil '/' path

/-- The name of a placeholder segment, which may be empty. -/
def placeholder? (segment : String) : Option String :=
  match segment.toList with
  | ':' :: name => some (String.ofList name)
  | _ => none

/-- A placeholder is a colon with its name after it. -/
theorem placeholder?_eq_some_iff {segment name : String} :
    placeholder? segment = some name ↔ segment = ":" ++ name := by
  have hlist : segment = ":" ++ name ↔ segment.toList = ':' :: name.toList := by
    rw [← String.toList_inj, String.toList_append]
    rfl
  rw [hlist]
  unfold placeholder?
  split
  · next rest h =>
      rw [h, Option.some.injEq, ← String.toList_inj, String.toList_ofList, List.cons.injEq]
      simp
  · next h =>
      simpa using fun hcolon => h _ hcolon

theorem placeholder?_eq_none_iff {segment : String} :
    placeholder? segment = none ↔ ∀ name, segment ≠ ":" ++ name := by
  rw [Option.eq_none_iff_forall_not_mem]
  exact forall_congr' fun name => not_congr placeholder?_eq_some_iff

theorem placeholder?_colon_append (name : String) : placeholder? (":" ++ name) = some name :=
  placeholder?_eq_some_iff.2 rfl

/-- The names of the placeholders of a path, from left to right. -/
def params (path : String) : List String := (segments path).filterMap placeholder?

/-! ## Synthesis -/

/-- Puts one slash between a base and a segment, whatever slashes they had there, and drops the
slashes at the end. -/
def join (base segment : String) : String :=
  Text.dropTrailing isSlash base ++ "/" ++ Text.dropEnds isSlash segment

/-- Appends the placeholder `:name` as a segment. -/
def joinParam (base name : String) : String :=
  Text.dropTrailing isSlash base ++ "/:" ++ name

/-- Where a collection hangs: at the root of an application, or under the path of a parent,
possibly under one member of it (`parentId?`) and possibly without a segment of its own. -/
inductive Placement
  | root
  | under (parent : String) (parentId? : Option String) (noMember : Bool)
  deriving DecidableEq, Repr

/-- The path of a collection. -/
def ofCollection (name : String) : Placement → String
  | .root => join "" name
  | .under parent parentId? noMember =>
      let base :=
        match parentId? with
        | some id => joinParam parent id
        | none => parent
      if noMember then base else join base name

/-- The path of an operation: a member operation goes through the identifier of its collection,
and a name that is not canonical is a segment of its own. -/
def ofOperation (collection idParam name : String) (scope : Scope) (canonical : Bool) : String :=
  let base :=
    match scope with
    | .collection => collection
    | .member => joinParam collection idParam
  if canonical then base else join base name

/-! ## Ambiguity -/

/-- The first entry that equals an earlier one. -/
def firstRepeat? (seen : List String) : List String → Option String
  | [] => none
  | name :: rest => if seen.contains name then some name else firstRepeat? (name :: seen) rest

/-- The first placeholder name that a path repeats. -/
def repeatedParam? (path : String) : Option String := firstRepeat? [] (params path)

theorem firstRepeat?_eq_none_iff {seen names : List String} :
    firstRepeat? seen names = none ↔ names.Nodup ∧ ∀ name ∈ names, name ∉ seen := by
  induction names generalizing seen with
  | nil => simp [firstRepeat?]
  | cons name rest ih =>
      unfold firstRepeat?
      split
      · next h =>
          have : name ∈ seen := by simpa using h
          simp [this]
      · next h =>
          have hn : name ∉ seen := by simpa using h
          rw [ih]
          simp only [List.nodup_cons, List.mem_cons, not_or]
          constructor
          · rintro ⟨hd, hs⟩
            refine ⟨⟨fun hm => (hs name hm).1 rfl, hd⟩, ?_⟩
            rintro x (rfl | hx)
            · exact hn
            · exact (hs x hx).2
          · rintro ⟨⟨hm, hd⟩, hs⟩
            exact ⟨hd, fun x hx => ⟨fun e => hm (e ▸ hx), hs x (Or.inr hx)⟩⟩

theorem repeatedParam?_eq_none_iff {path : String} :
    repeatedParam? path = none ↔ (params path).Nodup := by
  simp [repeatedParam?, firstRepeat?_eq_none_iff]

/-! ## Shape -/

/-- A segment with the name of a placeholder left out. -/
def anonymous (segment : String) : String :=
  match placeholder? segment with
  | some _ => ":"
  | none => segment

/-- The path with the names of all placeholders left out. -/
def shape (path : String) : String := ofSegments ((segments path).map anonymous)

/-- A segment with a placeholder in braces, as the host writes it. -/
def braced (segment : String) : String :=
  match placeholder? segment with
  | some name => "\x7b" ++ name ++ "\x7d"
  | none => segment

/-- The path with all placeholders in braces. -/
def hostPattern (path : String) : String := ofSegments ((segments path).map braced)

/-! ## Matching -/

/-- Matches segment by segment; answers the captures from left to right. -/
def matchSegments : List String → List String → Option (List (String × String))
  | [], [] => some []
  | want :: wants, got :: gots =>
      match placeholder? want with
      | some name =>
          if got.isEmpty then none
          else (matchSegments wants gots).map ((name, got) :: ·)
      | none => if want = got then matchSegments wants gots else none
  | _, _ => none

/-- What the placeholders of a pattern capture of a path, if the pattern matches it; of several
placeholders of one name the last counts. -/
def captures? (pattern path : String) : Option Inputs :=
  (matchSegments (segments pattern) (segments path)).map Inputs.ofPairs

end Path
end ResourceRouting
