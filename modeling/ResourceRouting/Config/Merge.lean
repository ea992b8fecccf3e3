import ResourceRouting.Json.Value
import ResourceRouting.Text.Case
import ResourceRouting.Text.Digits

/-!
# Merge — layers of configuration

A configuration is gathered from layers, of which the later ones win. Tables are merged member by
member, and every other value replaces what it meets. A key at the top of a layer may be a path
with points and indices, so that it reaches into tables and lists.
-/

namespace ResourceRouting
namespace Config

/-! ## Merging -/

mutual

/-- Lays a value over another. -/
def merge (old : Json) : Json → Json
  | .object members => .object (mergeMembers (match old with | .object ms => ms | _ => []) members)
  | .null => .null
  | .bool b => .bool b
  | .number n => .number n
  | .string s => .string s
  | .array items => .array items

def mergeMembers (table : List (String × Json)) : List (String × Json) → List (String × Json)
  | [] => table
  | (name, value) :: rest =>
      let old := (table.lookup name).getD .null
      mergeMembers (Json.insertMember name (merge old value) table) rest

end

/-! ## Paths -/

inductive KeyStep
  | name (s : String)
  | index (i : Int)
  deriving DecidableEq, Repr

def isKeyChar (c : Char) : Bool := c.isAlphanum || c = '_' || c = '-'

/-- Reads the steps after the first name. -/
def keySteps? : Nat → List Char → Option (List KeyStep)
  | _, [] => some []
  | fuel + 1, '.' :: cs =>
      let name := cs.takeWhile isKeyChar
      if name.isEmpty then none
      else (keySteps? fuel (cs.drop name.length)).map (.name (String.ofList name) :: ·)
  | fuel + 1, '[' :: cs =>
      let isSpace (c : Char) : Bool := c = ' ' || c = '\t'
      let cs := cs.dropWhile isSpace
      let (negative, cs) :=
        match cs with
        | '-' :: rest => (true, rest)
        | rest => (false, rest)
      let digits := cs.takeWhile Char.isDigit
      let n : Int := Text.numberIn 10 digits
      match (cs.drop digits.length).dropWhile isSpace with
      | ']' :: rest =>
          if digits.isEmpty then none
          else (keySteps? fuel rest).map (.index (if negative then -n else n) :: ·)
      | _ => none
  | _, _ => none

/-- The path that a key writes; a key that writes none is a name as it stands. -/
def keyPath (key : String) : List KeyStep :=
  let cs := key.toList
  let root := cs.takeWhile isKeyChar
  if root.isEmpty then [.name key]
  else
    match keySteps? cs.length (cs.drop root.length) with
    | some steps => .name (String.ofList root) :: steps
    | none => [.name key]

/-- The place of an index in a list that is padded with nulls to have it; a negative index counts
from the end. -/
def padded (items : List Json) (i : Int) : List Json × Nat :=
  if 0 ≤ i then
    (items ++ List.replicate (i.toNat + 1 - items.length) .null, i.toNat)
  else
    -- a negative index beyond the front moves the items back
    let back := (-i).toNat
    if back ≤ items.length then (items, items.length - back)
    else (List.replicate (back - items.length) .null ++ items, 0)

/-- Lays a value over what stands at a path, making tables and lists on the way. -/
def setAt (value : Json) : List KeyStep → Json → Json
  | [], old => merge old value
  | .name n :: rest, parent =>
      let table := match parent with | .object ms => ms | _ => []
      let old := (table.lookup n).getD .null
      .object (Json.insertMember n (setAt value rest old) table)
  | .index i :: rest, parent =>
      let items := match parent with | .array items => items | _ => []
      let (items, place) := padded items i
      .array (items.set place (setAt value rest (items.getD place .null)))

/-- Adds a layer, its members one after the other. -/
def addLayer (base : Json) (layer : List (String × Json)) : Json :=
  layer.foldl (fun acc m => setAt m.2 (keyPath m.1) acc) base

/-! ## Environment -/

/-- What the names of variables begin with, in lower case. -/
def variableHead : String := "warren__"

/-- Replaces each pair of underscores by a point. -/
def pointed : List Char → List Char
  | '_' :: '_' :: cs => '.' :: pointed cs
  | c :: cs => c :: pointed cs
  | [] => []

/-- The words of a key: underscores, hyphens and spaces part them, and so does a change between a
letter and a digit. -/
def words : List Char → List (List Char)
  | [] => [[]]
  | [c] => if c = '_' || c = '-' || c = ' ' then [[], []] else [[c]]
  | c :: d :: cs =>
      let rest := words (d :: cs)
      if c = '_' || c = '-' || c = ' ' then [] :: rest
      -- there are no capitals left, so only digits make a boundary within a word
      else if (c.isLower && d.isDigit) || (c.isDigit && d.isLower) then [c] :: rest
      else
        match rest with
        | w :: ws => (c :: w) :: ws
        | [] => [[c]]

/-- The key with its words in lower case and one underscore between them. -/
def snakeCase (cs : List Char) : String :=
  Text.glue '_' (((words cs).filter fun w => !w.isEmpty).map String.ofList)

/-- The key of a variable, if it belongs to the configuration. -/
def variableKey? (name : String) : Option String :=
  let lower := (Text.lowered name).toList
  if variableHead.toList.isPrefixOf lower then
    some (snakeCase (pointed (lower.drop variableHead.toList.length)))
  else none

/-- The layer of an environment. Its values are texts, whatever they look like. -/
def environmentLayer (environment : List (String × String)) : List (String × Json) :=
  environment.filterMap fun v => (variableKey? v.1).map fun key => (key, .string v.2)

end Config
end ResourceRouting
