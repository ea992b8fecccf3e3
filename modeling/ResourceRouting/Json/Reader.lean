import ResourceRouting.Json.Token

/-!
# Reader — from tokens to a value

The reader keeps one frame per open bracket and takes one token at a time, so that the height of
its stack is the depth of nesting. Objects come out sorted by name with the last of equal names.
-/

namespace ResourceRouting
namespace Json

/-- An open array or object, the finished parts in reverse. -/
inductive Frame
  | array (items : List Json)
  | object (members : List (String × Json)) (name : String)
  deriving Repr

/-- What may come next: a value, a value or the end of an array, a name or the end of an object,
a name, a colon, or whatever may follow a value. -/
inductive Expect
  | value
  | valueOrEnd
  | nameOrEnd
  | name
  | colon
  | follow
  deriving DecidableEq, Repr

structure Reader where
  expect : Expect := .value
  stack : List Frame := []
  result : Option Json := none
  deriving Repr

/-- Hands a finished value to the innermost frame. -/
def Reader.finish (r : Reader) (v : Json) : Reader :=
  match r.stack with
  | [] => ⟨.follow, [], some v⟩
  | .array items :: rest => ⟨.follow, .array (v :: items) :: rest, none⟩
  | .object members name :: rest => ⟨.follow, .object ((name, v) :: members) name :: rest, none⟩

/-- Opens a bracket if no more than `depth` are open then. -/
def Reader.push (depth : Nat) (r : Reader) (f : Frame) (e : Expect) : Option Reader :=
  if r.stack.length < depth then some ⟨e, f :: r.stack, none⟩ else none

/-- Closes the innermost bracket. -/
def Reader.pop (r : Reader) : Option Reader :=
  match r.stack with
  | [] => none
  | .array items :: rest => some (Reader.finish ⟨.follow, rest, none⟩ (.array items.reverse))
  | .object members _ :: rest =>
      some (Reader.finish ⟨.follow, rest, none⟩ (ofMembers members.reverse))

def Reader.step (depth : Nat) (r : Reader) (t : Token) : Option Reader :=
  match r.expect, t with
  | .value, .value v | .valueOrEnd, .value v => some (r.finish v)
  | .value, .text s | .valueOrEnd, .text s => some (r.finish (.string s))
  | .value, .openBracket | .valueOrEnd, .openBracket => r.push depth (.array []) .valueOrEnd
  | .value, .openBrace | .valueOrEnd, .openBrace => r.push depth (.object [] "") .nameOrEnd
  | .valueOrEnd, .closeBracket => r.pop
  | .nameOrEnd, .closeBrace => r.pop
  -- the frame keeps the name until its value is there
  | .nameOrEnd, .text s | .name, .text s =>
      match r.stack with
      | .object members _ :: rest => some ⟨.colon, .object members s :: rest, none⟩
      | _ => none
  | .colon, .colon => some { r with expect := .value }
  -- after a comma there is no way to close the bracket
  | .follow, .comma =>
      match r.stack with
      | .array _ :: _ => some { r with expect := .value }
      | .object _ _ :: _ => some { r with expect := .name }
      | [] => none
  | .follow, .closeBracket =>
      match r.stack with
      | .array _ :: _ => r.pop
      | _ => none
  | .follow, .closeBrace =>
      match r.stack with
      | .object _ _ :: _ => r.pop
      | _ => none
  | _, _ => none

/-- The value of a whole text that nests no deeper than `depth`. -/
def read? (depth : Nat) (s : String) : Option Json := do
  let ts ← tokens? s
  let r ← ts.foldlM (Reader.step depth) ({} : Reader)
  r.result

/-- How deep a text from outside may nest. -/
def maxDepth : Nat := 127

end Json
end ResourceRouting
