import ResourceRouting.Json.Double
import ResourceRouting.Text.Pieces

/-!
# Json — values and their compact text

Members of an object are kept in the order in which they are written: a document chooses its own
order, and an object of free content is built by `Json.ofMembers`, which sorts the names and keeps
the last value of each.
-/

namespace ResourceRouting

/-- A number is an integer where its text is one that fits 64 bits, else a double. -/
inductive Json.Number
  | int (n : Int)
  | double (x : Json.Double)
  deriving DecidableEq, Repr

inductive Json
  | null
  | bool (b : Bool)
  | number (n : Json.Number)
  | string (s : String)
  | array (items : List Json)
  | object (members : List (String × Json))
  deriving Repr, Inhabited

namespace Json

/-! ## Building -/

def nat (n : Nat) : Json := .number (.int n)

def strings (items : List String) : Json := .array (items.map .string)

/-- A string, or `null` for nothing. -/
def ofString? : Option String → Json
  | some s => .string s
  | none => .null

/-- A member that is left out when there is no value. -/
def optional (name : String) : Option Json → List (String × Json)
  | some value => [(name, value)]
  | none => []

/-- Puts a member into a list that is sorted by name, in place of one of the same name. -/
def insertMember (name : String) (value : Json) : List (String × Json) → List (String × Json)
  | [] => [(name, value)]
  | (other, old) :: rest =>
      if name < other then (name, value) :: (other, old) :: rest
      else if name = other then (name, value) :: rest
      else (other, old) :: insertMember name value rest

/-- The object with the given members, sorted by name, the last of equal names kept. -/
def ofMembers (members : List (String × Json)) : Json :=
  .object (members.foldl (fun sorted m => insertMember m.1 m.2 sorted) [])

/-! ## Taking apart -/

/-- The value of a member of an object. -/
def member? (name : String) : Json → Option Json
  | .object members => members.lookup name
  | _ => none

def string? : Json → Option String
  | .string s => some s
  | _ => none

def bool? : Json → Option Bool
  | .bool b => some b
  | _ => none

def int? : Json → Option Int
  | .number (.int n) => some n
  | _ => none

def array? : Json → Option (List Json)
  | .array items => some items
  | _ => none

def isNull : Json → Bool
  | .null => true
  | _ => false

/-! ## Compact text -/

/-- A hexadecimal digit in lower case. -/
def hexDigit (n : Nat) : Char := Nat.digitChar n

/-- The written form of one character inside quotes. -/
def escapedChar (c : Char) : List Char :=
  if c = '"' then ['\\', '"']
  else if c = '\\' then ['\\', '\\']
  else if c = '\n' then ['\\', 'n']
  else if c = '\r' then ['\\', 'r']
  else if c = '\t' then ['\\', 't']
  else if c = '\x08' then ['\\', 'b']
  else if c = '\x0c' then ['\\', 'f']
  else if c.toNat < 0x20 then
    ['\\', 'u', '0', '0', hexDigit (c.toNat / 16), hexDigit (c.toNat % 16)]
  else [c]

/-- A string in quotes. -/
def quoted (s : String) : String :=
  String.ofList ('"' :: s.toList.flatMap escapedChar ++ ['"'])

def Number.text : Number → String
  | .int n => toString n
  | .double x => x.text

mutual

/-- The text without any white space between tokens. -/
def text : Json → String
  | .null => "null"
  | .bool true => "true"
  | .bool false => "false"
  | .number n => n.text
  | .string s => quoted s
  | .array items => "[" ++ Text.commaList (itemTexts items) ++ "]"
  | .object members => "\x7b" ++ Text.commaList (memberTexts members) ++ "\x7d"

def itemTexts : List Json → List String
  | [] => []
  | item :: rest => item.text :: itemTexts rest

def memberTexts : List (String × Json) → List String
  | [] => []
  | (name, value) :: rest => (quoted name ++ ":" ++ value.text) :: memberTexts rest

end

end Json
end ResourceRouting
