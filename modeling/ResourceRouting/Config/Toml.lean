import ResourceRouting.Json.Reader

/-!
# Toml — configuration files of tables and keys

A file is a run of statements: headers that open a table or append one to a list of tables, and
assignments of values to keys, which may be dotted. No key is given a value twice, no table is
opened twice, and a table that a dotted key or a value makes is closed to headers.
-/

namespace ResourceRouting
namespace Toml

/-! ## Text -/

abbrev Parse (α : Type) := List Char → Option (α × List Char)

def isBlank (c : Char) : Bool := c = ' ' || c = '\t'

def skipBlank (cs : List Char) : List Char := cs.dropWhile isBlank

/-- Skips a comment, if one stands here. -/
def skipComment : List Char → List Char
  | '#' :: cs => cs.dropWhile (· != '\n')
  | cs => cs

/-- Whether a character may stand in a text as it is. -/
def isPlain (c : Char) : Bool := c = '\t' || (0x20 ≤ c.toNat && c.toNat ≠ 0x7F)

/-- Skips white space, line ends and comments. -/
def skipLines : Nat → List Char → List Char
  | 0, cs => cs
  | fuel + 1, cs =>
      match skipComment (skipBlank cs) with
      | '\n' :: rest => skipLines fuel rest
      | rest => rest

/-- The character whose code hexadecimal digits write. -/
def charOf? (digits : List Char) : Option Char :=
  (Text.numberIn? 16 digits).bind Text.charOfCode?

/-- The character of a one-letter escape. -/
def escapeChar? : Char → Option Char
  | 'b' => some '\x08'
  | 't' => some '\t'
  | 'n' => some '\n'
  | 'f' => some '\x0c'
  | 'r' => some '\r'
  | '"' => some '"'
  | '\\' => some '\\'
  | _ => none

/-- A text in double quotes, from behind the opening one; `long` texts end at three quotes and may
hold line ends, which a backslash before them takes away together with the blanks that follow. -/
def basic (long : Bool) : Nat → List Char → Parse (List Char)
  | 0, _ => fun _ => none
  | fuel + 1, acc => fun cs =>
      match cs with
      -- up to two quotes may stand before the three that end a long text
      | '"' :: '"' :: '"' :: '"' :: '"' :: rest =>
          if long then some (('"' :: '"' :: acc).reverse, rest)
          else some (acc.reverse, '"' :: '"' :: '"' :: '"' :: rest)
      | '"' :: '"' :: '"' :: '"' :: rest =>
          if long then some (('"' :: acc).reverse, rest)
          else some (acc.reverse, '"' :: '"' :: '"' :: rest)
      | '"' :: '"' :: '"' :: rest =>
          if long then some (acc.reverse, rest) else some (acc.reverse, '"' :: '"' :: rest)
      | '"' :: rest =>
          if long then basic long fuel ('"' :: acc) rest else some (acc.reverse, rest)
      | '\\' :: 'u' :: a :: b :: c :: d :: rest => do
          basic long fuel ((← charOf? [a, b, c, d]) :: acc) rest
      | '\\' :: 'U' :: a :: b :: c :: d :: e :: f :: g :: h :: rest => do
          basic long fuel ((← charOf? [a, b, c, d, e, f, g, h]) :: acc) rest
      | '\\' :: c :: rest =>
          match escapeChar? c with
          | some d => basic long fuel (d :: acc) rest
          | none =>
              match skipBlank (c :: rest) with
              | '\n' :: more =>
                  if long then
                    basic long fuel acc (more.dropWhile fun c => isBlank c || c = '\n')
                  else none
              | _ => none
      | c :: rest =>
          if isPlain c || (long && c = '\n') then basic long fuel (c :: acc) rest else none
      | [] => none

/-- A text in single quotes, taken as it stands. -/
def literal (long : Bool) : Nat → List Char → Parse (List Char)
  | 0, _ => fun _ => none
  | fuel + 1, acc => fun cs =>
      match cs with
      | '\'' :: '\'' :: '\'' :: rest =>
          if long then
            let extra := (rest.takeWhile (· == '\'')).take 2
            some ((extra ++ acc).reverse, rest.drop extra.length)
          else some (acc.reverse, '\'' :: '\'' :: rest)
      | '\'' :: rest =>
          if long then literal long fuel ('\'' :: acc) rest else some (acc.reverse, rest)
      | c :: rest =>
          if isPlain c || (long && c = '\n') then literal long fuel (c :: acc) rest else none
      | [] => none

/-- Drops a line end at the very start of a long text. -/
def dropFirstLineEnd : List Char → List Char
  | '\n' :: cs => cs
  | cs => cs

/-- A text in quotes of any sort; long ones only where `long` allows it. -/
def quoted (long : Bool) : Parse String := fun cs =>
  let text : Option (List Char × List Char) :=
    match cs with
    | '"' :: '"' :: '"' :: rest =>
        if long then basic true (rest.length + 1) [] (dropFirstLineEnd rest)
        else basic false (cs.length + 1) [] ('"' :: '"' :: rest)
    | '"' :: rest => basic false (rest.length + 1) [] rest
    | '\'' :: '\'' :: '\'' :: rest =>
        if long then literal true (rest.length + 1) [] (dropFirstLineEnd rest)
        else literal false (cs.length + 1) [] ('\'' :: '\'' :: rest)
    | '\'' :: rest => literal false (rest.length + 1) [] rest
    | _ => none
  text.map fun t => (String.ofList t.1, t.2)

/-! ## Keys -/

def isBare (c : Char) : Bool := c.isAlphanum || c = '_' || c = '-'

def simpleKey : Parse String := fun cs =>
  match cs with
  | '"' :: _ | '\'' :: _ => quoted false cs
  | _ =>
      let key := cs.takeWhile isBare
      if key.isEmpty then none else some (String.ofList key, cs.drop key.length)

/-- A key with its points. -/
def key : Nat → Parse (List String)
  | 0 => fun _ => none
  | fuel + 1 => fun cs => do
      let (first, rest) ← simpleKey (skipBlank cs)
      match skipBlank rest with
      | '.' :: more =>
          let (others, rest) ← key fuel more
          return (first :: others, rest)
      | rest => return ([first], rest)

/-! ## Scalars -/

/-- Digits with single underscores between them, without the underscores. -/
def plainDigits? (isDigit : Char → Bool) (cs : List Char) : Option (List Char) :=
  let groups := Text.cutChars '_' cs
  if groups.all fun g => !g.isEmpty && g.all isDigit then some groups.flatten else none

def ranged (n : Int) : Option Json :=
  if fitsSigned n then some (.number (.int n)) else none

/-- An integer in a base, without a sign. -/
def basedInt? (base : Nat) (cs : List Char) : Option Json :=
  (plainDigits? (Text.isDigitIn base) cs).bind fun ds => ranged (Text.numberIn base ds)

def decimalInt? (negative : Bool) (cs : List Char) : Option Json := do
  let digits ← plainDigits? Char.isDigit cs
  if digits.head? == some '0' && digits.length != 1 then none
  let n : Int := Text.numberIn 10 digits
  ranged (if negative then -n else n)

/-- A number beyond all finite ones, or none at all. -/
def notFinite (negative : Bool) : Json := .number (.double ⟨negative, twoTo 53, 971⟩)

def float? (cs : List Char) : Option Json := do
  let body := match cs with
    | '+' :: rest => rest
    | rest => rest
  let parts := body.takeWhile fun c => c != 'e' && c != 'E'
  let _ ← (Text.cutChars '.' (parts.filter (· != '-'))).mapM (plainDigits? Char.isDigit)
  (Json.readNumber (body.filter (· != '_'))).map .number

def number? (cs : List Char) : Option Json :=
  let (negative, signed, body) :=
    match cs with
    | '-' :: rest => (true, true, rest)
    | '+' :: rest => (false, true, rest)
    | rest => (false, false, rest)
  if body == ['i', 'n', 'f'] || body == ['n', 'a', 'n'] then some (notFinite negative)
  else
    match body with
    | '0' :: 'x' :: digits =>
        if signed then none else basedInt? 16 digits
    | '0' :: 'o' :: digits =>
        if signed then none else basedInt? 8 digits
    | '0' :: 'b' :: digits =>
        if signed then none else basedInt? 2 digits
    | _ =>
        if body.any fun c => c = '.' || c = 'e' || c = 'E' then float? cs
        else decimalInt? negative body

/-- Whether characters follow a pattern in which `0` stands for any digit. -/
def follows (pattern : String) (cs : List Char) : Bool :=
  pattern.toList.length == cs.length &&
    (pattern.toList.zip cs).all fun p => if p.1 = '0' then p.2.isDigit else p.1 == p.2

/-- Whether a text begins like a date or a time of day. -/
def isMoment (cs : List Char) : Bool :=
  follows "0000-00-00" (cs.take 10) || follows "00:00:00" (cs.take 8)

def scalar (cs : List Char) : Option Json :=
  match String.ofList cs with
  | "true" => some (.bool true)
  | "false" => some (.bool false)
  | s => if isMoment cs then some (.string s) else number? cs

def isScalarChar (c : Char) : Bool :=
  c.isAlphanum || c = '+' || c = '-' || c = '.' || c = '_' || c = ':'

/-- The characters of a scalar; a date may be followed by a blank and a time. -/
def scalarChars (cs : List Char) : List Char :=
  let word := cs.takeWhile isScalarChar
  match cs.drop word.length with
  | ' ' :: rest =>
      if follows "0000-00-00" word && isMoment (rest.take 8) then
        word ++ ' ' :: rest.takeWhile isScalarChar
      else word
  | _ => word

/-! ## Tables -/

/-- How a table came to be: on the way to another one, by a header of its own, or by a dotted
key. -/
inductive Origin
  | implied
  | header
  | dotted
  deriving DecidableEq, Repr

/-- A value, a table, or a list of tables with the last one first. -/
inductive Node
  | value (v : Json)
  | table (origin : Origin) (entries : List (String × Node))
  | tables (items : List (List (String × Node)))

abbrev Entries := List (String × Node)

def replace (key : String) (node : Node) (es : Entries) : Entries :=
  es.map fun e => if e.1 = key then (key, node) else e

/-- Gives a value to a dotted key. -/
def assign (v : Json) : List String → Entries → Option Entries
  | [], _ => none
  | [k], es => if (es.lookup k).isSome then none else some (es ++ [(k, .value v)])
  | k :: ks, es =>
      match es.lookup k with
      | none => (assign v ks []).map fun sub => es ++ [(k, .table .dotted sub)]
      | some (.table .dotted sub) =>
          (assign v ks sub).map fun sub => replace k (.table .dotted sub) es
      | some _ => none

/-- Walks along a path, making tables on the way, and changes the entry at its end. -/
def atHeader (change : Option Node → Option Node) : List String → Entries → Option Entries
  | [], _ => none
  | [k], es =>
      match es.lookup k with
      | none => (change none).map fun n => es ++ [(k, n)]
      | some old => (change (some old)).map fun n => replace k n es
  | k :: ks, es =>
      match es.lookup k with
      | none => (atHeader change ks []).map fun sub => es ++ [(k, .table .implied sub)]
      | some (.table origin sub) =>
          (atHeader change ks sub).map fun sub => replace k (.table origin sub) es
      | some (.tables (last :: before)) =>
          (atHeader change ks last).map fun last => replace k (.tables (last :: before)) es
      | some _ => none

/-- Opens a table. -/
def openTable : List String → Entries → Option Entries :=
  atHeader fun
    | none => some (.table .header [])
    | some (.table .implied sub) => some (.table .header sub)
    | some _ => none

/-- Appends a table to a list. -/
def openItem : List String → Entries → Option Entries :=
  atHeader fun
    | none => some (.tables [[]])
    | some (.tables items) => some (.tables ([] :: items))
    | some _ => none

/-- Changes the entries of the table that is open. -/
def within (change : Entries → Option Entries) : List String → Entries → Option Entries
  | [], es => change es
  | k :: ks, es =>
      match es.lookup k with
      | some (.table origin sub) =>
          (within change ks sub).map fun sub => replace k (.table origin sub) es
      | some (.tables (last :: before)) =>
          (within change ks last).map fun last => replace k (.tables (last :: before)) es
      | _ => none

mutual

def Node.json : Node → Json
  | .value v => v
  | .table _ entries => Json.ofMembers (entriesJson entries)
  | .tables items => .array (itemsJson items).reverse

def entriesJson : List (String × Node) → List (String × Json)
  | [] => []
  | (k, n) :: rest => (k, n.json) :: entriesJson rest

def itemsJson : List (List (String × Node)) → List Json
  | [] => []
  | es :: rest => Json.ofMembers (entriesJson es) :: itemsJson rest

end

/-! ## Values -/

mutual

def value : Nat → Parse Json
  | 0 => fun _ => none
  | fuel + 1 => fun cs =>
      match cs with
      | '"' :: _ | '\'' :: _ => (quoted true cs).map fun t => (.string t.1, t.2)
      | '[' :: rest => (items fuel [] rest).map fun t => (.array t.1, t.2)
      | '\x7b' :: rest =>
          match skipBlank rest with
          | '\x7d' :: rest => some (.object [], rest)
          | rest => (fields fuel [] rest).map fun t => ((Node.table .dotted t.1).json, t.2)
      | _ =>
          let word := scalarChars cs
          (scalar word).map fun v => (v, cs.drop word.length)

/-- The rest of a list, from behind its bracket or a comma. -/
def items : Nat → List Json → Parse (List Json)
  | 0, _ => fun _ => none
  | fuel + 1, acc => fun cs =>
      match skipLines (cs.length + 1) cs with
      | ']' :: rest => some (acc.reverse, rest)
      | cs => do
          let (v, rest) ← value fuel cs
          match skipLines (rest.length + 1) rest with
          | ',' :: rest => items fuel (v :: acc) rest
          | ']' :: rest => return ((v :: acc).reverse, rest)
          | _ => none

/-- The rest of a table in braces, from behind its brace or a comma. -/
def fields : Nat → Entries → Parse Entries
  | 0, _ => fun _ => none
  | fuel + 1, es => fun cs => do
      let (k, rest) ← key (cs.length + 1) cs
      match rest with
      | '=' :: rest =>
          let (v, rest) ← value fuel (skipBlank rest)
          let es ← assign v k es
          match skipBlank rest with
          | ',' :: rest => fields fuel es rest
          | '\x7d' :: rest => return (es, rest)
          | _ => none
      | _ => none

end

/-! ## Files -/

/-- A file under way: its entries and the path of the table that is open. -/
structure File where
  entries : Entries := []
  path : List String := []

/-- Ends a statement: only a comment may follow on its line. -/
def endLine (cs : List Char) : Option (List Char) :=
  match skipComment (skipBlank cs) with
  | [] => some []
  | '\n' :: rest => some rest
  | _ => none

/-- Reads a header, from behind its brackets. -/
def header (file : File) (close : List Char) (opener : List String → Entries → Option Entries)
    (cs : List Char) : Option (File × List Char) := do
  let (path, rest) ← key (cs.length + 1) cs
  if close.isPrefixOf rest then
    let entries ← opener path file.entries
    return ({ entries, path }, ← endLine (rest.drop close.length))
  else none

/-- Reads an assignment. -/
def assignment (file : File) (cs : List Char) : Option (File × List Char) := do
  let (k, rest) ← key (cs.length + 1) cs
  match rest with
  | '=' :: rest =>
      let (v, rest) ← value (rest.length + 1) (skipBlank rest)
      let entries ← within (assign v k) file.path file.entries
      return ({ file with entries }, ← endLine rest)
  | _ => none

def statements : Nat → File → List Char → Option File
  | 0, _, _ => none
  | fuel + 1, file, cs =>
      match skipLines (cs.length + 1) cs with
      | [] => some file
      | '[' :: '[' :: rest => do
          let (file, rest) ← header file [']', ']'] openItem rest
          statements fuel file rest
      | '[' :: rest => do
          let (file, rest) ← header file [']'] openTable rest
          statements fuel file rest
      | cs => do
          let (file, rest) ← assignment file cs
          statements fuel file rest

/-- Line ends of two characters as one. -/
def unifyLineEnds : List Char → List Char
  | '\r' :: '\n' :: cs => '\n' :: unifyLineEnds cs
  | c :: cs => c :: unifyLineEnds cs
  | [] => []

/-- The table that a file writes. -/
def read? (s : String) : Option Json := do
  let cs := unifyLineEnds s.toList
  let file ← statements (cs.length + 1) {} cs
  return Json.ofMembers (entriesJson file.entries)

end Toml
end ResourceRouting
