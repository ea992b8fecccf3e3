import ResourceRouting.Json.Reader

/-!
# Scalar — texts of a YAML document

A scalar is plain, quoted, or a block of lines. Line ends inside plain and quoted scalars are
folded: one of them becomes a blank, and of several the first is dropped. A plain scalar may write
`null`, a switch or a number; any other one, and every quoted one, is a text.
-/

namespace ResourceRouting
namespace Yaml

/-! ## Places -/

/-- Where a document is being read: the column, what is left of it, and the anchored nodes. -/
structure Place where
  column : Nat := 0
  rest : List Char
  anchors : List (String × Json) := []

namespace Place

def step (p : Place) : Place :=
  match p.rest with
  | [] => p
  | '\n' :: cs => { p with column := 0, rest := cs }
  | _ :: cs => { p with column := p.column + 1, rest := cs }

def drop (n : Nat) (p : Place) : Place := n.fold (fun _ _ q => q.step) p

end Place

def isBlank (c : Char) : Bool := c = ' ' || c = '\t'

/-- Whether nothing, a blank or a line end comes next. -/
def atGap : List Char → Bool
  | [] => true
  | c :: _ => isBlank c || c = '\n'

/-! ## Folding -/

/-- What stands since the last character of a text: blanks in reverse, or line ends. The count is
of those after the first; an escaped line end does not become a blank. -/
inductive Gap
  | blanks (cs : List Char)
  | lineEnds (more : Nat) (escaped : Bool)

/-- A text under way, in reverse, and the gap after it. -/
structure Folded where
  done : List Char := []
  gap : Gap := .blanks []

namespace Folded

/-- The characters that a gap amounts to, in reverse. -/
def gapText : Gap → List Char
  | .blanks cs => cs
  | .lineEnds 0 false => [' ']
  | .lineEnds 0 true => []
  | .lineEnds more _ => List.replicate more '\n'

def blank (t : Folded) (c : Char) : Folded :=
  match t.gap with
  | .blanks cs => { t with gap := .blanks (c :: cs) }
  | .lineEnds _ _ => t

def lineEnd (t : Folded) : Folded :=
  match t.gap with
  | .blanks _ => { t with gap := .lineEnds 0 false }
  | .lineEnds more escaped => { t with gap := .lineEnds (more + 1) escaped }

def settle (t : Folded) : Folded := { done := gapText t.gap ++ t.done }

def push (t : Folded) (c : Char) : Folded := { done := c :: (gapText t.gap ++ t.done) }

/-- A line end behind a backslash: the blanks before it stay. -/
def escapedLineEnd (t : Folded) : Folded := { t.settle with gap := .lineEnds 0 true }

/-- The text without the gap at its end. -/
def text (t : Folded) : String := String.ofList t.done.reverse

end Folded

/-! ## Quoted scalars -/

def escapeChar? : Char → Option Char
  | '0' => some '\x00'
  | 'a' => some '\x07'
  | 'b' => some '\x08'
  | 't' | '\t' => some '\t'
  | 'n' => some '\n'
  | 'v' => some '\x0b'
  | 'f' => some '\x0c'
  | 'r' => some '\r'
  | 'e' => some '\x1b'
  | ' ' => some ' '
  | '"' => some '"'
  | '/' => some '/'
  | '\\' => some '\\'
  | 'N' => some '\u0085'
  | '_' => some '\u00a0'
  | 'L' => some '\u2028'
  | 'P' => some '\u2029'
  | _ => none

/-- The number of digits of a code behind its letter. -/
def codeLength? : Char → Option Nat
  | 'x' => some 2
  | 'u' => some 4
  | 'U' => some 8
  | _ => none

/-- The rest of a scalar in single quotes; two of them stand for one. -/
def singleQuoted : Nat → Folded → Place → Option (String × Place)
  | 0, _, _ => none
  | fuel + 1, t, p =>
      match p.rest with
      | '\'' :: '\'' :: _ => singleQuoted fuel (t.push '\'') (p.drop 2)
      | '\'' :: _ => some (t.settle.text, p.step)
      | '\n' :: _ => singleQuoted fuel t.lineEnd p.step
      | c :: _ => singleQuoted fuel (if isBlank c then t.blank c else t.push c) p.step
      | [] => none

/-- The rest of a scalar in double quotes. -/
def doubleQuoted : Nat → Folded → Place → Option (String × Place)
  | 0, _, _ => none
  | fuel + 1, t, p =>
      match p.rest with
      | '"' :: _ => some (t.settle.text, p.step)
      | '\\' :: '\n' :: _ => doubleQuoted fuel t.escapedLineEnd (p.drop 2)
      | '\\' :: c :: cs =>
          match codeLength? c with
          | some n => do
              if cs.length < n then none
              let code ← Text.numberIn? 16 (cs.take n)
              doubleQuoted fuel (t.push (← Text.charOfCode? code)) (p.drop (n + 2))
          | none => do doubleQuoted fuel (t.push (← escapeChar? c)) (p.drop 2)
      | '\n' :: _ => doubleQuoted fuel t.lineEnd p.step
      | c :: _ => doubleQuoted fuel (if isBlank c then t.blank c else t.push c) p.step
      | [] => none

/-- A scalar in quotes of either sort, from its opening one on. -/
def quoted (p : Place) : Option (String × Place) :=
  match p.rest with
  | '"' :: cs => doubleQuoted (cs.length + 1) {} p.step
  | '\'' :: cs => singleQuoted (cs.length + 1) {} p.step
  | _ => none

/-! ## Plain scalars -/

def isFlowMark (c : Char) : Bool :=
  c = ',' || c = '[' || c = ']' || c = '\x7b' || c = '\x7d'

/-- Whether a plain scalar may begin here. -/
def beginsPlain (flow : Bool) : List Char → Bool
  | [] => false
  | c :: cs =>
      if c = '-' || c = '?' || c = ':' then
        !atGap cs && !(flow && cs.head?.any isFlowMark)
      else !("#&*!|>'\"%@\x60,[]\x7b\x7d \t\n".toList.contains c)

/-- Whether a colon here parts a key from its value. -/
def atValueMark (flow : Bool) : List Char → Bool
  | ':' :: cs => atGap cs || (flow && cs.head?.any isFlowMark)
  | _ => false

/-- The rest of a plain scalar. Its further lines stand at column `least` or beyond; a scalar that
is to be a key has one line only. The place that is answered is behind its last character. -/
def plainFrom (flow oneLine : Bool) (least : Nat) :
    Nat → Folded → Place → Place → Folded × Place
  | 0, t, last, _ => (t, last)
  | fuel + 1, t, last, p =>
      match p.rest with
      | [] => (t, last)
      | '\n' :: _ =>
          if oneLine then (t, last) else plainFrom flow oneLine least fuel t.lineEnd last p.step
      | c :: _ =>
          if isBlank c then plainFrom flow oneLine least fuel (t.blank c) last p.step
          else
            -- a further line too far to the left, a comment or a colon ends the scalar
            let continued := match t.gap with | .lineEnds _ _ => true | .blanks _ => false
            let spaced := match t.gap with | .blanks [] => false | _ => true
            if (continued && p.column < least) || (c = '#' && spaced && !t.done.isEmpty) ||
                atValueMark flow p.rest || (flow && isFlowMark c) then (t, last)
            else plainFrom flow oneLine least fuel (t.push c) p.step p.step

/-- A plain scalar. -/
def plain (flow oneLine : Bool) (least : Nat) (p : Place) : Option (String × Place) :=
  if beginsPlain flow p.rest then
    let (t, p) := plainFrom flow oneLine least (p.rest.length + 1) {} p p
    some (t.text, p)
  else none

/-! ## Blocks of lines -/

/-- What becomes of the line ends at the end of a block. -/
inductive Chomp
  | strip
  | clip
  | keep
  deriving DecidableEq, Repr

/-- The marks behind the sign of a block: an indentation and a way to chomp, in any order. -/
def blockMarks : List Char → Option Nat → Chomp → Option Nat × Chomp × List Char
  | '+' :: cs, indent?, _ => blockMarks cs indent? .keep
  | '-' :: cs, indent?, _ => blockMarks cs indent? .strip
  | c :: cs, indent?, chomp =>
      if '1' ≤ c && c ≤ '9' then blockMarks cs (some (c.toNat - '0'.toNat)) chomp
      else (indent?, chomp, c :: cs)
  | [], indent?, chomp => (indent?, chomp, [])

def indentOf (line : List Char) : Nat := (line.takeWhile (· == ' ')).length

def isEmptyLine (line : List Char) : Bool := line.all (· == ' ')

/-- Folds lines. Between two lines that both begin at the margin, a single line end is a blank, and
of several the first is dropped; elsewhere all of them stay. -/
def foldLines (before? : Option (List Char)) (blanks : Nat) : List (List Char) → List Char
  | [] => []
  | [] :: rest => foldLines before? (blanks + 1) rest
  | (c :: cs) :: rest =>
      let joint : List Char :=
        match before? with
        | none => []
        | some before =>
            if before.head?.any isBlank || isBlank c then ['\n']
            else if blanks = 0 then [' ']
            else []
      joint ++ List.replicate blanks '\n' ++ c :: cs ++ foldLines (some (c :: cs)) 0 rest

/-- A block of lines from behind its sign; `margin` is the least column of its lines. -/
def block (literal : Bool) (margin : Nat) (p : Place) : Option (String × Place) := do
  let (indent?, chomp, header) := blockMarks (p.rest.drop 1) none .clip
  let headerLine := header.takeWhile (· != '\n')
  let after := headerLine.dropWhile isBlank
  if !after.isEmpty && !(after.head? == some '#' && headerLine.head?.any isBlank) then none
  let lines := Text.cutChars '\n' (header.drop (headerLine.length + 1))
  let indent :=
    match indent? with
    | some n => (margin - 1) + n
    | none =>
        max margin (((lines.find? fun l => !isEmptyLine l).map indentOf).getD margin)
  -- an empty line belongs to the block however short it is
  let mine := lines.takeWhile fun l => isEmptyLine l || indent ≤ indentOf l
  let content := (mine.map (·.drop indent)).reverse.dropWhile (·.isEmpty)
  let trailing := mine.length - content.length
  let body := content.reverse
  let joined :=
    if literal then Text.glueChars '\n' body else foldLines none 0 body
  let ends :=
    match chomp with
    | .strip => 0
    | .clip => if body.isEmpty then 0 else 1
    | .keep => if mine.length = lines.length then trailing else trailing + 1
  let left := lines.drop mine.length
  let rest := Text.glueChars '\n' left
  return (String.ofList (joined ++ List.replicate ends '\n'), { p with column := 0, rest })

/-! ## Meaning of plain scalars -/

/-- What a plain scalar writes. -/
inductive Meaning
  | null
  | bool (b : Bool)
  | int (n : Int)
  | real (x? : Option Json.Double)
  | text
  deriving DecidableEq, Repr

/-- An integer of 64 bits with a sign in a base. -/
def intIn? (base : Nat) (cs : List Char) : Option Int :=
  let (negative, digits) :=
    match cs with
    | '-' :: rest => (true, rest)
    | '+' :: rest => (false, rest)
    | rest => (false, rest)
  (Text.numberIn? base digits).bind fun size =>
    let n : Int := if negative then -size else size
    if fitsSigned n then some n else none

/-- A decimal number with a point or an exponent. One beyond all finite numbers stands for the
largest. -/
def decimal? (cs : List Char) : Option Json.Double := do
  let (negative, body) :=
    match cs with
    | '-' :: rest => (true, rest)
    | '+' :: rest => (false, rest)
    | rest => (false, rest)
  let whole := body.takeWhile Char.isDigit
  let (fraction, rest) :=
    match body.drop whole.length with
    | '.' :: cs => (cs.takeWhile Char.isDigit, cs.dropWhile Char.isDigit)
    | cs => ([], cs)
  if whole.isEmpty && fraction.isEmpty then none
  let (exponent?, rest) ← Json.exponentPart rest
  if !rest.isEmpty then none
  let n := Text.numberIn 10 (whole ++ fraction)
  let scale : Int := exponent?.getD 0 - fraction.length
  let (num, den) := Json.Double.scaled n (max (-2000) (min 2000 scale))
  return { (Json.Double.nearest? num den).getD ⟨false, twoTo 53 - 1, 971⟩ with negative }

def infinities : List String :=
  [".inf", ".Inf", ".INF", "+.inf", "+.Inf", "+.INF", "-.inf", "-.Inf", "-.INF",
    ".nan", ".NaN", ".NAN"]

/-- The meaning of a plain scalar. A number that is not finite has no value here. -/
def meaning (s : String) : Meaning :=
  let cs := s.toList
  let based : Option Int :=
    match cs with
    | '0' :: 'x' :: digits => intIn? 16 digits
    | '0' :: 'o' :: digits => intIn? 8 digits
    | _ => none
  match based with
  | some n => .int n
  | none =>
      if s = "" || s = "~" || s = "null" then .null
      else if s = "true" then .bool true
      else if s = "false" then .bool false
      else
        match intIn? 10 cs with
        | some n => .int n
        | none =>
            if infinities.contains s then .real none
            else
              match decimal? cs with
              | some x => .real (some x)
              | none => .text

/-- The value of a plain scalar; a number that is not finite is refused. -/
def valueOf? (s : String) : Option Json :=
  match meaning s with
  | .null => some .null
  | .bool b => some (.bool b)
  | .int n => some (.number (.int n))
  | .real x? => x?.map fun x => .number (.double x)
  | .text => some (.string s)

/-- The name that a plain scalar gives to a member; `null` gives none. -/
def nameOf? (s : String) : Option String :=
  match meaning s with
  | .null => none
  | .bool b => some (if b then "true" else "false")
  | .int n => some (toString n)
  | .real _ | .text => some s

end Yaml
end ResourceRouting
