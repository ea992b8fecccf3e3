import ResourceRouting.Json.Value
import ResourceRouting.Text.Digits

/-!
# Token — the lexemes of a JSON text

A scanner with one state per kind of lexeme goes through the text one character at a time. It
holds at most one unfinished lexeme, so scanning is a fold over the characters.
-/

namespace ResourceRouting
namespace Json

inductive Token
  | openBracket
  | closeBracket
  | openBrace
  | closeBrace
  | comma
  | colon
  | text (s : String)
  | value (v : Json)
  deriving Repr

/-! ## Numbers -/

/-- Splits off the leading digits. -/
def spanDigits (cs : List Char) : List Char × List Char := cs.span Char.isDigit

/-- Takes digits into a number while it stays below `2 ^ 64`; answers the number, how many digits
were taken and how many were left. -/
def takeDigits : Nat → List Char → Nat × Nat × Nat
  | n, [] => (n, 0, 0)
  | n, c :: cs =>
      let next := 10 * n + (Text.digitIn? 10 c).getD 0
      if next < twoTo 64 then
        let (m, taken, left) := takeDigits next cs
        (m, taken + 1, left)
      else (n, 0, cs.length + 1)

/-- The number with the given sign, whole digits, fraction and exponent. Digits that no longer
fit 64 bits are dropped: those before the point still count as places, those after it do not. An
integer outside of the signed and unsigned range of 64 bits is a double, and so is `-0`. -/
def numberOf (negative : Bool) (whole : List Char) (fraction? : Option (List Char))
    (exponent? : Option Int) : Option Number :=
  -- digits that are dropped before the point still move it
  let (n, _, dropped) := takeDigits 0 whole
  let asDouble (m : Nat) (places : Int) : Option Number :=
    (Double.ofDecimal? negative m (places + exponent?.getD 0)).map .double
  match fraction?, exponent? with
  | none, none =>
      if dropped = 0 then
        if negative then
          -- minus zero is a double, as no integer writes it
          if 0 < n && n ≤ twoTo 63 then some (.int (-n)) else asDouble n 0
        else some (.int n)
      else asDouble n dropped
  | none, some _ => asDouble n dropped
  | some fraction, _ =>
      let (m, taken, _) := takeDigits n fraction
      asDouble m ((dropped : Int) - taken)

/-- The exponent part of a number, from its letter on: the value and what follows. -/
def exponentPart : List Char → Option (Option Int × List Char)
  | c :: cs =>
      if c = 'e' || c = 'E' then
        let (negative, ds) :=
          match cs with
          | '-' :: ds => (true, ds)
          | '+' :: ds => (false, ds)
          | ds => (false, ds)
        let (digits, rest) := spanDigits ds
        if digits.isEmpty then none
        else
          let e : Int := Text.numberIn 10 digits
          some (some (if negative then -e else e), rest)
      else some (none, c :: cs)
  | [] => some (none, [])

/-- Reads a number: a sign, digits without a leading zero, a fraction and an exponent. -/
def readNumber (cs : List Char) : Option Number := do
  let (negative, cs) :=
    match cs with
    | '-' :: cs => (true, cs)
    | cs => (false, cs)
  let (whole, cs) := spanDigits cs
  if whole.isEmpty || (whole.head? == some '0' && whole.length != 1) then none
  let (fraction?, cs) ←
    match cs with
    | '.' :: cs =>
        let (digits, rest) := spanDigits cs
        if digits.isEmpty then none else some (some digits, rest)
    | cs => some (none, cs)
  let (exponent?, cs) ← exponentPart cs
  if cs.isEmpty then numberOf negative whole fraction? exponent? else none

/-! ## Scanning -/

/-- What the scanner is inside of; text gathered so far is kept in reverse. -/
inductive Lexeme
  | between
  | word (acc : List Char)
  | number (acc : List Char)
  | quotes (acc : List Char)
  | escape (acc : List Char)
  | code (acc : List Char) (digits : List Char)
  | lowCode (acc : List Char) (high : Nat) (digits : List Char)
  | lowEscape (acc : List Char) (high : Nat)
  | lowMark (acc : List Char) (high : Nat)
  deriving Repr

/-- A scanner: the lexeme it is inside of and the finished tokens in reverse. -/
structure Scanner where
  lexeme : Lexeme := .between
  done : List Token := []
  deriving Repr

/-- The character that a one-letter escape stands for. -/
def unescaped? : Char → Option Char
  | '"' => some '"'
  | '\\' => some '\\'
  | '/' => some '/'
  | 'b' => some '\x08'
  | 'f' => some '\x0c'
  | 'n' => some '\n'
  | 'r' => some '\r'
  | 't' => some '\t'
  | _ => none

def word? : List Char → Option Json
  | ['t', 'r', 'u', 'e'] => some (.bool true)
  | ['f', 'a', 'l', 's', 'e'] => some (.bool false)
  | ['n', 'u', 'l', 'l'] => some .null
  | _ => none

/-- Ends a word or a number; refuses to end inside of quotes. -/
def Scanner.settle (s : Scanner) : Option Scanner :=
  match s.lexeme with
  | .between => some s
  | .word acc => (word? acc.reverse).map fun v => ⟨.between, .value v :: s.done⟩
  | .number acc =>
      (readNumber acc.reverse).map fun n => ⟨.between, .value (.number n) :: s.done⟩
  | _ => none

/-- A character outside of any lexeme. -/
def Scanner.start (s : Scanner) (c : Char) : Option Scanner :=
  let emit (t : Token) : Option Scanner := some ⟨.between, t :: s.done⟩
  match c with
  | '[' => emit .openBracket
  | ']' => emit .closeBracket
  | '\x7b' => emit .openBrace
  | '\x7d' => emit .closeBrace
  | ',' => emit .comma
  | ':' => emit .colon
  | ' ' | '\t' | '\n' | '\r' => some ⟨.between, s.done⟩
  | '"' => some ⟨.quotes [], s.done⟩
  | c =>
      if c.isDigit || c = '-' then some ⟨.number [c], s.done⟩
      else if c.isLower then some ⟨.word [c], s.done⟩
      else none

/-- The scanner after one more character. A code from the high surrogates has to be followed by
one from the low ones, and no other surrogate may stand. -/
def Scanner.step (s : Scanner) (c : Char) : Option Scanner :=
  match s.lexeme with
  | .between => s.start c
  | .word acc =>
      if c.isLower then some ⟨.word (c :: acc), s.done⟩ else s.settle.bind (·.start c)
  | .number acc =>
      if c.isDigit || c = '.' || c = 'e' || c = 'E' || c = '+' || c = '-' then
        some ⟨.number (c :: acc), s.done⟩
      else s.settle.bind (·.start c)
  | .quotes acc =>
      if c = '"' then some ⟨.between, .text (String.ofList acc.reverse) :: s.done⟩
      else if c = '\\' then some ⟨.escape acc, s.done⟩
      else if c.toNat < 0x20 then none
      else some ⟨.quotes (c :: acc), s.done⟩
  | .escape acc =>
      if c = 'u' then some ⟨.code acc [], s.done⟩
      else (unescaped? c).map fun d => ⟨.quotes (d :: acc), s.done⟩
  | .code acc digits =>
      let digits := digits ++ [c]
      if digits.length < 4 then some ⟨.code acc digits, s.done⟩
      else do
        let n ← Text.numberIn? 16 digits
        if 0xD800 ≤ n && n < 0xDC00 then some ⟨.lowMark acc n, s.done⟩
        else if 0xDC00 ≤ n && n < 0xE000 then none
        else some ⟨.quotes (Char.ofNat n :: acc), s.done⟩
  | .lowMark acc high => if c = '\\' then some ⟨.lowEscape acc high, s.done⟩ else none
  | .lowEscape acc high => if c = 'u' then some ⟨.lowCode acc high [], s.done⟩ else none
  | .lowCode acc high digits =>
      let digits := digits ++ [c]
      if digits.length < 4 then some ⟨.lowCode acc high digits, s.done⟩
      else do
        let n ← Text.numberIn? 16 digits
        if 0xDC00 ≤ n && n < 0xE000 then
          let code := 0x10000 + (high - 0xD800) * 0x400 + (n - 0xDC00)
          some ⟨.quotes (Char.ofNat code :: acc), s.done⟩
        else none

/-- The tokens of a text, if all of it consists of tokens. -/
def tokens? (s : String) : Option (List Token) := do
  let last ← s.toList.foldlM Scanner.step ({} : Scanner)
  let settled ← last.settle
  return settled.done.reverse

end Json
end ResourceRouting
