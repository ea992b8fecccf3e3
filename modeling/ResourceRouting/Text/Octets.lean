import ResourceRouting.Text.Digits
import ResourceRouting.Text.Pieces

/-!
# Octets — UTF-8 and percent escapes

Texts as octets and back. Decoding is a machine that takes one octet at a time: it holds the bits
of an unfinished character, how many octets are still owed, and the range of the next one. What
cannot be part of a character comes out as `none`, one for each longest run that begins one.
-/

namespace ResourceRouting
namespace Text

/-! ## Encoding -/

/-- The octets of a character. -/
def charOctets (c : Char) : List Nat :=
  let n := c.toNat
  if n < 0x80 then [n]
  else if n < 0x800 then [0xC0 + n / 0x40, 0x80 + n % 0x40]
  else if n < 0x10000 then [0xE0 + n / 0x1000, 0x80 + n / 0x40 % 0x40, 0x80 + n % 0x40]
  else
    [0xF0 + n / 0x40000, 0x80 + n / 0x1000 % 0x40, 0x80 + n / 0x40 % 0x40, 0x80 + n % 0x40]

/-- The number of octets of a text. -/
def octetCount (s : String) : Nat := s.utf8ByteSize

/-! ## Decoding -/

/-- An unfinished character: its bits so far, the octets owed, and the range of the next one. -/
structure Partial where
  bits : Nat
  owed : Nat
  low : Nat := 0x80
  high : Nat := 0xBF
  deriving DecidableEq, Repr

/-- The decoder between two octets; the characters so far are in reverse. -/
structure Decoder where
  open? : Option Partial := none
  done : List (Option Char) := []
  deriving DecidableEq, Repr

/-- What an octet begins: a character of its own, one of several octets, or nothing. -/
def Decoder.lead (d : Decoder) (b : Nat) : Decoder :=
  let start (p : Partial) : Decoder := ⟨some p, d.done⟩
  if b < 0x80 then ⟨none, some (Char.ofNat b) :: d.done⟩
  else if 0xC2 ≤ b && b ≤ 0xDF then start { bits := b - 0xC0, owed := 1 }
  else if b = 0xE0 then start { bits := 0, owed := 2, low := 0xA0 }
  else if b = 0xED then start { bits := 0xD, owed := 2, high := 0x9F }
  else if 0xE1 ≤ b && b ≤ 0xEF then start { bits := b - 0xE0, owed := 2 }
  else if b = 0xF0 then start { bits := 0, owed := 3, low := 0x90 }
  else if 0xF1 ≤ b && b ≤ 0xF3 then start { bits := b - 0xF0, owed := 3 }
  else if b = 0xF4 then start { bits := 4, owed := 3, high := 0x8F }
  else ⟨none, none :: d.done⟩

def Decoder.step (d : Decoder) (b : Nat) : Decoder :=
  match d.open? with
  | none => d.lead b
  | some p =>
      if p.low ≤ b && b ≤ p.high then
        let bits := p.bits * 0x40 + (b - 0x80)
        if p.owed ≤ 1 then ⟨none, some (Char.ofNat bits) :: d.done⟩
        else ⟨some { bits, owed := p.owed - 1 }, d.done⟩
      -- the unfinished character is given up, and the octet may begin another one
      else Decoder.lead ⟨none, none :: d.done⟩ b

/-- The characters that octets encode, with `none` for what encodes none. -/
def decodeOctets (octets : List Nat) : List (Option Char) :=
  let d := octets.foldl Decoder.step {}
  match d.open? with
  | some _ => (none :: d.done).reverse
  | none => d.done.reverse

/-- The text of octets, with U+FFFD for what encodes no character. -/
def decodeLossy (octets : List Nat) : String :=
  String.ofList ((decodeOctets octets).map fun c? => c?.getD '\ufffd')

/-- The text of octets that encode characters only. -/
def decodeStrict? (octets : List Nat) : Option String :=
  ((decodeOctets octets).mapM id).map String.ofList

/-! ## Percent escapes -/

/-- The octet of an escape: a percent sign and two hexadecimal digits. -/
def escape? : List Char → Option Nat
  | '%' :: a :: b :: _ => do return 16 * (← hexValue? a) + (← hexValue? b)
  | _ => none

/-- The octets of a text, escapes replaced by theirs; `skip` characters belong to an escape. -/
def percentOctets : Nat → List Char → List Nat
  | _, [] => []
  | skip + 1, _ :: cs => percentOctets skip cs
  | 0, c :: cs =>
      match escape? (c :: cs) with
      | some octet => octet :: percentOctets 2 cs
      | none => charOctets c ++ percentOctets 0 cs

/-- The text with its escapes decoded, U+FFFD for what they do not make a character of. -/
def percentDecoded (s : String) : String := decodeLossy (percentOctets 0 s.toList)

/-- The text with its escapes decoded, if they make characters. -/
def percentDecoded? (s : String) : Option String := decodeStrict? (percentOctets 0 s.toList)

example : percentDecoded "a%20%C3%A9%zz%" = "a é%zz%" := by decide +kernel

example : decodeLossy [0xE2, 0x82, 0x41, 0xFF] = "\ufffdA\ufffd" := by decide +kernel

end Text
end ResourceRouting
