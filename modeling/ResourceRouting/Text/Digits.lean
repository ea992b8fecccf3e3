/-!
# Digits — numbers written in a base

Digits of bases up to sixteen, letters in either case. `numberIn` reads a run of digits, and
`numberIn?` refuses what is none.
-/

namespace ResourceRouting
namespace Text

/-- The value of a hexadecimal digit. -/
def hexValue? (c : Char) : Option Nat :=
  if c.isDigit then some (c.toNat - '0'.toNat)
  else if 'a' ≤ c && c ≤ 'f' then some (c.toNat - 'a'.toNat + 10)
  else if 'A' ≤ c && c ≤ 'F' then some (c.toNat - 'A'.toNat + 10)
  else none

/-- The value of a digit in a base. -/
def digitIn? (base : Nat) (c : Char) : Option Nat := (hexValue? c).filter (· < base)

/-- Whether a character is a digit in a base. -/
def isDigitIn (base : Nat) (c : Char) : Bool := (digitIn? base c).isSome

/-- The number that digits write in a base. -/
def numberIn (base : Nat) (cs : List Char) : Nat :=
  cs.foldl (fun n c => base * n + (digitIn? base c).getD 0) 0

/-- The number that characters write in a base, if there are any and all of them are digits. -/
def numberIn? (base : Nat) (cs : List Char) : Option Nat :=
  if cs.isEmpty || !cs.all (isDigitIn base) then none else some (numberIn base cs)

/-- The character whose code is a number; surrogates are the codes of none. -/
def charOfCode? (n : Nat) : Option Char :=
  if n < 0xD800 || (0xDFFF < n && n < 0x110000) then some (Char.ofNat n) else none

example : numberIn? 16 ['f', 'F', '0'] = some 0xFF0 := by decide

example : numberIn? 8 ['1', '8'] = none := by decide

end Text
end ResourceRouting
