import ResourceRouting.Power

/-!
# Double — binary floating point in exact arithmetic

The finite numbers `± significand · 2 ^ exponent` of the 64-bit binary format. Reading rounds a
quotient of natural numbers to the nearest of them, ties to the even significand; writing looks
for the fewest decimal digits that read back, and among those for the nearest.
-/

namespace ResourceRouting
namespace Json

structure Double where
  negative : Bool
  significand : Nat
  exponent : Int
  deriving DecidableEq, Repr

namespace Double

/-- The smallest exponent of the format. -/
def minExponent : Int := -1074

/-- The largest exponent of the format. -/
def maxExponent : Int := 971

def zero : Double := ⟨false, 0, minExponent⟩

/-! ## Rounding -/

/-- The quotient of `num` by `den`, a remainder of more than half of `den` rounded up, one of
exactly half rounded to the even neighbour. -/
def divideToEven (num den : Nat) : Nat :=
  let q := num / den
  let r := 2 * (num % den)
  if r > den || (r == den && q % 2 == 1) then q + 1 else q

/-- `num / den` as a fraction of units `2 ^ e`. -/
def inUnits (num den : Nat) (e : Int) : Nat × Nat :=
  if e < 0 then (num * twoTo (-e).toNat, den) else (num, den * twoTo e.toNat)

/-- The finite number nearest to `num / den`, if it is not beyond the largest one. -/
def nearest? (num den : Nat) : Option Double :=
  if num = 0 then some zero
  else
    -- with this unit the quotient has 53 or 54 bits, unless the unit is the smallest one
    let guess : Int := max ((num.log2 : Int) - (den.log2 : Int) - 53) minExponent
    let (n, d) := inUnits num den guess
    let e := if n / d < twoTo 53 then guess else guess + 1
    let (n, d) := inUnits num den e
    let q := divideToEven n d
    -- rounding up may carry into a bit of its own
    let (q, e) := if q = twoTo 53 then (twoTo 52, e + 1) else (q, e)
    if e > maxExponent then none else some ⟨false, q, e⟩

/-- The absolute value as a fraction. -/
def fraction (x : Double) : Nat × Nat :=
  if x.exponent < 0 then (x.significand, twoTo (-x.exponent).toNat)
  else (x.significand * twoTo x.exponent.toNat, 1)

/-- The rounded product. -/
def times? (x y : Double) : Option Double :=
  nearest? (x.fraction.1 * y.fraction.1) (x.fraction.2 * y.fraction.2)

/-- The rounded quotient. -/
def over? (x y : Double) : Option Double :=
  nearest? (x.fraction.1 * y.fraction.2) (x.fraction.2 * y.fraction.1)

/-! ## Reading decimals -/

/-- The largest power of ten that is a finite number. -/
def maxPowerOfTen : Nat := 308

/-- The number nearest to a power of ten. -/
def powerOfTen (k : Nat) : Double := (nearest? (tenTo k) 1).getD zero

/-- Divides by `10 ^ k`, by the largest power of ten as often as `k` exceeds it. Two such
divisions take every significand below `2 ^ 64` to zero, so three rounds settle each `k`. -/
def overPowerOfTen (x : Double) (k : Nat) : Nat → Option Double
  | 0 => some zero
  | rounds + 1 =>
      if k ≤ maxPowerOfTen then x.over? (powerOfTen k)
      else (x.over? (powerOfTen maxPowerOfTen)).bind fun y =>
        overPowerOfTen y (k - maxPowerOfTen) rounds

/-- `significand · 10 ^ scale`: the significand is rounded first and then multiplied or divided by
a rounded power of ten. A result beyond the largest finite number is refused. -/
def ofDecimal? (negative : Bool) (significand : Nat) (scale : Int) : Option Double := do
  let x ← nearest? significand 1
  let y ←
    if scale < 0 then x.overPowerOfTen (-scale).toNat 3
    else if significand = 0 then some zero
    else if scale.toNat ≤ maxPowerOfTen then x.times? (powerOfTen scale.toNat)
    else none
  return { y with negative }

/-! ## Writing decimals -/

/-- The number of decimal digits of `n`. -/
def digitCount (n : Nat) : Nat := (Nat.toDigits 10 n).length

/-- The exponent `k` with `10 ^ k ≤ num / den < 10 ^ (k + 1)`. -/
def decimalExponent (num den : Nat) : Int :=
  if den ≤ num then digitCount (num / den) - 1
  else -(((List.range 330).find? fun j => den ≤ num * tenTo j).getD 0 : Nat)

/-- `c · 10 ^ k` as a fraction. -/
def scaled (c : Nat) (k : Int) : Nat × Nat :=
  if k < 0 then (c, tenTo (-k).toNat) else (c * tenTo k.toNat, 1)

/-- The open or closed interval of the reals that round to a positive number, as fractions. -/
structure Basin where
  low : Nat × Nat
  high : Nat × Nat
  closed : Bool

/-- The half-way points to both neighbours; the lower neighbour of a power of two is half as far
away. They belong to the basin exactly when the significand is even. -/
def basin (x : Double) : Basin :=
  let quarter (m : Nat) : Nat × Nat := fraction ⟨false, m, x.exponent - 2⟩
  let below := if x.significand = twoTo 52 && minExponent < x.exponent then 1 else 2
  ⟨quarter (4 * x.significand - below), quarter (4 * x.significand + 2), x.significand % 2 == 0⟩

/-- Whether `c · 10 ^ k` lies in the basin. -/
def Basin.holds (b : Basin) (c : Nat) (k : Int) : Bool :=
  let (n, d) := scaled c k
  let low := b.low.1 * d
  let high := b.high.1 * d
  let ln := n * b.low.2
  let hn := n * b.high.2
  if b.closed then low ≤ ln && hn ≤ high else low < ln && hn < high

/-- The two neighbours of `num / den` on the grid of the multiples of `10 ^ k`, the nearer first. -/
def gridNeighbours (num den : Nat) (k : Int) : List Nat :=
  let (n, d) := if k < 0 then (num * tenTo (-k).toNat, den) else (num, den * tenTo k.toNat)
  let c := n / d
  if 2 * (n % d) ≤ d then [c, c + 1] else [c + 1, c]

/-- The fewest decimal digits that read back, with the power of ten of the last of them. -/
def shortest (x : Double) : Nat × Int :=
  let (num, den) := x.fraction
  let top := decimalExponent num den
  let b := x.basin
  ((List.range 17).findSome? fun (i : Nat) =>
    let k : Int := top - (i : Int)
    ((gridNeighbours num den k).find? fun c => b.holds c k).map fun c => (c, k)).getD (0, 0)

/-- Drops trailing zeros of the digits. -/
def dropZeros : List Char → Int → List Char × Int
  | '0' :: cs, k => dropZeros cs (k + 1)
  | cs, k => (cs.reverse, k)

/-- The written form: positional while the decimal point stands at most five places before the
first digit and at most sixteen after it, with an exponent of explicit sign beyond that. -/
def text (x : Double) : String :=
  let sign := if x.negative then "-" else ""
  if x.significand = 0 then sign ++ "0.0"
  else
    let (c, k) := x.shortest
    -- from here on the digits count, and `point` is the place of the decimal point among them
    let (digits, k) := dropZeros (Nat.toDigits 10 c).reverse k
    let count : Int := digits.length
    let point := count + k
    let zeros (n : Int) : String := String.ofList (List.replicate n.toNat '0')
    sign ++
      if 0 ≤ k && point ≤ 16 then String.ofList digits ++ zeros k ++ ".0"
      else if 0 < point && point ≤ 16 then
        String.ofList (digits.take point.toNat) ++ "." ++ String.ofList (digits.drop point.toNat)
      else if -5 < point && point ≤ 0 then "0." ++ zeros (-point) ++ String.ofList digits
      else
        let e := point - 1
        let mantissa :=
          match digits with
          | [d] => String.ofList [d]
          | ds => String.ofList (ds.take 1) ++ "." ++ String.ofList (ds.drop 1)
        mantissa ++ "e" ++ (if e < 0 then "-" else "+") ++ toString e.natAbs

end Double
end Json
end ResourceRouting
