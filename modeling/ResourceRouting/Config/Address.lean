import ResourceRouting.Text.Digits
import ResourceRouting.Text.Pieces

/-!
# Address — internet addresses and their text

An address of version 4 is read from four decimal numbers without leading zeros. One of version 6
is read from eight groups of up to four hexadecimal digits; the last two may be written as an
address of version 4, and one `::` stands for one or more groups of zero. The canonical text has
lower-case digits and replaces the first longest run of at least two zero groups.
-/

namespace ResourceRouting

inductive Address
  | v4 (octets : List Nat)
  | v6 (groups : List Nat)
  deriving DecidableEq, Repr

namespace Address

/-! ## Numbers -/

/-- Reads a number of at least one and at most `most` digits below `bound`; a run of more digits
is refused, and so is a leading zero unless `zeros` allows it. -/
def number? (base most bound : Nat) (zeros : Bool) (cs : List Char) :
    Option (Nat × List Char) :=
  let ds := cs.takeWhile (Text.isDigitIn base)
  let n := Text.numberIn base ds
  let leading := ds.head? == some '0' && 1 < ds.length
  if ds.isEmpty || most < ds.length || (leading && !zeros) || bound ≤ n then none
  else some (n, cs.drop ds.length)

/-! ## Reading -/

/-- Takes a character off the front. -/
def expect? (c : Char) : List Char → Option (List Char)
  | d :: rest => if d = c then some rest else none
  | [] => none

def octet? (cs : List Char) : Option (Nat × List Char) := number? 10 3 256 false cs

/-- Four octets with points between them. -/
def octets? (cs : List Char) : Option (List Nat × List Char) := do
  let (a, cs) ← octet? cs
  let (b, cs) ← octet? (← expect? '.' cs)
  let (c, cs) ← octet? (← expect? '.' cs)
  let (d, cs) ← octet? (← expect? '.' cs)
  return ([a, b, c, d], cs)

def pairGroups : List Nat → List Nat
  | [a, b, c, d] => [256 * a + b, 256 * c + d]
  | _ => []

/-- What was read of the groups on one side of `::`. -/
structure Groups where
  groups : List Nat := []
  embedded : Bool := false
  rest : List Char

/-- Reads up to `room` groups with colons between them. Where two groups still fit, four octets
may stand for them and end the reading. -/
def readGroups (first : Bool) (cs : List Char) : Nat → Groups
  | 0 => { rest := cs }
  | room + 1 =>
      match if first then some cs else expect? ':' cs with
      | none => { rest := cs }
      | some body =>
          match if room = 0 then none else octets? body with
          | some (octets, rest) => { groups := pairGroups octets, embedded := true, rest }
          | none =>
              match number? 16 4 65536 true body with
              | none => { rest := cs }
              | some (g, rest) =>
                  let more := readGroups false rest room
                  { more with groups := g :: more.groups }

def readV6? (cs : List Char) : Option (List Nat × List Char) :=
  let front := readGroups true cs 8
  if front.groups.length = 8 then some (front.groups, front.rest)
  else if front.embedded then none
  else do
    let cs ← expect? ':' (← expect? ':' front.rest)
    -- the double colon stands for at least one group
    let back := readGroups true cs (7 - front.groups.length)
    let gap := 8 - front.groups.length - back.groups.length
    return (front.groups ++ List.replicate gap 0 ++ back.groups, back.rest)

/-- The address that a text writes. -/
def ofText? (s : String) : Option Address :=
  match octets? s.toList with
  | some (octets, []) => some (.v4 octets)
  | some _ => none
  | none =>
      match readV6? s.toList with
      | some (groups, []) => some (.v6 groups)
      | _ => none

/-! ## Writing -/

def hexText (n : Nat) : String := String.ofList (Nat.toDigits 16 n)

/-- The length of the run of zeros at the front. -/
def zeroRun (groups : List Nat) : Nat := (groups.takeWhile (· == 0)).length

/-- Where the first longest run of zeros starts, and its length. -/
def longestZeroRun (groups : List Nat) : Nat × Nat :=
  ((List.range groups.length).map fun i => (i, zeroRun (groups.drop i))).foldl
    (fun best r => if best.2 < r.2 then r else best) (0, 0)

def octetsText (octets : List Nat) : String := Text.glue '.' (octets.map toString)

def groupsText (groups : List Nat) : String := Text.glue ':' (groups.map hexText)

/-- The canonical text. -/
def text : Address → String
  | v4 octets => octetsText octets
  | v6 [0, 0, 0, 0, 0, 0xFFFF, a, b] =>
      "::ffff:" ++ octetsText [a / 256, a % 256, b / 256, b % 256]
  | v6 groups =>
      let (start, length) := longestZeroRun groups
      if 1 < length then
        groupsText (groups.take start) ++ "::" ++ groupsText (groups.drop (start + length))
      else groupsText groups

end Address
end ResourceRouting
