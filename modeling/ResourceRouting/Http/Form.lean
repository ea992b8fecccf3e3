import ResourceRouting.Text.Octets

/-!
# Form — pairs of a query or a form body

Pieces between `&` hold a name and a value with the first `=` between them. A plus stands for a
space, and escapes are decoded after that; empty pieces are skipped.
-/

namespace ResourceRouting
namespace Http

/-- The text with its pluses as spaces and its escapes decoded. -/
def formText (cs : List Char) : String :=
  Text.decodeLossy (Text.percentOctets 0 (cs.map fun c => if c = '+' then ' ' else c))

/-- The name and the value of a piece. -/
def formPair (piece : List Char) : String × String :=
  (formText (piece.takeWhile (· != '=')), formText ((piece.dropWhile (· != '=')).drop 1))

/-- The pairs of a form in their order. -/
def formPairs (s : String) : List (String × String) :=
  ((Text.cutChars '&' s.toList).filter fun piece => !piece.isEmpty).map formPair

end Http
end ResourceRouting
