import ResourceRouting.Text.Case

/-!
# MediaType — content types

A content type is a type, a slash, a subtype and parameters. A subtype may end in a suffix after
its last plus. `MediaType.ofText?` reads one and refuses texts that are malformed.
-/

namespace ResourceRouting
namespace Http

/-- Whether a character may stand in a token. -/
def isTokenChar (c : Char) : Bool :=
  c.isAlphanum || "!#$%&'*+-.^_\x60|~".toList.contains c

/-- A media type, its parameters apart. -/
structure MediaType where
  type : String
  subtype : String
  suffix? : Option String
  deriving DecidableEq, Repr

namespace MediaType

/-- What the reader of parameters is inside of. -/
inductive ParamPart
  | nameStart
  | name
  | valueStart
  | value
  | quotesStart
  | quotes
  | afterQuotes
  deriving DecidableEq, Repr

/-- Whether a character may stand between quotes. -/
def isQuotedChar (c : Char) : Bool := 32 ≤ c.toNat && c.toNat ≠ 127 && c ≠ '"'

def ParamPart.step : ParamPart → Char → Option ParamPart
  | nameStart, c => if c = ' ' then some nameStart else if isTokenChar c then some name else none
  | name, c => if c = '=' then some valueStart else if isTokenChar c then some name else none
  | valueStart, c =>
      if c = '"' then some quotesStart else if isTokenChar c then some value else none
  | value, c => if c = ';' then some nameStart else if isTokenChar c then some value else none
  | quotesStart, c => if isQuotedChar c then some quotes else none
  | quotes, c => if c = '"' then some afterQuotes else if isQuotedChar c then some quotes else none
  | afterQuotes, c => if c = ';' then some nameStart else if c = ' ' then some afterQuotes else none

/-- Whether the text after the subtype consists of parameters. -/
def paramsValid (cs : List Char) : Bool :=
  match cs.foldlM ParamPart.step .nameStart with
  | some .name | some .quotesStart | some .quotes | none => false
  | some _ => true

/-- Reads a subtype with what follows it, `;` or a space before the parameters. -/
def ofSubtype? (type rest : List Char) : Option MediaType :=
  let whole := rest.takeWhile isTokenChar
  let tail := rest.drop whole.length
  let end? :=
    match tail with
    | [] => true
    | c :: params => (c = ';' || c = ' ') && paramsValid params
  if whole.isEmpty || !end? then none
  else
    -- a suffix stands behind the last plus, if something stands before it
    let suffix := (whole.reverse.takeWhile (· != '+')).reverse
    let before := whole.take (whole.length - suffix.length - 1)
    if suffix.length < whole.length && !before.isEmpty then
      some ⟨String.ofList type, String.ofList before, some (String.ofList suffix)⟩
    else some ⟨String.ofList type, String.ofList whole, none⟩

def ofText? (s : String) : Option MediaType :=
  let type := s.toList.takeWhile isTokenChar
  match s.toList.drop type.length with
  | '/' :: rest => if type.isEmpty then none else ofSubtype? type rest
  | _ => none

/-- Whether the type says that a body is JSON. -/
def isJson (m : MediaType) : Bool :=
  Text.sameUpToCase m.type "application" &&
    (Text.sameUpToCase m.subtype "json" || m.suffix?.any (Text.sameUpToCase · "json"))

end MediaType
end Http
end ResourceRouting
