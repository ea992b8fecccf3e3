import ResourceRouting.Text.Alphanumeric
import ResourceRouting.Text.Blank

/-!
# Declaration — error types in their source text

The parts of a type declaration that matter to the generation of error conversions: attributes,
type expressions, and the fields of each variant. Each part has its source text, and what is only
written out again, such as the parameters of a type, is kept as that text. A visibility at a variant
or a field is left out, since no enumeration may have one.
-/

namespace ResourceRouting
namespace ErrorEnum

/-- The texts with a comma and a blank between neighbours. -/
def listed (items : List String) : String := String.intercalate ", " items

/-- The texts with a blank between neighbours. -/
def spaced (items : List String) : String := String.intercalate " " items

/-- The text in braces. -/
def braced (s : String) : String := "\x7b " ++ s ++ " \x7d"

/-! ## Attributes -/

/-- An attribute: its path, and the source text behind that, which holds its own parentheses or
equals sign. -/
structure Attribute where
  path : String
  args : String := ""
  deriving DecidableEq, Repr

namespace Attribute

/-- The attribute that lists names in parentheses. -/
def listing (path : String) (names : List String) : Attribute :=
  { path, args := "(" ++ listed names ++ ")" }

def text (a : Attribute) : String := "#[" ++ a.path ++ a.args ++ "]"

/-- Whether the path is one identifier and nothing else. -/
def named (a : Attribute) (name : String) : Bool := Text.trim a.path == name

def isIdentChar (c : Char) : Bool := c = '_' || Text.isAlphanumeric c

def skipBlank (cs : List Char) : List Char := cs.dropWhile Text.isBlank

/-- Reads an identifier, a raw one with its mark. -/
def readIdent? (cs : List Char) : Option (String × List Char) :=
  let (mark, body) :=
    match cs with
    | 'r' :: '#' :: rest => (['r', '#'], rest)
    | rest => ([], rest)
  let word := body.takeWhile isIdentChar
  match word with
  | [] => none
  | c :: _ =>
      if c.isDigit then none
      else some (String.ofList (mark ++ word), body.drop word.length)

/-- The last identifier of the path that stands here, and what follows. -/
def readPath? : Nat → List Char → Option (String × List Char)
  | 0, _ => none
  | fuel + 1, cs => do
      let (name, rest) ← readIdent? (skipBlank cs)
      match skipBlank rest with
      | ':' :: ':' :: more => readPath? fuel more
      | rest => return (name, rest)

/-- What follows the mark of a path that begins at the root. -/
def skipRoot : List Char → List Char
  | ':' :: ':' :: rest => rest
  | rest => rest

/-- The last identifiers of the paths between commas, up to the first item that is no path. -/
def lastIdents : Nat → List Char → List String
  | 0, _ => []
  | fuel + 1, cs =>
      match readPath? fuel (skipRoot (skipBlank cs)) with
      | none => []
      | some (name, ',' :: rest) => name :: lastIdents fuel rest
      | some (name, _) => [name]

/-- What stands between the delimiters of a list of arguments. -/
def inside? (args : String) : Option (List Char) :=
  match (Text.trim args).toList with
  | [] => none
  | c :: cs =>
      -- any of the three brackets holds a list
      let close :=
        if c = '(' then some ')' else if c = '[' then some ']'
        else if c = '\x7b' then some '\x7d' else none
      if close.isSome && cs.getLast? == close then some cs.dropLast else none

/-- The names that the attribute lists. -/
def listedNames (a : Attribute) : List String :=
  match inside? a.args with
  | some cs => lastIdents (cs.length + 1) cs
  | none => []

end Attribute

/-! ## Types -/

/-- A type expression: a path with arguments in angle brackets or without, a lifetime among such
arguments, or the source text of any other type. -/
inductive TypeExpr
  | path (name : String) (args? : Option (List TypeExpr))
  | lifetime (name : String)
  | other (source : String)
  deriving Repr

namespace TypeExpr

mutual

def text : TypeExpr → String
  | .path name none => name
  | .path name (some args) => name ++ "<" ++ listed (texts args) ++ ">"
  | .lifetime name => "'" ++ name
  | .other source => source

def texts : List TypeExpr → List String
  | [] => []
  | t :: rest => t.text :: texts rest

end

/-- The last identifier of a path. -/
def lastIdent (name : String) : String := Text.trim ((Text.cut ':' name).getLastD name)

/-- Whether the type is a path that ends in `str`. -/
def isStr : TypeExpr → Bool
  | .path name _ => lastIdent name == "str"
  | _ => false

/-- Whether the type is a path that ends in `Cow`, of a text that lives forever. -/
def isCowStr : TypeExpr → Bool
  | .path name (some (.lifetime l :: text :: _)) =>
      lastIdent name == "Cow" && l == "static" && text.isStr
  | _ => false

/-- Whether the type is that of a context: a path that ends in `Option`, of a `Cow` of a text. -/
def isContext : TypeExpr → Bool
  | .path name (some (inner :: _)) => lastIdent name == "Option" && inner.isCowStr
  | _ => false

end TypeExpr

/-! ## Declarations -/

structure Field where
  attributes : List Attribute := []
  name : String
  type : TypeExpr
  deriving Repr

def Field.text (f : Field) : String :=
  spaced (f.attributes.map Attribute.text ++ [f.name ++ ": " ++ f.type.text])

/-- The body of a variant; only named fields can be told apart. The discriminant is the source text
behind the fields, which holds its own equals sign. -/
inductive Shape
  | named (fields : List Field) (discriminant : String := "")
  | unnamed
  deriving Repr

structure Variant where
  attributes : List Attribute := []
  name : String
  shape : Shape
  deriving Repr

namespace Variant

def fields (v : Variant) : List Field :=
  match v.shape with
  | .named fields _ => fields
  | .unnamed => []

def discriminant (v : Variant) : String :=
  match v.shape with
  | .named _ discriminant => discriminant
  | .unnamed => ""

def text (v : Variant) : String :=
  let body := listed (v.fields.map Field.text)
  spaced (v.attributes.map Attribute.text ++ [v.name, braced body, v.discriminant])

end Variant

/-- The name of a type and, as source text, its parameters in angle brackets and the clause that
says what these have to satisfy. -/
structure TypeHead where
  name : String
  generics : String := ""
  whereClause : String := ""
  deriving DecidableEq, Repr

/-- A type without parameters is introduced by its name. -/
instance : Coe String TypeHead := ⟨fun name => { name }⟩

structure Enumeration where
  attributes : List Attribute := []
  visibility : String := ""
  head : TypeHead
  variants : List Variant
  deriving Repr

namespace Enumeration

def name (e : Enumeration) : String := e.head.name

def text (e : Enumeration) : String :=
  let body := listed (e.variants.map Variant.text)
  spaced (e.attributes.map Attribute.text ++
    [e.visibility, "enum", e.head.name ++ e.head.generics, e.head.whereClause, braced body])

end Enumeration

/-- A declaration of a type; of those that are no enumerations nothing else is known. -/
inductive Declaration
  | enumeration (e : Enumeration)
  | other
  deriving Repr

end ErrorEnum
end ResourceRouting
