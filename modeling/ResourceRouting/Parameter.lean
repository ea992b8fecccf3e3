import ResourceRouting.Json.Value

/-!
# Parameter — schemas of operation inputs

A parameter has a name, a kind, and possibly a list of allowed values; whatever its kind, a
parameter with allowed values is an enumeration. A schema is declared by clauses that are applied
in order.
-/

namespace ResourceRouting

/-- The declared kind of a parameter; it is shown to clients and converts nothing. -/
inductive Parameter.Kind
  | string
  | number
  | enum
  | free
  deriving DecidableEq, Repr

structure Parameter where
  name : String
  kind : Parameter.Kind
  required : Bool := false
  allowed : List String := []
  description : String := "Description not available"
  deriving DecidableEq, Repr

namespace Parameter

def Kind.text : Kind → String
  | string => "string"
  | number => "number"
  | enum => "enum"
  | free => "free"

def Kind.ofText? (s : String) : Option Kind :=
  [string, number, enum, free].find? fun k => k.text == s

/-! ## Declaring -/

inductive Clause
  | required
  | optional
  | values (items : List String)
  | describe (text : String)
  deriving DecidableEq, Repr

/-- Adds a value at the end unless it is there already. -/
def addValue (values : List String) (value : String) : List String :=
  if values.contains value then values else values ++ [value]

def apply (p : Parameter) : Clause → Parameter
  | .required => { p with required := true }
  | .optional => { p with required := false }
  | .values items => { p with allowed := items.foldl addValue p.allowed }
  | .describe text => { p with description := text }

/-- A parameter of a kind with clauses applied in order. -/
def declare (name : String) (kind : Kind) (clauses : List Clause) : Parameter :=
  clauses.foldl apply { name, kind }

/-- An enumeration of values. -/
def enumeration (name : String) (values : List String) : Parameter :=
  declare name .enum [.values values]

/-- The parameter that a member operation needs to name its member. -/
def identifier (name : String) : Parameter :=
  declare name .string [.required, .describe s!"The {name} parameter"]

/-! ## Views -/

def isEnum (p : Parameter) : Bool := !p.allowed.isEmpty

/-- Whether a value may be given. -/
def allows (p : Parameter) (value : String) : Bool := !p.isEnum || p.allowed.contains value

/-- The descriptor `name:kind:presence`. -/
def text (p : Parameter) : String :=
  p.name ++ ":" ++ p.kind.text ++ ":" ++ if p.required then "required" else "optional"

def json (p : Parameter) : Json :=
  .object <|
    [("name", .string p.name), ("type", .string p.kind.text), ("required", .bool p.required)] ++
    (if p.isEnum then [("allowedValues", .strings p.allowed)] else []) ++
    [("description", .string p.description)]

end Parameter
end ResourceRouting
