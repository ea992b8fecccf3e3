import ResourceRouting.Config.Decode
import ResourceRouting.Config.Merge
import ResourceRouting.Config.Toml
import ResourceRouting.Config.Yaml
import ResourceRouting.Fault

/-!
# Load — settings from a file and the environment

The members of a file are laid over nothing, the variables of the environment are laid over them,
and what comes out is decoded. A file that is named has to be there and to hold a table.
-/

namespace ResourceRouting
namespace Config

/-! ## Errors -/

/-- Why a configuration is not loaded: a reason in words, or a field that is absent. -/
inductive LoadError.Source
  | message (s : String)
  | missingField (name : String)
  deriving DecidableEq, Repr

structure LoadError where
  source : LoadError.Source
  context? : Option String := none
  deriving DecidableEq, Repr

namespace LoadError

def Source.text : Source → String
  | message s => s
  | missingField name => s!"missing configuration field \"{name}\""

def text (e : LoadError) : String :=
  "Config error" ++ contextText e.context? ++ ": " ++ e.source.text

/-- The error with a context in place of the one it had. -/
def withContext (e : LoadError) (context : String) : LoadError :=
  { e with context? := some context }

/-- The error of a source without a context. -/
def ofSource (source : Source) : LoadError := ⟨source, none⟩

/-- The error of the layers. -/
def build (reason : String) : LoadError :=
  (ofSource (.message reason)).withContext "Failed to build config"

/-- The error of the decoded values. -/
def decode (reason : String) : LoadError :=
  (ofSource (.message reason)).withContext "Failed to deserialize config"

end LoadError

/-! ## Files -/

inductive Format
  | toml
  | json
  | yaml
  deriving DecidableEq, Repr

namespace Format

def ofExtension? : String → Option Format
  | "toml" => some toml
  | "json" => some json
  | "yaml" | "yml" => some yaml
  | _ => none

mutual

/-- A value in which an integer of more than 63 bits is a double. -/
def narrowed : Json → Json
  | .null => .null
  | .bool b => .bool b
  | .number (.int n) =>
      if fitsSigned n then .number (.int n)
      else .number (.double ((Json.Double.nearest? n.toNat 1).getD .zero))
  | .number (.double x) => .number (.double x)
  | .string s => .string s
  | .array items => .array (narrowedItems items)
  | .object members => .object (narrowedMembers members)

def narrowedItems : List Json → List Json
  | [] => []
  | v :: rest => narrowed v :: narrowedItems rest

def narrowedMembers : List (String × Json) → List (String × Json)
  | [] => []
  | (name, v) :: rest => (name, narrowed v) :: narrowedMembers rest

end

/-- The value that a text of the format writes. -/
def read? : Format → String → Option Json
  | toml, s => Toml.read? s
  | json, s => (Json.read? Json.maxDepth s).map narrowed
  | yaml, s => Yaml.read? s

end Format

/-- A named file: its format, and its text if there is such a file. -/
structure SourceFile where
  format : Format
  text? : Option String

/-- The text without a mark of the order of octets at its start. -/
def withoutByteOrderMark (s : String) : String :=
  match s.toList with
  | '\uFEFF' :: cs => String.ofList cs
  | _ => s

/-- The members of the table in a file. -/
def SourceFile.members (f : SourceFile) : Except LoadError (List (String × Json)) :=
  match f.text? with
  | none => .error (.build "configuration file not found")
  | some text =>
      match f.format.read? (withoutByteOrderMark text) with
      | some (.object members) => .ok members
      | some _ => .error (.build "the root of a configuration has to be a table")
      | none => .error (.build "malformed configuration file")

/-! ## Loading -/

/-- The layers of a configuration laid over each other. Without a file there is only the
environment. -/
def layered (file? : Option SourceFile) (environment : List (String × String)) :
    Except LoadError Json := do
  let members ←
    match file? with
    | some file => file.members
    | none => .ok []
  -- the environment comes last and wins
  return addLayer (addLayer (.object []) members) (environmentLayer environment)

/-- Loads settings. -/
def load (file? : Option SourceFile) (environment : List (String × String)) :
    Except LoadError Settings := do
  let merged ← layered file? environment
  match Settings.ofJson? merged with
  | some settings => return settings
  | none => throw (.decode "the values do not fit the settings")

end Config
end ResourceRouting
