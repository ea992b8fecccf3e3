import ResourceRouting.Power
import ResourceRouting.Text.Case
import ResourceRouting.Text.Digits

/-!
# Level — levels of events and of filters

A filter level lets events of its own level and of the more severe ones pass; `off` lets none.
-/

namespace ResourceRouting
namespace Log

/-- The level of an event, the most severe first. -/
inductive Level
  | error
  | warn
  | info
  | debug
  | trace
  deriving DecidableEq, Repr

def Level.all : List Level := [.error, .warn, .info, .debug, .trace]

/-- How verbose a level is; the most severe is the least verbose. -/
def Level.verbosity : Level → Nat
  | .error => 1
  | .warn => 2
  | .info => 3
  | .debug => 4
  | .trace => 5

def Level.text : Level → String
  | .error => "ERROR"
  | .warn => "WARN"
  | .info => "INFO"
  | .debug => "DEBUG"
  | .trace => "TRACE"

/-- The most verbose level that passes, if any does. -/
inductive LevelFilter
  | off
  | upTo (level : Level)
  deriving DecidableEq, Repr

namespace LevelFilter

def verbosity : LevelFilter → Nat
  | off => 0
  | upTo level => level.verbosity

/-- Whether an event of a level passes. -/
def passes (f : LevelFilter) (level : Level) : Bool := level.verbosity ≤ f.verbosity

def text : LevelFilter → String
  | off => "off"
  | upTo level => Text.loweredAscii level.text

def all : List LevelFilter := off :: Level.all.map upTo

/-- A number below `2 ^ 64` in decimal digits, a plus in front allowed. -/
def number? (s : String) : Option Nat :=
  let digits :=
    match s.toList with
    | '+' :: rest => rest
    | cs => cs
  (Text.numberIn? 10 digits).filter (· < twoTo 64)

/-- The filter level that a text names: by number from 0 to 5, or by name in any case. The empty
text names `error`. -/
def ofText? (s : String) : Option LevelFilter :=
  match number? s with
  | some n => all.find? fun f => f.verbosity == n
  | none =>
      if s.isEmpty then some (upTo .error)
      else all.find? fun f => Text.sameUpToCase f.text s

/-- What is said about a text that names no level. -/
def unknownText : String :=
  "error parsing level filter: expected one of \"off\", \"error\", \"warn\", " ++
    "\"info\", \"debug\", \"trace\", or a number 0-5"

end LevelFilter
end Log
end ResourceRouting
