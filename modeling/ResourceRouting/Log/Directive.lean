import ResourceRouting.Log.Level
import ResourceRouting.Text.Alphanumeric
import ResourceRouting.Text.Blank

/-!
# Directive — rules of a log filter

A directive gives a level to the events whose target begins with its own target, or to all
events. It is written `level`, `target` or `target=level`; a target alone lets every level pass.
A directive may also name a span in brackets, and then it concerns no event outside of that span.
-/

namespace ResourceRouting
namespace Log

structure Directive where
  target? : Option String := none
  level : LevelFilter := .upTo .trace
  inSpan : Bool := false
  deriving DecidableEq, Repr

/-- Why a text is no directive. -/
inductive DirectiveError
  | malformed
  | unknownLevel
  deriving DecidableEq, Repr

def DirectiveError.text : DirectiveError → String
  | malformed => "invalid filter directive"
  | unknownLevel => LevelFilter.unknownText

namespace Directive

/-- Whether a directive may begin with a character. -/
def isStart (c : Char) : Bool := c = '-' || c = ':' || c = '_' || Text.isAlphanumeric c

/-- The level after an equals sign; an empty one lets every level pass. -/
def levelOf (cs : List Char) : Except DirectiveError LevelFilter :=
  if cs.isEmpty then .ok (.upTo .trace)
  else
    match LevelFilter.ofText? (String.ofList cs) with
    | some level => .ok level
    | none => .error .unknownLevel

/-- A text without an equals sign: a level if it names one, else a target. -/
def ofWord (word : List Char) : Directive :=
  match LevelFilter.ofText? (String.ofList word) with
  | some level => { level }
  | none => { target? := some (String.ofList word) }

/-- A directive from its span bracket on. Fields in braces may follow the name of the span. -/
def ofSpan (target? : Option String) (cs : List Char) : Except DirectiveError Directive := do
  let inside := cs.takeWhile (· != ']')
  let name := inside.takeWhile (· != '\x7b')
  let fields := inside.drop name.length
  let fieldsValid :=
    match fields with
    | [] => true
    | _ :: body =>
        body.getLast? == some '\x7d' &&
          (Text.cutChars ',' body.dropLast).all fun f => !f.isEmpty && !f.contains '\x7d'
  if !fieldsValid then throw .malformed
  match cs.drop inside.length with
  | [']'] => return { target?, inSpan := true }
  | ']' :: '=' :: level => return { target?, level := ← levelOf level, inSpan := true }
  | _ => throw .malformed

/-- Reads a directive. White space around it does not count for where its parts begin, but they
are taken from the whole text, so that white space in front shifts them. -/
def parse (s : String) : Except DirectiveError Directive :=
  let whole := s.toList
  let trimmed := (Text.trim s).toList
  match trimmed with
  | [] => .error .malformed
  | c :: _ =>
      if c = '[' then ofSpan none (whole.drop 1)
      else if !isStart c then .error .malformed
      else
        let word := trimmed.takeWhile fun c => c != '=' && c != '['
        -- the place is found in the trimmed text and used in the whole one
        let place := word.length
        match trimmed.drop place with
        | [] => .ok (ofWord whole)
        | '=' :: _ => do
            let level ← levelOf (whole.drop (place + 1))
            return { target? := some (String.ofList (whole.take place)), level }
        | _ => ofSpan (some (String.ofList (whole.take place))) (whole.drop (place + 1))

end Directive
end Log
end ResourceRouting
