import ResourceRouting.Log.Directive

/-!
# Filter — which events are logged

A filter holds one directive for each target. Of the directives whose target begins that of an
event, the one with the longest target decides; an event that none concerns is dropped.
-/

namespace ResourceRouting
namespace Log

structure Event where
  level : Level
  target : String
  message : String
  deriving DecidableEq, Repr

/-- The directives of a filter, the most specific first. -/
abbrev Filter := List Directive

namespace Directive

/-- Whether a directive concerns an event. -/
def concerns (d : Directive) (e : Event) : Bool :=
  !d.inSpan && (d.target?.all fun t => Text.beginsWith t e.target)

/-- The rank of a directive among those of a filter; no target ranks lowest. -/
def specificity (d : Directive) : Nat :=
  match d.target? with
  | some t => t.toList.length + 1
  | none => 0

end Directive

namespace Filter

/-- Adds a directive before the first one that is less specific, in place of one of the same
target. -/
def add (f : Filter) (d : Directive) : Filter :=
  -- one of the same target is replaced, so the targets stay distinct
  let others := f.filter fun e => e.target? != d.target? || e.inSpan != d.inSpan
  others.takeWhile (fun e => d.specificity < e.specificity) ++
    d :: others.dropWhile (fun e => d.specificity < e.specificity)

/-- Whether an event is logged. -/
def enables (f : Filter) (e : Event) : Bool :=
  match f.find? (·.concerns e) with
  | some d => d.level.passes e.level
  | none => false

/-- The filter of a list of directives written in one text; malformed ones are left out. If none
is left, the level decides alone. -/
def ofText (default : LevelFilter) (s : String) : Filter :=
  let pieces := (Text.cut ',' s).filter fun piece => !piece.isEmpty
  let directives := pieces.filterMap fun piece => (Directive.parse piece).toOption
  if directives.isEmpty then [{ level := default }] else directives.foldl add []

end Filter
end Log
end ResourceRouting
