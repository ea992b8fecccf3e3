import ResourceRouting.Config.Settings
import ResourceRouting.Fault
import ResourceRouting.Log.Filter

/-!
# Logger — settings and initialisation of logging

A logger is named, has a filter, and writes to the console, to files, or to both. Initialising it
checks the settings in a fixed order: the name, the number of files, the directives, the directory
of the files, and whether anything is written at all. At most one logger is installed.
-/

namespace ResourceRouting
namespace Log

/-! ## Errors -/

inductive LoggerError.Kind
  | appender
  | subscriber
  | invalidConfiguration
  | internal
  deriving DecidableEq, Repr

structure LoggerError where
  kind : LoggerError.Kind
  message : String
  context? : Option String := none
  deriving DecidableEq, Repr

namespace LoggerError

/-- The name of a kind, by which programs tell errors apart. -/
def Kind.name : Kind → String
  | appender => "Appender"
  | subscriber => "Subscriber"
  | invalidConfiguration => "InvalidConfiguration"
  | internal => "Internal"

def Kind.ofName? (s : String) : Option Kind :=
  [appender, subscriber, invalidConfiguration, internal].find? fun k => k.name == s

/-- What the text of an error begins with. -/
def Kind.title : Kind → String
  | appender => "Rolling file appender error"
  | subscriber => "Tracing subscriber error"
  | invalidConfiguration => "Invalid logger configuration"
  | internal => "Internal logger error"

def text (e : LoggerError) : String :=
  e.kind.title ++ contextText e.context? ++ ": " ++ e.message

/-- The error with a context in place of the one it had. -/
def withContext (e : LoggerError) (context : String) : LoggerError :=
  { e with context? := some context }

def ofMessage (message : String) : LoggerError := ⟨.internal, message, none⟩

def invalid (message : String) (context? : Option String) : LoggerError :=
  ⟨.invalidConfiguration, message, context?⟩

/-- The error of a second logger. -/
def alreadyInstalled : LoggerError :=
  ⟨.subscriber, "a global default trace dispatcher has already been set", none⟩

end LoggerError

/-! ## Settings -/

inductive ConsoleFormat
  | compact
  | pretty
  | json
  deriving DecidableEq, Repr

def ConsoleFormat.ofName? : String → Option ConsoleFormat
  | "compact" => some compact
  | "pretty" => some pretty
  | "json" => some json
  | _ => none

inductive Rotation
  | hourly
  | daily
  | never
  deriving DecidableEq, Repr

def Rotation.ofName? : String → Option Rotation
  | "hourly" => some hourly
  | "daily" => some daily
  | "never" => some never
  | _ => none

structure FileOutput where
  dir : String
  rotation : Rotation := .daily
  maxFiles : Nat := 10
  json : Bool := false
  deriving DecidableEq, Repr

structure LoggerSettings where
  level : LevelFilter := .upTo .info
  directives : List String := []
  console? : Option ConsoleFormat := some .compact
  file? : Option FileOutput := none
  deriving DecidableEq, Repr

namespace LoggerSettings

/-- The directives of a text between commas, trimmed, the empty ones left out. -/
def splitDirectives (s : String) : List String :=
  ((Text.cut ',' s).map Text.trim).filter fun d => !d.isEmpty

/-- Adds the directives of a text. -/
def directive (s : LoggerSettings) (text : String) : LoggerSettings :=
  { s with directives := s.directives ++ splitDirectives text }

end LoggerSettings

/-- One of the statements by which settings are made. Only directives add up; of the others the
last one of a kind counts. -/
inductive LoggerClause
  | level (level : LevelFilter)
  | directive (text : String)
  | console (format : ConsoleFormat)
  | withoutConsole
  | file (output : FileOutput)
  deriving DecidableEq, Repr

namespace LoggerSettings

def extended (s : LoggerSettings) : LoggerClause → LoggerSettings
  | .level level => { s with level }
  | .directive text => s.directive text
  | .console format => { s with console? := some format }
  | .withoutConsole => { s with console? := none }
  | .file output => { s with file? := some output }

/-- The settings that are made by clauses, one after the other. -/
def ofClauses (clauses : List LoggerClause) : LoggerSettings := clauses.foldl extended {}

end LoggerSettings

/-- The level that a text names, white space at its ends apart. -/
def parseLevel (s : String) : Except LoggerError LevelFilter :=
  match LevelFilter.ofText? (Text.trim s) with
  | some level => .ok level
  | none =>
      .error (.invalid s!"Unknown log level '{s}': {LevelFilter.unknownText}" none)

/-! ## Initialisation -/

/-- What the host lends to a logger: the directives of its environment, the outcome of creating a
directory, and whether a logger is installed already. -/
structure Surroundings where
  directives : String := ""
  createDir : String → Except String Unit := fun _ => .ok ()
  installed : Bool := false

structure Logger where
  name : String
  filter : Filter
  console? : Option ConsoleFormat
  file? : Option FileOutput
  deriving DecidableEq, Repr

/-- The filter of the settings: the directives of the environment or else the level, and then
those of the settings one after the other. The first malformed one is the error. -/
def buildFilter (environment : String) (s : LoggerSettings) : Except LoggerError Filter :=
  s.directives.foldlM (fun f d =>
    match Directive.parse d with
    | .ok directive => .ok (f.add directive)
    | .error e => .error (.invalid s!"Invalid filter directive '{d}': {e.text}" none))
    (Filter.ofText s.level environment)

/-- Refuses a blank name and a limit of no files. -/
def checkSettings (s : LoggerSettings) (name : String) : Except LoggerError Unit :=
  if Text.isBlankText name then .error (.invalid "Logger name cannot be empty" none)
  else if s.file?.any fun f => f.maxFiles == 0 then
    .error (.invalid "max_files must be greater than zero" (some name))
  else .ok ()

/-- Creates the directory of the files, if there are to be files. -/
def prepareFiles (around : Surroundings) (s : LoggerSettings) : Except LoggerError Unit :=
  match s.file? with
  | none => .ok ()
  | some f =>
      match around.createDir f.dir with
      | .ok () => .ok ()
      | .error e => .error ⟨.internal, e, some s!"Failed to create {f.dir}"⟩

def LoggerSettings.init (s : LoggerSettings) (around : Surroundings) (name : String) :
    Except LoggerError Logger := do
  checkSettings s name
  let filter ← buildFilter around.directives s
  prepareFiles around s
  if s.console?.isNone && s.file?.isNone then
    throw (.invalid "No output enabled, configure console or file logging" (some name))
  -- all settings are checked before the place of the logger is claimed
  if around.installed then
    throw .alreadyInstalled
  return { name, filter, console? := s.console?, file? := s.file? }

namespace Logger

def writesFiles (l : Logger) : Bool := l.file?.isSome

/-- The events that a logger itself adds when it is closed: it says that it flushes its files. -/
def closing (l : Logger) : List Event :=
  if l.writesFiles then [⟨.info, "warren_logger", "Flushing log files"⟩] else []

/-- What is logged of a run of events, up to the closing of the logger. -/
def records (l : Logger) (events : List Event) : List Event :=
  (events ++ l.closing).filter l.filter.enables

end Logger

/-! ## Logging of a server -/

/-- The name under which the server logs. -/
def serverName : String := "warren-server"

/-- Why the logging of a server is not set up: its level is unknown, or its logger fails. -/
inductive SetupError
  | level (e : LoggerError)
  | logger (e : LoggerError)
  deriving DecidableEq, Repr

namespace SetupError

def cause : SetupError → LoggerError
  | level e => e
  | logger e => e

/-- The message and then those of its causes. -/
def chain : SetupError → List String
  | level e => [e.text]
  | logger e => ["Failed to initialize logging", e.text]

end SetupError

/-- The settings of a logger from those of a configuration. -/
def settingsOf (cfg : LoggingSettings) (level : LevelFilter) : LoggerSettings :=
  let base : LoggerSettings := { level }
  let filtered := match cfg.filter? with
    | some text => base.directive text
    | none => base
  { filtered with
    console? :=
      if cfg.console then some (if cfg.json then .json else .compact) else none
    file? := cfg.path?.map fun dir => { dir, json := cfg.json } }

/-- Sets up the logging of a server. -/
def setup (cfg : LoggingSettings) (around : Surroundings) : Except SetupError Logger :=
  match parseLevel cfg.level with
  | .error e => .error (.level e)
  | .ok level =>
      match (settingsOf cfg level).init around serverName with
      | .error e => .error (.logger e)
      | .ok logger => .ok logger

end Log
end ResourceRouting
