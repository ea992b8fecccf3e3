import ResourceRouting.Config.Load
import ResourceRouting.Http.Router
import ResourceRouting.Log.Logger
import ResourceRouting.Server

/-!
# Main — the server from the command line

The first argument names a configuration file. Without one a file of the default name is looked
for, under each known extension, and it need not exist. Requests are read from standard input, one
`METHOD TARGET` on each line, and the responses are printed.
-/

namespace ResourceRouting
namespace Main

/-- What is reported of a failure: its message and then those of its causes. -/
def failureText : List String → String
  | [] => ""
  | message :: causes =>
      String.intercalate "\n" (("Error: " ++ message) ::
        (if causes.isEmpty then [] else "" :: "Caused by:" :: causes.map ("    " ++ ·)))

/-- The text of a file, if it can be read. -/
def fileText? (path : String) : IO (Option String) := do
  try
    return some (← IO.FS.readFile path)
  catch _ => return none

/-- The format that the extension of a path names. -/
def formatOf? (path : String) : Option Config.Format :=
  Config.Format.ofExtension? ((Text.cut '.' path).getLastD "")

/-- The configuration file to load: the named one, or a default one that exists. -/
def sourceFile (argument? : Option String) : IO (Option Config.SourceFile) := do
  match argument? with
  | some path =>
      let text? ← fileText? path
      return some { format := (formatOf? path).getD .toml, text? }
  | none =>
      for extension in ["toml", "json", "yaml"] do
        let path := "warren." ++ extension
        if let (some format, some text) := (formatOf? path, ← fileText? path) then
          return some { format, text? := some text }
      return none

/-- The variables of the environment, where the system lists them. -/
def environment : IO (List (String × String)) := do
  let listed ← fileText? "/proc/self/environ"
  return (Text.cut '\x00' (listed.getD "")).filterMap fun line =>
    match Text.cut '=' line with
    | name :: value :: rest => some (name, Text.glue '=' (value :: rest))
    | _ => none

/-- What the system lends to the logger. -/
def surroundings (dir? : Option String) : IO Log.Surroundings := do
  let directives := (← IO.getEnv "RUST_LOG").getD ""
  match dir? with
  | none => return { directives }
  | some dir =>
      try
        IO.FS.createDirAll dir
        return { directives }
      catch e => return { directives, createDir := fun _ => .error (toString e) }

/-- Which of the files of a certificate exist. -/
def existing (settings : Settings) : IO (List String) := do
  match settings.server.ssl? with
  | none => return []
  | some ssl => [ssl.cert, ssl.key].filterM fun path => return (← fileText? path).isSome

def responseText (r : Http.Response) : String :=
  let headers := r.headers.toList.map fun h => h.1 ++ ": " ++ h.2
  String.intercalate "\n" (("HTTP/1.1 " ++ toString r.status) :: headers ++ ["", r.body])

/-- Answers requests until the input ends. -/
partial def serve (router : Http.Router (Catalog.Deployment Unit))
    (deployment : Catalog.Deployment Unit) (input : IO.FS.Stream) : IO Unit := do
  let line ← input.getLine
  if line.isEmpty then return
  match Text.cut ' ' (Text.trim line) with
  | [method, target] =>
      let request := Http.Request.ofTarget method target [] ""
      let (response, deployment) := router.serve request deployment
      IO.println (responseText response)
      serve router deployment input
  | _ => serve router deployment input

/-- Loads the settings, sets up logging, builds the server and publishes it, or answers why one of
these fails. -/
def start (arguments : List String) :
    IO (Except (List String) (Server Unit)) := do
  match Config.load (← sourceFile arguments.head?) (← environment) with
  | .error e => return .error ["Critical: Configuration is malformed", e.text]
  | .ok settings =>
      match Log.setup settings.logging (← surroundings settings.logging.path?) with
      | .error e => return .error e.chain
      | .ok _ =>
          let files ← existing settings
          return do
            let server ← (Server.build files.contains settings {} none).mapError (·.chain)
            let _ ← (server.publish {}).mapError (·.chain)
            return server

end Main
end ResourceRouting

open ResourceRouting in
def main (arguments : List String) : IO UInt32 := do
  match ← Main.start arguments with
  | .error chain =>
      IO.eprintln (Main.failureText chain)
      return 1
  | .ok server =>
      match Http.Router.mount? server.api with
      | none =>
          IO.eprintln "Error: the host refuses a route"
          return 1
      | some router =>
          Main.serve router ⟨server.store, ()⟩ (← IO.getStdin)
          return 0
