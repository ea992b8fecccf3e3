import ResourceRouting.Config.Settings
import ResourceRouting.Json.Value

/-!
# Decode — settings from a value

A section is an object, whose unknown members are ignored, or a list of its fields in their fixed
order, which may end early but not run on. A field that is left out has its default; one that is
given has to be of its own type, as no value is converted.
-/

namespace ResourceRouting

/-! ## Sections -/

/-- The given fields of a section. -/
inductive Section
  | named (members : List (String × Json))
  | placed (items : List Json)

namespace Section

/-- The section of a value with `count` fields. -/
def ofJson? (count : Nat) : Json → Option Section
  | .object members => some (.named members)
  | .array items => if items.length ≤ count then some (.placed items) else none
  | _ => none

/-- The value given for a field. -/
def get? (s : Section) (place : Nat) (name : String) : Option Json :=
  match s with
  | named members => members.lookup name
  | placed items => items[place]?

/-- Decodes a field that may be left out. -/
def field {α : Type} (s : Section) (place : Nat) (name : String) (decode : Json → Option α)
    (default : α) : Option α :=
  match s.get? place name with
  | some value => decode value
  | none => some default

end Section

/-! ## Values -/

namespace Decode

/-- A natural number below a bound. -/
def below (bound : Nat) (v : Json) : Option Nat := do
  let n ← v.int?
  if 0 ≤ n && n.toNat < bound then some n.toNat else none

def address (v : Json) : Option Address := v.string?.bind Address.ofText?

/-- `null` for nothing, or else a value. -/
def nullable {α : Type} (decode : Json → Option α) (v : Json) : Option (Option α) :=
  if v.isNull then some none else (decode v).map some

end Decode

def SslSettings.ofJson? (v : Json) : Option SslSettings := do
  let s ← Section.ofJson? 2 v
  let cert ← (← s.get? 0 "cert").string?
  let key ← (← s.get? 1 "key").string?
  return { cert, key }

def ServerSettings.ofJson? (v : Json) : Option ServerSettings := do
  let s ← Section.ofJson? 4 v
  let d : ServerSettings := {}
  let address ← s.field 0 "address" Decode.address d.address
  let port ← s.field 1 "port" (Decode.below (twoTo 16)) d.port
  let ssl? ← s.field 2 "ssl" (Decode.nullable SslSettings.ofJson?) d.ssl?
  let shutdownGrace ← s.field 3 "shutdown_grace" (Decode.below (twoTo 64)) d.shutdownGrace
  return { address, port, ssl?, shutdownGrace }

def Routing.ofJson? (v : Json) : Option Routing := do
  let s ← Section.ofJson? 6 v
  let d : Routing := {}
  let documentation ← s.field 0 "documentation" Json.bool? d.documentation
  let headRoutes ← s.field 1 "head_routes" Json.bool? d.headRoutes
  let optionsRoutes ← s.field 2 "options_routes" Json.bool? d.optionsRoutes
  let docRoutes ← s.field 3 "doc_routes" Json.bool? d.docRoutes
  let rootPath ← s.field 4 "root_path" Json.string? d.rootPath
  let namespacing ← s.field 5 "namespacing" Json.bool? d.namespacing
  return { documentation, headRoutes, optionsRoutes, docRoutes, rootPath, namespacing }

def LoggingSettings.ofJson? (v : Json) : Option LoggingSettings := do
  let s ← Section.ofJson? 5 v
  let d : LoggingSettings := {}
  let level ← s.field 0 "level" Json.string? d.level
  let filter? ← s.field 1 "filter" (Decode.nullable Json.string?) d.filter?
  let console ← s.field 2 "console" Json.bool? d.console
  let path? ← s.field 3 "path" (Decode.nullable Json.string?) d.path?
  let json ← s.field 4 "json" Json.bool? d.json
  return { level, filter?, console, path?, json }

/-- Settings are an object of sections. -/
def Settings.ofJson? (v : Json) : Option Settings := do
  let .object members := v | none
  let s := Section.named members
  let d : Settings := {}
  let server ← s.field 0 "server" ServerSettings.ofJson? d.server
  let routing ← s.field 1 "routing" Routing.ofJson? d.routing
  let logging ← s.field 2 "logging" LoggingSettings.ofJson? d.logging
  return { server, routing, logging }

end ResourceRouting
