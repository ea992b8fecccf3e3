import ResourceRouting.Config.Address
import ResourceRouting.Routing

/-!
# Settings — the configuration of a served application

Three sections: where the server listens, how routes are laid out, and what is logged.
-/

namespace ResourceRouting

structure SslSettings where
  cert : String
  key : String
  deriving DecidableEq, Repr

structure ServerSettings where
  address : Address := .v4 [0, 0, 0, 0]
  port : Nat := 4583
  ssl? : Option SslSettings := none
  shutdownGrace : Nat := 30
  deriving DecidableEq, Repr

structure LoggingSettings where
  level : String := "info"
  filter? : Option String := none
  console : Bool := true
  path? : Option String := none
  json : Bool := false
  deriving DecidableEq, Repr

structure Settings where
  server : ServerSettings := {}
  routing : Routing := {}
  logging : LoggingSettings := {}
  deriving DecidableEq, Repr

/-- The settings with another port. -/
def Settings.withPort (s : Settings) (port : Nat) : Settings :=
  { s with server := { s.server with port } }

end ResourceRouting
