import ResourceRouting.Catalog.Declaration
import ResourceRouting.Config.Settings
import ResourceRouting.Registry

/-!
# Server — a catalog under its settings

Building a server checks that the files of its certificate exist and compiles the catalog. A
server publishes its collections before it listens.
-/

namespace ResourceRouting

/-- Why a server is not built or does not run. -/
inductive ServerError
  | certMissing (path : String)
  | keyMissing (path : String)
  | notCompiled (fault : Fault)
  | notPublished (fault : Fault)
  deriving DecidableEq, Repr

/-- The message and then those of its causes. -/
def ServerError.chain : ServerError → List String
  | certMissing path => [s!"SSL certificate not found at: {path}"]
  | keyMissing path => [s!"SSL key not found at: {path}"]
  | notCompiled fault => ["Failed to compile the catalog API", fault.text]
  | notPublished fault => ["Failed to publish the catalog collections", fault.text]

structure Server (κ : Type) where
  settings : Settings
  api : Api (Catalog.Deployment κ)
  store : Catalog.Store

namespace Server

variable {κ : Type}

/-- Checks the files of a certificate, the certificate before the key. -/
def checkSsl (exist : String → Bool) (settings : Settings) : Except ServerError Unit :=
  match settings.server.ssl? with
  | none => .ok ()
  | some ssl =>
      if !exist ssl.cert then .error (.certMissing ssl.cert)
      else if !exist ssl.key then .error (.keyMissing ssl.key)
      else .ok ()

/-- Builds a server over a store, the seeded one if none is given. -/
def build (exist : String → Bool) (settings : Settings)
    (hooks : Hooks (Catalog.Deployment κ)) (store? : Option Catalog.Store) :
    Except ServerError (Server κ) := do
  checkSsl exist settings
  match Catalog.build settings.routing hooks with
  | .error fault => throw (.notCompiled fault)
  | .ok api => return { settings, api, store := store?.getD Catalog.Store.seeded }

/-- Publishes the collections of the server, as it does before it listens. -/
def publish (server : Server κ) (registry : Registry (Catalog.Deployment κ)) :
    Except ServerError (Registry (Catalog.Deployment κ)) :=
  match registry.publish server.api with
  | .error fault => .error (.notPublished fault)
  | .ok registry => .ok registry

end Server
end ResourceRouting
