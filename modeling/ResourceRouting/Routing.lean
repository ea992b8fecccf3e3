import ResourceRouting.Path

/-!
# Routing — settings of a route table

Which auxiliary bindings a table gets, the root in front of every path, and whether published
names carry the name of their application.
-/

namespace ResourceRouting

/-- The kinds of bindings that are made besides those of the operations. -/
inductive Auxiliary
  | head
  | options
  | docs
  | index
  deriving DecidableEq, Repr

namespace Auxiliary

def all : List Auxiliary := [head, options, docs, index]

/-- The weight of a kind in a set written as a number. -/
def bit : Auxiliary → Nat
  | head => 1
  | options => 2
  | docs => 4
  | index => 8

def text : Auxiliary → String
  | head => "head"
  | options => "options"
  | docs => "docs"
  | index => "index"

/-- The name of a kind in a list of switches. -/
def name : Auxiliary → String
  | head => "HEAD"
  | options => "OPTIONS"
  | docs => "DOCS"
  | index => "INDEX"

end Auxiliary

structure Routing where
  documentation : Bool := true
  headRoutes : Bool := true
  optionsRoutes : Bool := true
  docRoutes : Bool := true
  rootPath : String := "/"
  namespacing : Bool := false
  deriving DecidableEq, Repr

namespace Routing

/-- Whether a kind of auxiliary binding is switched on. -/
def allows (r : Routing) : Auxiliary → Bool
  | .head => r.headRoutes
  | .options => r.optionsRoutes
  | .docs => r.docRoutes
  | .index => r.documentation

/-- The kinds that are switched on. -/
def auxiliaries (r : Routing) : List Auxiliary := Auxiliary.all.filter r.allows

/-- The full path of one that is relative to the root. -/
def route (r : Routing) (path : String) : String :=
  let root := Text.dropEnds Path.isSlash r.rootPath
  let path := Text.dropLeading Path.isSlash path
  if root.isEmpty then "/" ++ path
  else if path.isEmpty then "/" ++ root
  else "/" ++ root ++ "/" ++ path

theorem mem_auxiliaries {r : Routing} {a : Auxiliary} : a ∈ r.auxiliaries ↔ r.allows a = true := by
  cases a <;> simp [auxiliaries, Auxiliary.all]

end Routing
end ResourceRouting
