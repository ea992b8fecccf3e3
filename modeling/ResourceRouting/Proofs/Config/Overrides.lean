import ResourceRouting.Config.Load
import ResourceRouting.Json.Equality
import ResourceRouting.Proofs.Config.Layers

/-!
# Overrides — settings that come from the environment

Whatever a variable says is a text, and the settings convert no text. So a variable may set what
is a text anyway, as a file would; for a number or a switch it only keeps the settings from being
loaded, while a file may well give it.

* `Scalar`: the settings that have one value each.
* `Settings.ofJson?_congr`, `Settings.ofJson?_eq_none`: what decoding sees of a table.
* `load_override`: what a variable of a scalar setting does to every file.
-/

namespace ResourceRouting

/-! ## Scalar settings -/

/-- The settings that have one value each. -/
inductive Scalar
  | address
  | port
  | shutdownGrace
  | documentation
  | headRoutes
  | optionsRoutes
  | docRoutes
  | rootPath
  | namespacing
  | level
  | filter
  | console
  | path
  | json
  deriving DecidableEq, Repr

namespace Scalar

/-- The table that the setting stands in. -/
def table : Scalar → String
  | address | port | shutdownGrace => "server"
  | documentation | headRoutes | optionsRoutes | docRoutes | rootPath | namespacing => "routing"
  | level | filter | console | path | json => "logging"

/-- The name of the setting in its table. -/
def name : Scalar → String
  | address => "address"
  | port => "port"
  | shutdownGrace => "shutdown_grace"
  | documentation => "documentation"
  | headRoutes => "head_routes"
  | optionsRoutes => "options_routes"
  | docRoutes => "doc_routes"
  | rootPath => "root_path"
  | namespacing => "namespacing"
  | level => "level"
  | filter => "filter"
  | console => "console"
  | path => "path"
  | json => "json"

/-- Whether a file gives the setting as a text. -/
def isText : Scalar → Bool
  | address | rootPath | level | filter | path => true
  | _ => false

/-- The variable that overrides the setting. -/
def variableName (f : Scalar) : String := ("warren__" ++ f.table ++ "__" ++ f.name).toUpper

theorem variableKey?_variableName (f : Scalar) :
    Config.variableKey? f.variableName = some (f.table ++ "." ++ f.name) := by
  cases f <;> decide +kernel

theorem keyPath_variableName (f : Scalar) :
    Config.keyPath (f.table ++ "." ++ f.name) = [.name f.table, .name f.name] := by
  cases f <;> decide +kernel

end Scalar

/-! ## Decoding -/

section Decoding

variable {members members' : List (String × Json)}

theorem ServerSettings.ofJson?_congr (h : ∀ n, members.lookup n = members'.lookup n) :
    ofJson? (.object members) = ofJson? (.object members') := by
  simp [ofJson?, Section.ofJson?, Section.field, Section.get?, h]

theorem Routing.ofJson?_congr (h : ∀ n, members.lookup n = members'.lookup n) :
    ofJson? (.object members) = ofJson? (.object members') := by
  simp [ofJson?, Section.ofJson?, Section.field, Section.get?, h]

theorem LoggingSettings.ofJson?_congr (h : ∀ n, members.lookup n = members'.lookup n) :
    ofJson? (.object members) = ofJson? (.object members') := by
  simp [ofJson?, Section.ofJson?, Section.field, Section.get?, h]

/-- Decoding looks members up, and does not see in which order they are kept. -/
theorem Settings.ofJson?_congr {f : Scalar}
    (hothers : ∀ n, n ≠ f.table → members.lookup n = members'.lookup n)
    {t t' : List (String × Json)} (ht : members.lookup f.table = some (.object t))
    (ht' : members'.lookup f.table = some (.object t'))
    (hfields : ∀ n, t.lookup n = t'.lookup n) :
    ofJson? (.object members) = ofJson? (.object members') := by
  have hserver := ServerSettings.ofJson?_congr hfields
  have hrouting := Routing.ofJson?_congr hfields
  have hlogging := LoggingSettings.ofJson?_congr hfields
  cases f <;> simp_all [ofJson?, Section.field, Section.get?, Scalar.table]

/-- A text is neither a number nor a switch. -/
theorem Settings.ofJson?_eq_none {f : Scalar} (hf : f.isText = false)
    {t : List (String × Json)} (ht : members.lookup f.table = some (.object t)) {text : String}
    (hfield : t.lookup f.name = some (.string text)) : ofJson? (.object members) = none := by
  cases f with
  | address | rootPath | level | filter | path => simp [Scalar.isText] at hf
  | port | shutdownGrace =>
      simp only [Scalar.table, Scalar.name] at ht hfield
      have hserver : ServerSettings.ofJson? (.object t) = none := by
        simp [ServerSettings.ofJson?, Section.ofJson?, Section.field, Section.get?, hfield,
          Decode.below, Json.int?]
      simp [ofJson?, Section.field, Section.get?, ht, hserver]
  | documentation | headRoutes | optionsRoutes | docRoutes | namespacing =>
      simp only [Scalar.table, Scalar.name] at ht hfield
      have hrouting : Routing.ofJson? (.object t) = none := by
        simp [Routing.ofJson?, Section.ofJson?, Section.field, Section.get?, hfield, Json.bool?]
      simp [ofJson?, Section.field, Section.get?, ht, hrouting]
  | console | json =>
      simp only [Scalar.table, Scalar.name] at ht hfield
      have hlogging : LoggingSettings.ofJson? (.object t) = none := by
        simp [LoggingSettings.ofJson?, Section.ofJson?, Section.field, Section.get?, hfield,
          Json.bool?]
      simp [ofJson?, Section.field, Section.get?, ht, hlogging]

end Decoding

/-! ## The environment -/

namespace Config

/-- The variable leads to no key, or to one that spares the setting. -/
def Leaves (f : Scalar) (variableName : String) : Prop :=
  ∀ key, variableKey? variableName = some key → Spares f.table f.name (keyPath key)

/-- The second value says what the first one says, with a setting in place. The table of the
setting is a table, or it is absent. -/
structure Sets (f : Scalar) (value told told' : Json) : Prop where
  table : told.member? f.table = none ∨ HasTable f.table told
  table' : HasTable f.table told'
  value : field? f.table f.name told' = some value
  alike : Alike f.table f.name told told'

theorem leaves_variableName {f g : Scalar} (h : g.name ≠ f.name) : Leaves f g.variableName := by
  intro key hkey
  have hsame : g.table ++ "." ++ g.name = key := by
    simpa [g.variableKey?_variableName] using hkey
  subst hsame
  intro rest hrest
  rw [g.keyPath_variableName] at hrest
  simp only [List.cons.injEq] at hrest
  exact ⟨g.name, [], hrest.2.symm, h⟩

theorem spares_environmentLayer {f : Scalar} {environment : List (String × String)}
    (h : ∀ v ∈ environment, Leaves f v.1) :
    ∀ m ∈ environmentLayer environment, Spares f.table f.name (keyPath m.1) := by
  intro m hm
  rcases List.mem_filterMap.1 hm with ⟨v, hv, hkey⟩
  rcases Option.map_eq_some_iff.1 hkey with ⟨key, hname, rfl⟩
  exact h v hv key hname

theorem environmentLayer_override (f : Scalar) (text : String)
    (before after : List (String × String)) :
    environmentLayer (before ++ (f.variableName, text) :: after) =
      environmentLayer before ++ (f.table ++ "." ++ f.name, .string text) ::
        environmentLayer after := by
  simp [environmentLayer, f.variableKey?_variableName]

/-! ## Loading -/

variable {file? file'? : Option SourceFile} {told told' : Json}

theorem layered_some {file : SourceFile} {members : List (String × Json)}
    (h : file.members = .ok members) (environment : List (String × String)) :
    layered (some file) environment =
      .ok (addLayer (addLayer (.object []) members) (environmentLayer environment)) := by
  simp only [layered, h]
  rfl

/-- What is told without an environment is an object, and an environment is laid over it. -/
theorem layered_cases (h : layered file? [] = .ok told) :
    (∃ members, told = .object members) ∧
      ∀ environment, layered file? environment =
        .ok (addLayer told (environmentLayer environment)) := by
  cases file? with
  | none =>
      cases h
      exact ⟨⟨[], rfl⟩, fun _ => rfl⟩
  | some file =>
      cases hmembers : file.members with
      | error e =>
          have herror : layered (some file) [] = .error e := by
            simp only [layered, hmembers]
            rfl
          simp [herror] at h
      | ok members =>
          have htold : addLayer (.object []) members = told := by
            simpa [layered_some hmembers, environmentLayer, addLayer] using h
          subst htold
          exact ⟨exists_addLayer_object members [], layered_some hmembers⟩

theorem load_eq {environment : List (String × String)} {merged : Json}
    (h : layered file? environment = .ok merged) :
    load file? environment =
      match Settings.ofJson? merged with
      | some settings => .ok settings
      | none => .error (.decode "the values do not fit the settings") := by
  have hload : load file? environment =
      match Settings.ofJson? merged with
      | some settings => pure settings
      | none => throw (.decode "the values do not fit the settings") := by
    simp only [load, h]
    rfl
  rw [hload]
  cases Settings.ofJson? merged <;> rfl

section Override

variable {f : Scalar} {text : String} {before after : List (String × String)}

/-- What an override comes to: the variable is laid over all that comes before it. -/
theorem addLayer_override :
    addLayer told (environmentLayer (before ++ (f.variableName, text) :: after)) =
      addLayer (setAt (.string text) [.name f.table, .name f.name]
        (addLayer told (environmentLayer before))) (environmentLayer after) := by
  simp [environmentLayer_override, addLayer, f.keyPath_variableName]

theorem field?_override (told : Json) (text : String) (before : List (String × String))
    (hafter : ∀ v ∈ after, Leaves f v.1) :
    HasTable f.table (addLayer told
        (environmentLayer (before ++ (f.variableName, text) :: after))) ∧
      field? f.table f.name (addLayer told
        (environmentLayer (before ++ (f.variableName, text) :: after))) = some (.string text) := by
  have hspared := spared_addLayer (spares_environmentLayer hafter)
    (setAt (.string text) [.name f.table, .name f.name] (addLayer told (environmentLayer before)))
  have hset : field? f.table f.name (setAt (.string text) [.name f.table, .name f.name]
      (addLayer told (environmentLayer before))) = some (.string text) := by
    refine (field?_setAt_self (.string text) [] _).trans ?_
    simp [setAt, merge]
  rw [addLayer_override]
  exact ⟨hspared.hasTable (hasTable_setAt_self _ _ _), hspared.field.trans hset⟩

theorem field?_set {value : Json} (hsets : Sets f value told told')
    (hbefore : ∀ v ∈ before, Leaves f v.1) (hafter : ∀ v ∈ after, Leaves f v.1) :
    HasTable f.table (addLayer told' (environmentLayer (before ++ after))) ∧
      field? f.table f.name (addLayer told' (environmentLayer (before ++ after))) =
        some value := by
  have hboth : ∀ v ∈ before ++ after, Leaves f v.1 := List.forall_mem_append.2 ⟨hbefore, hafter⟩
  have hspared := spared_addLayer (spares_environmentLayer hboth) told'
  exact ⟨hspared.hasTable hsets.table', hspared.field.trans hsets.value⟩

theorem alike_override (text : String) {value : Json} (hsets : Sets f value told told')
    (hbefore : ∀ v ∈ before, Leaves f v.1) (hafter : ∀ v ∈ after, Leaves f v.1) :
    Alike f.table f.name
      (addLayer told (environmentLayer (before ++ (f.variableName, text) :: after)))
      (addLayer told' (environmentLayer (before ++ after))) := by
  have hfirst := hsets.alike.addLayer (spares_environmentLayer hbefore)
  have hlast := (hfirst.setAt_self (.string text) []).addLayer (spares_environmentLayer hafter)
  rw [addLayer_override]
  simpa [environmentLayer, addLayer] using hlast

end Override

/-- A variable of a scalar setting overrides a text as a file sets it, whatever else the file and
the environment say. A variable of a number or a switch keeps the settings from being loaded,
whatever text it has. -/
theorem load_override (htold : layered file? [] = .ok told) (f : Scalar) (text : String)
    (before after : List (String × String)) (hbefore : ∀ v ∈ before, Leaves f v.1)
    (hafter : ∀ v ∈ after, Leaves f v.1) :
    (f.isText = true → ∀ file'? told', layered file'? [] = .ok told' →
      Sets f (.string text) told told' →
      load file? (before ++ (f.variableName, text) :: after) =
        load file'? (before ++ after)) ∧
    (f.isText = false →
      load file? (before ++ (f.variableName, text) :: after) =
        .error (.decode "the values do not fit the settings")) := by
  rcases layered_cases htold with ⟨⟨members, rfl⟩, hlayered⟩
  rcases exists_addLayer_object
      (environmentLayer (before ++ (f.variableName, text) :: after)) members with
    ⟨merged, hmerged⟩
  rcases field?_override (.object members) text before hafter with
    ⟨⟨t, htable⟩, hfield⟩
  have hload := load_eq (hlayered (before ++ (f.variableName, text) :: after))
  rw [hmerged] at htable hfield hload
  refine ⟨?_, ?_⟩
  · intro _ file'? told' htold' hsets
    rcases layered_cases htold' with ⟨⟨members', rfl⟩, hlayered'⟩
    rcases exists_addLayer_object (environmentLayer (before ++ after)) members' with
      ⟨merged', hmerged'⟩
    rcases field?_set hsets hbefore hafter with ⟨⟨t', htable'⟩, hfield'⟩
    have halike := alike_override text hsets hbefore hafter
    have hload' := load_eq (hlayered' (before ++ after))
    rw [hmerged'] at htable' hfield' hload' halike
    rw [hmerged] at halike
    -- the tables agree in the setting by its value, and in all other fields by the file
    have hfields : ∀ n, t.lookup n = t'.lookup n := by
      intro n
      by_cases hn : n = f.name
      · subst hn
        simpa [field?, htable, htable'] using hfield.trans hfield'.symm
      · simpa [field?, htable, htable'] using halike.fields n hn
    rw [hload, hload', Settings.ofJson?_congr halike.others htable htable' hfields]
  · intro hf
    have hvalue : t.lookup f.name = some (.string text) := by
      simpa [field?, htable] using hfield
    simpa [Settings.ofJson?_eq_none hf htable hvalue] using hload

theorem toOption_eq_some_iff {ε α : Type} {result : Except ε α} {value : α} :
    result.toOption = some value ↔ result = .ok value := by
  cases result <;> simp [Except.toOption]

/-- A root path that comes from the environment, beside another variable. -/
theorem load_override_rootPath :
    load (some ⟨.toml, some "[server]\nport = 9000\n"⟩)
        [("WARREN__ROUTING__ROOT_PATH", "/api"), ("WARREN__LOGGING__LEVEL", "debug")] =
      load (some ⟨.toml, some "[server]\nport = 9000\n\n[routing]\nroot_path = '/api'\n"⟩)
        [("WARREN__LOGGING__LEVEL", "debug")] := by
  have hroot : Scalar.rootPath.variableName = "WARREN__ROUTING__ROOT_PATH" := by decide +kernel
  have hlevel : Scalar.level.variableName = "WARREN__LOGGING__LEVEL" := by decide +kernel
  have htold : layered (some ⟨.toml, some "[server]\nport = 9000\n"⟩) [] =
      .ok (.object [("server", .object [("port", .nat 9000)])]) :=
    toOption_eq_some_iff.1 (by decide +kernel)
  have htold' : layered
      (some ⟨.toml, some "[server]\nport = 9000\n\n[routing]\nroot_path = '/api'\n"⟩) [] =
        .ok (.object
          [("routing", .object [("root_path", .string "/api")]),
            ("server", .object [("port", .nat 9000)])]) :=
    toOption_eq_some_iff.1 (by decide +kernel)
  have hsets : Sets .rootPath (.string "/api")
      (.object [("server", .object [("port", .nat 9000)])])
      (.object
        [("routing", .object [("root_path", .string "/api")]),
          ("server", .object [("port", .nat 9000)])]) := by
    refine ⟨.inl rfl, ⟨_, rfl⟩, rfl, ?_, ?_⟩
    · intro n hn
      have htable : n ≠ "routing" := hn
      simp [Json.lookup_cons_eq_ite, htable]
    · intro n hn
      have hname : n ≠ "root_path" := hn
      simp [field?, Scalar.table, Json.lookup_cons_eq_ite, hname]
  have hafter : Leaves .rootPath Scalar.level.variableName := leaves_variableName (by decide)
  have hload := (load_override htold .rootPath "/api" [] [(Scalar.level.variableName, "debug")]
    (by simp) (by simpa using hafter)).1 rfl _ _ htold' hsets
  simpa [hroot, hlevel] using hload

/-- A switch is refused from the environment, and accepted from a file. -/
theorem not_load_override_headRoutes :
    (load (some ⟨.toml, some ""⟩) [("WARREN__ROUTING__HEAD_ROUTES", "false")]).toOption = none ∧
      (load (some ⟨.toml, some "[routing]\nhead_routes = false\n"⟩) []).toOption =
        some { routing := { headRoutes := false } } := by
  decide +kernel

end Config
end ResourceRouting
