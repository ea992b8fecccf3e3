import ResourceRouting.Config.Merge

/-!
# Layers — what a layer says about one field of a table

A layer is laid over a value key by key, and a key changes only what its path leads to. So what
comes out about one field of a table depends on the keys that lead to it; `Spares` is said of all
the others.

* `field?_addLayer`: a layer that spares a field leaves it as it is.
* `Alike.addLayer`: values that differ in one field at most still do under such a layer.
-/

namespace ResourceRouting

namespace Json

@[simp]
theorem member?_object (members : List (String × Json)) (name : String) :
    (object members).member? name = members.lookup name := rfl

theorem lookup_cons_eq_ite (p : String × Json) (members : List (String × Json)) (name : String) :
    (p :: members).lookup name = if name = p.1 then some p.2 else members.lookup name := by
  rcases p with ⟨first, value⟩
  by_cases hname : name = first
  · simp [hname]
  · have hb : (name == first) = false := by simpa using hname
    simp [List.lookup_cons, hb, hname]

theorem lookup_insertMember (name : String) (value : Json) (members : List (String × Json))
    (other : String) :
    (insertMember name value members).lookup other =
      if other = name then some value else members.lookup other := by
  induction members with
  | nil => simp [insertMember, lookup_cons_eq_ite]
  | cons p rest ih =>
      rcases p with ⟨first, old⟩
      by_cases hlt : name < first
      · simp [insertMember, hlt, lookup_cons_eq_ite]
      · by_cases hfirst : name = first
        · subst hfirst
          by_cases hother : other = name <;> simp [insertMember, lookup_cons_eq_ite, hother]
        · by_cases hother : other = first
          · simp [insertMember, hlt, hfirst, hother, Ne.symm hfirst]
          · simp [insertMember, hlt, hfirst, lookup_cons_eq_ite, hother, ih]

end Json

namespace Config

/-! ## Keys -/

theorem exists_keyPath (key : String) : ∃ n rest, keyPath key = .name n :: rest := by
  unfold keyPath
  dsimp only
  split
  · exact ⟨_, _, rfl⟩
  · split
    · exact ⟨_, _, rfl⟩
    · exact ⟨_, _, rfl⟩

/-- The path does not lead to the field: it leads out of the table, or to another field. -/
def Spares (table name : String) (path : List KeyStep) : Prop :=
  ∀ rest, path = .name table :: rest → ∃ other rest', rest = .name other :: rest' ∧ other ≠ name

/-! ## Fields -/

/-- The value of a field of a table. -/
def field? (table name : String) (v : Json) : Option Json :=
  (v.member? table).bind (Json.member? name)

/-- The member of the name is a table. -/
def HasTable (table : String) (v : Json) : Prop :=
  ∃ members, v.member? table = some (.object members)

theorem member?_getD_null (v? : Option Json) (name : String) :
    (v?.getD .null).member? name = v?.bind (Json.member? name) := by
  cases v? <;> rfl

theorem member?_setAt (value : Json) (n : String) (rest : List KeyStep) (v : Json)
    (other : String) :
    (setAt value (.name n :: rest) v).member? other =
      if other = n then some (setAt value rest ((v.member? n).getD .null))
      else v.member? other := by
  cases v <;> simp [setAt, Json.member?, Json.lookup_insertMember]

variable {table name : String}

theorem field?_setAt_self (value : Json) (rest : List KeyStep) (v : Json) :
    field? table name (setAt value (.name table :: .name name :: rest) v) =
      some (setAt value rest ((field? table name v).getD .null)) := by
  simp [field?, member?_setAt, member?_getD_null]

theorem hasTable_setAt_self (value : Json) (rest : List KeyStep) (v : Json) :
    HasTable table (setAt value (.name table :: .name name :: rest) v) := by
  unfold HasTable
  simp only [member?_setAt, ↓reduceIte, Option.some.injEq]
  exact ⟨_, rfl⟩

/-- What a key that spares a field does to a value. -/
structure Spared (table name : String) (v v' : Json) : Prop where
  field : field? table name v' = field? table name v
  hasTable : HasTable table v → HasTable table v'

theorem spared_setAt {path : List KeyStep} (hpath : Spares table name path) {n : String}
    {rest : List KeyStep} (hcons : path = .name n :: rest) (value v : Json) :
    Spared table name v (setAt value path v) := by
  subst hcons
  by_cases hn : n = table
  · subst hn
    rcases hpath rest rfl with ⟨other, rest', rfl, hother⟩
    exact ⟨by simp [field?, member?_setAt, member?_getD_null, Ne.symm hother],
      fun _ => hasTable_setAt_self value rest' v⟩
  · refine ⟨by simp [field?, member?_setAt, Ne.symm hn], ?_⟩
    rintro ⟨members, hmembers⟩
    exact ⟨members, by simpa [member?_setAt, Ne.symm hn] using hmembers⟩

/-! ## Layers -/

theorem spared_addLayer {layer : List (String × Json)}
    (hlayer : ∀ m ∈ layer, Spares table name (keyPath m.1)) (v : Json) :
    Spared table name v (addLayer v layer) := by
  induction layer generalizing v with
  | nil => exact ⟨rfl, id⟩
  | cons m rest ih =>
      rcases exists_keyPath m.1 with ⟨n, steps, hpath⟩
      have hfirst := spared_setAt (hlayer m List.mem_cons_self) hpath m.2 v
      have hrest := ih (fun m' hm' => hlayer m' (List.mem_cons_of_mem m hm'))
        (setAt m.2 (keyPath m.1) v)
      exact ⟨hrest.field.trans hfirst.field, fun htable => hrest.hasTable (hfirst.hasTable htable)⟩

theorem exists_addLayer_object (layer members : List (String × Json)) :
    ∃ members', addLayer (.object members) layer = .object members' := by
  induction layer generalizing members with
  | nil => exact ⟨members, rfl⟩
  | cons m rest ih =>
      rcases exists_keyPath m.1 with ⟨n, steps, hpath⟩
      have hstep : addLayer (.object members) (m :: rest) =
          addLayer (setAt m.2 (keyPath m.1) (.object members)) rest := rfl
      rw [hstep, hpath]
      exact ih _

/-! ## Values that differ in one field -/

/-- The values say the same about everything but, possibly, one field of a table. -/
structure Alike (table name : String) (v v' : Json) : Prop where
  others : ∀ n, n ≠ table → v.member? n = v'.member? n
  fields : ∀ m, m ≠ name → field? table m v = field? table m v'

theorem Alike.setAt {v v' : Json} (h : Alike table name v v') {path : List KeyStep}
    (hpath : Spares table name path) {n : String} {rest : List KeyStep}
    (hcons : path = .name n :: rest) (value : Json) :
    Alike table name (setAt value path v) (setAt value path v') := by
  subst hcons
  by_cases hn : n = table
  · subst hn
    rcases hpath rest rfl with ⟨other, rest', rfl, hother⟩
    refine ⟨?_, ?_⟩
    · intro m hm
      simpa [member?_setAt, hm] using h.others m hm
    · intro m hm
      by_cases hsame : m = other
      · subst hsame
        simp [field?_setAt_self, h.fields m hother]
      · simpa [field?, member?_setAt, member?_getD_null, hsame] using h.fields m hm
  · refine ⟨?_, ?_⟩
    · intro m hm
      by_cases hsame : m = n
      · subst hsame
        simp [member?_setAt, h.others m hm]
      · simpa [member?_setAt, hsame] using h.others m hm
    · intro m hm
      simpa [field?, member?_setAt, Ne.symm hn] using h.fields m hm

/-- The field in which the values may differ can be set in one of them. -/
theorem Alike.setAt_self {v v' : Json} (h : Alike table name v v') (value : Json)
    (rest : List KeyStep) :
    Alike table name (Config.setAt value (.name table :: .name name :: rest) v) v' := by
  refine ⟨?_, ?_⟩
  · intro m hm
    simpa [member?_setAt, hm] using h.others m hm
  · intro m hm
    simpa [field?, member?_setAt, member?_getD_null, hm] using h.fields m hm

theorem Alike.addLayer {layer : List (String × Json)}
    (hlayer : ∀ m ∈ layer, Spares table name (keyPath m.1)) {v v' : Json}
    (h : Alike table name v v') :
    Alike table name (addLayer v layer) (addLayer v' layer) := by
  induction layer generalizing v v' with
  | nil => exact h
  | cons m rest ih =>
      rcases exists_keyPath m.1 with ⟨n, steps, hpath⟩
      exact ih (fun m' hm' => hlayer m' (List.mem_cons_of_mem m hm'))
        (h.setAt (hlayer m List.mem_cons_self) hpath m.2)

end Config
end ResourceRouting
