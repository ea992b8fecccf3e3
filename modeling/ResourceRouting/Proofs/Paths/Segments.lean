import ResourceRouting.Routing
import Mathlib.Data.List.DropRight

/-!
# Segments — paths that are put together

Paths are glued from parts with slashes between them, and the root of an application is one more
part in front. What a part contributes can be read off it alone: its placeholders (`params_join`,
`params_route`).

* `Path.params_route`: a full path has the placeholders of the root and then its own.
* `Path.route_join`: the root goes in front of a joined path as it goes in front of its base.
-/

namespace ResourceRouting
namespace Path

/-! ## Placeholders of the parts -/

theorem segments_append_slash (a b : String) :
    segments (a ++ "/" ++ b) = segments a ++ segments b :=
  Text.cut_append '/' a b

theorem params_append_slash (a b : String) : params (a ++ "/" ++ b) = params a ++ params b := by
  rw [params, segments_append_slash, List.filterMap_append, ← params, ← params]

@[simp]
theorem params_empty : params "" = [] := by decide

theorem params_slash_append (path : String) : params ("/" ++ path) = params path := by
  have h := params_append_slash "" path
  rw [String.empty_append, params_empty, List.nil_append] at h
  exact h

/-- Slashes make segments without a placeholder in them. -/
theorem params_ofList_dropWhile (cs : List Char) :
    params (String.ofList (cs.dropWhile isSlash)) = params (String.ofList cs) := by
  induction cs with
  | nil =>
      rfl
  | cons c cs ih =>
      by_cases hc : isSlash c = true
      · have hslash : c = '/' := by simpa [isSlash] using hc
        have hcons : String.ofList (c :: cs) = "/" ++ String.ofList cs := by
          apply String.toList_inj.1
          simp [hslash]
        rw [List.dropWhile_cons_of_pos hc, ih, hcons, params_slash_append]
      · rw [List.dropWhile_cons_of_neg hc]

theorem params_dropLeading (path : String) :
    params (Text.dropLeading isSlash path) = params path := by
  have h := params_ofList_dropWhile path.toList
  rw [String.ofList_toList] at h
  exact h

theorem params_ofList_dropWhile_reverse (cs : List Char) :
    params (String.ofList (cs.dropWhile isSlash).reverse) = params (String.ofList cs.reverse) := by
  induction cs with
  | nil =>
      rfl
  | cons c cs ih =>
      by_cases hc : isSlash c = true
      · have hslash : c = '/' := by simpa [isSlash] using hc
        have hconcat : String.ofList (c :: cs).reverse = String.ofList cs.reverse ++ "/" ++ "" := by
          apply String.toList_inj.1
          simp [hslash]
        rw [List.dropWhile_cons_of_pos hc, ih, hconcat, params_append_slash, params_empty,
          List.append_nil]
      · rw [List.dropWhile_cons_of_neg hc]

theorem params_dropTrailing (path : String) :
    params (Text.dropTrailing isSlash path) = params path := by
  have h := params_ofList_dropWhile_reverse path.toList.reverse
  rw [List.reverse_reverse, String.ofList_toList] at h
  exact h

theorem params_dropEnds (path : String) : params (Text.dropEnds isSlash path) = params path := by
  rw [Text.dropEnds, params_dropTrailing, params_dropLeading]

theorem params_join (base segment : String) :
    params (join base segment) = params base ++ params segment := by
  rw [join, params_append_slash, params_dropTrailing, params_dropEnds]

theorem joinParam_eq (base name : String) :
    joinParam base name = Text.dropTrailing isSlash base ++ "/" ++ (":" ++ name) := by
  apply String.toList_inj.1
  simp [joinParam]

/-- The name of a placeholder may have slashes in it, and then it is not one segment. -/
theorem params_joinParam (base name : String) :
    params (joinParam base name) = params base ++ params (":" ++ name) := by
  rw [joinParam_eq, params_append_slash, params_dropTrailing]

theorem params_ofSegments (parts : List String) :
    params (ofSegments parts) = parts.flatMap params := by
  by_cases hne : parts = []
  · rw [hne]
    rfl
  · have hcut : segments (ofSegments parts) = parts.flatMap segments :=
      Text.cut_glue_flatMap '/' hne
    rw [params, hcut, List.filterMap_flatMap]
    rfl

/-! ## The root in front -/

/-- The root of an application without the slashes around it. -/
def rootText (routing : Routing) : String := Text.dropEnds isSlash routing.rootPath

/-- What stands before the first segment of a full path. -/
def lead (routing : Routing) : String :=
  if rootText routing = "" then "/" else "/" ++ rootText routing ++ "/"

/-- The three forms that a full path has. -/
theorem route_eq (routing : Routing) (path : String) :
    routing.route path =
      if rootText routing = "" then "/" ++ Text.dropLeading isSlash path
      else if Text.dropLeading isSlash path = "" then "/" ++ rootText routing
      else "/" ++ rootText routing ++ "/" ++ Text.dropLeading isSlash path := by
  by_cases hroot : Text.dropEnds isSlash routing.rootPath = ""
  · simp [Routing.route, rootText, hroot]
  · by_cases hpath : Text.dropLeading isSlash path = ""
    · simp [Routing.route, rootText, hroot, hpath]
    · simp [Routing.route, rootText, hroot, hpath]

theorem params_rootText (routing : Routing) :
    params (rootText routing) = params routing.rootPath :=
  params_dropEnds routing.rootPath

/-- A full path has the placeholders of the root and then those of the relative path. -/
theorem params_route (routing : Routing) (path : String) :
    params (routing.route path) = params routing.rootPath ++ params path := by
  rw [← params_rootText, ← params_dropLeading path, route_eq]
  by_cases hroot : rootText routing = ""
  · rw [if_pos hroot, hroot, params_slash_append, params_empty, List.nil_append]
  · rw [if_neg hroot]
    by_cases hpath : Text.dropLeading isSlash path = ""
    · rw [if_pos hpath, hpath, params_slash_append, params_empty, List.append_nil]
    · rw [if_neg hpath, params_append_slash, params_slash_append]

/-! ## Texts that begin with a segment -/

/-- The text begins with a character that is no slash. -/
def Bare (path : String) : Prop := ∃ c rest, path.toList = c :: rest ∧ isSlash c = false

theorem Bare.ne_empty {path : String} (h : Bare path) : path ≠ "" := by
  rcases h with ⟨c, rest, hpath, -⟩
  rintro rfl
  cases hpath

theorem Bare.append {path : String} (h : Bare path) (other : String) : Bare (path ++ other) := by
  rcases h with ⟨c, rest, hpath, hc⟩
  exact ⟨c, rest ++ other.toList, by rw [String.toList_append, hpath, List.cons_append], hc⟩

theorem Bare.dropLeading {path : String} (h : Bare path) :
    Text.dropLeading isSlash path = path := by
  rcases h with ⟨c, rest, hpath, hc⟩
  apply String.toList_inj.1
  simp [hpath, hc]

theorem dropLeading_slash_append {path : String} (h : Bare path) :
    Text.dropLeading isSlash ("/" ++ path) = path := by
  have hslash : Text.dropLeading isSlash ("/" ++ path) = Text.dropLeading isSlash path := by
    apply String.toList_inj.1
    simp [isSlash]
  rw [hslash, h.dropLeading]

/-- Slashes at the end are dropped no further than to a character that is none. -/
theorem rdropWhile_append_cons {p : Char → Bool} {c : Char} (hc : p c = false)
    (before after : List Char) :
    (before ++ c :: after).rdropWhile p = before ++ c :: after.rdropWhile p := by
  induction after using List.reverseRecOn with
  | nil =>
      simp [hc]
  | append_singleton rest last ih =>
      rw [← List.cons_append, ← List.append_assoc, List.rdropWhile_concat, ih,
        List.rdropWhile_concat]
      by_cases hlast : p last = true
      · rw [if_pos hlast, if_pos hlast]
      · rw [if_neg hlast, if_neg hlast]
        simp

theorem Bare.dropTrailing_append {path : String} (h : Bare path) (before : String) :
    Text.dropTrailing isSlash (before ++ path) = before ++ Text.dropTrailing isSlash path := by
  rcases h with ⟨c, rest, hpath, hc⟩
  have hkept := rdropWhile_append_cons hc before.toList rest
  have halone := rdropWhile_append_cons hc [] rest
  unfold List.rdropWhile at hkept halone
  apply String.toList_inj.1
  simp only [Text.toList_dropTrailing, String.toList_append, hpath]
  rw [hkept]
  rw [List.nil_append, List.nil_append] at halone
  rw [halone]

theorem Bare.dropTrailing {path : String} (h : Bare path) :
    Bare (Text.dropTrailing isSlash path) := by
  rcases h with ⟨c, rest, hpath, hc⟩
  have hkept := rdropWhile_append_cons hc [] rest
  unfold List.rdropWhile at hkept
  rw [List.nil_append, List.nil_append] at hkept
  refine ⟨c, (rest.reverse.dropWhile isSlash).reverse, ?_, hc⟩
  rw [Text.toList_dropTrailing, hpath, hkept]

theorem Bare.join {base : String} (h : Bare base) (segment : String) :
    Bare (Path.join base segment) :=
  (h.dropTrailing.append "/").append _

theorem route_of_bare {path : String} (h : Bare path) (routing : Routing) :
    routing.route path = lead routing ++ path := by
  rw [route_eq, lead, h.dropLeading]
  by_cases hroot : rootText routing = ""
  · rw [if_pos hroot, if_pos hroot]
  · rw [if_neg hroot, if_neg hroot, if_neg h.ne_empty]

/-- The root goes in front of a joined path as it goes in front of its base. -/
theorem route_join {base : String} (h : Bare base) (routing : Routing) (segment : String) :
    routing.route (join base segment) = join (routing.route base) segment := by
  calc
    routing.route (join base segment)
        = lead routing ++ join base segment := route_of_bare (h.join segment) routing
    _ = lead routing ++ Text.dropTrailing isSlash base ++ "/" ++ Text.dropEnds isSlash segment := by
        simp only [join, String.append_assoc]
    _ = join (lead routing ++ base) segment := by
        rw [join, h.dropTrailing_append]
    _ = join (routing.route base) segment := by
        rw [route_of_bare h]

end Path
end ResourceRouting
