import MockApi.Proofs.Files.Path
import MockApi.Proofs.Spec.Method
import MockApi.Output.Manifest

/-! # The names of modules

The name of a module tells the method of its endpoint, and of the path what is left when its
segments are joined by dashes. Paths that differ only in where they have slashes and dashes, or in
empty segments, have one name; so have the path without segments and the one segment that stands in
for it. Paths without dashes are told apart.
-/

namespace MockApi

/-- The segments of a path that are not empty. -/
def pathSegments (path : String) : List String :=
  (Text.split '/' path).filter fun s => !s.isEmpty

/-- What the name of a module keeps of a path. -/
def moduleStem (path : String) : String :=
  if (pathSegments path).isEmpty then "root" else Json.joinWith "-" (pathSegments path)

theorem moduleFileName_eq (method path : String) :
    moduleFileName method path = Text.toLower method ++ "-" ++ moduleStem path ++ ".js" := rfl

theorem slash_notMem_moduleStem (path : String) : '/' ∉ (moduleStem path).toList := by
  unfold moduleStem
  split
  next => decide
  next =>
    intro h
    rcases Json.mem_toList_joinWith h with hdash | ⟨segment, hsegment, hslash⟩
    · revert hdash
      decide
    · exact Text.notMem_of_mem_split (List.mem_filter.mp hsegment).1 hslash

theorem toList_moduleFileName (m : Method) (path : String) :
    (moduleFileName m.lower path).toList =
      m.lower.toList ++ '-' :: ((moduleStem path).toList ++ ".js".toList) := by
  rw [moduleFileName_eq, m.toLower_lower]
  simp

theorem isName_moduleFileName (m : Method) (path : String) :
    PathName.IsName (moduleFileName m.lower path) := by
  have hdash : '-' ∈ (moduleFileName m.lower path).toList := by
    rw [toList_moduleFileName]
    simp
  have hne : ∀ name : String, '-' ∉ name.toList → moduleFileName m.lower path ≠ name := by
    rintro name hname rfl
    exact hname hdash
  refine ⟨?_, hne "" (by decide), hne "." (by decide), hne ".." (by decide)⟩
  rw [toList_moduleFileName]
  have hmethod := m.slash_notMem_lower
  have hstem := slash_notMem_moduleStem path
  simp [hmethod, hstem]

/-- The name of a module tells the method, and the path up to its stem. -/
theorem moduleFileName_eq_iff {m m' : Method} {path path' : String} :
    moduleFileName m.lower path = moduleFileName m'.lower path' ↔
      m = m' ∧ moduleStem path = moduleStem path' := by
  constructor
  · intro h
    have hchars := congrArg String.toList h
    rw [toList_moduleFileName, toList_moduleFileName, Method.lower_dash_inj] at hchars
    exact ⟨hchars.1, String.toList_inj.mp (List.append_cancel_right hchars.2)⟩
  · rintro ⟨rfl, hstem⟩
    rw [moduleFileName_eq, moduleFileName_eq, hstem]

/-! ## Paths without dashes -/

/-- What is joined by dashes in the name of a module. -/
def stemPieces (path : String) : List String :=
  if pathSegments path = [] then ["root"] else pathSegments path

theorem moduleStem_eq_joinWith (path : String) :
    moduleStem path = Json.joinWith "-" (stemPieces path) := by
  unfold moduleStem stemPieces
  by_cases hempty : pathSegments path = [] <;> simp [hempty, Json.joinWith]

theorem stemPieces_ne_nil (path : String) : stemPieces path ≠ [] := by
  unfold stemPieces
  split
  next => simp
  next hne => exact hne

theorem dash_notMem_of_mem_stemPieces {path : String}
    (h : ∀ s ∈ pathSegments path, '-' ∉ s.toList) : ∀ s ∈ stemPieces path, '-' ∉ s.toList := by
  unfold stemPieces
  split
  next => decide
  next => exact h

/-- Without dashes, and without the segment that stands in for none, the name of a module tells the
segments of the path. -/
theorem pathSegments_eq_of_moduleStem_eq {path path' : String}
    (hdash : ∀ s ∈ pathSegments path, '-' ∉ s.toList)
    (hdash' : ∀ s ∈ pathSegments path', '-' ∉ s.toList) (hroot : pathSegments path ≠ ["root"])
    (hroot' : pathSegments path' ≠ ["root"]) (h : moduleStem path = moduleStem path') :
    pathSegments path = pathSegments path' := by
  rw [moduleStem_eq_joinWith, moduleStem_eq_joinWith] at h
  have hpieces := Json.joinWith_injective '-' (dash_notMem_of_mem_stemPieces hdash)
    (dash_notMem_of_mem_stemPieces hdash') (stemPieces_ne_nil path) (stemPieces_ne_nil path') h
  unfold stemPieces at hpieces
  split at hpieces
  next hempty =>
    split at hpieces
    next hempty' => rw [hempty, hempty']
    next => exact absurd hpieces.symm hroot'
  next =>
    split at hpieces
    next => exact absurd hpieces hroot
    next => exact hpieces

/-- The path is written with one slash before each of its segments, without dashes, and is not the
segment that stands in for none. -/
structure IsPlainPath (path : String) : Prop where
  slashes : path = "/" ++ Json.joinWith "/" (pathSegments path)
  dashless : ∀ s ∈ pathSegments path, '-' ∉ s.toList
  notRoot : pathSegments path ≠ ["root"]

instance (path : String) : Decidable (IsPlainPath path) :=
  decidable_of_iff (path = "/" ++ Json.joinWith "/" (pathSegments path) ∧
    (∀ s ∈ pathSegments path, '-' ∉ s.toList) ∧ pathSegments path ≠ ["root"])
    ⟨fun h => ⟨h.1, h.2.1, h.2.2⟩, fun h => ⟨h.slashes, h.dashless, h.notRoot⟩⟩

theorem IsPlainPath.eq_of_moduleStem_eq {path path' : String} (h : IsPlainPath path)
    (h' : IsPlainPath path') (hstem : moduleStem path = moduleStem path') : path = path' := by
  have hsegments := pathSegments_eq_of_moduleStem_eq h.dashless h'.dashless h.notRoot h'.notRoot
    hstem
  rw [h.slashes, h'.slashes, hsegments]

example : IsPlainPath "/users/\x7bid\x7d" ∧ ¬ IsPlainPath "/users/" ∧
    ¬ IsPlainPath "/users-\x7bid\x7d" := by
  decide +kernel

end MockApi
