import Mathlib.Data.List.Basic
import MockApi.Files.Tree

/-! # Changes of a tree

Each change is told by what it leaves at every place. Writing touches one file and no folder; making
a folder touches no file; removing one touches no file beside it.
-/

namespace MockApi.FileTree

variable {t : FileTree} {place : Place}

theorem above_append_singleton (place : Place) (name : String) :
    above (place ++ [name]) = above place ++ [place] := by
  unfold above
  rw [List.length_append, List.length_singleton, List.range_succ, List.map_append,
    List.map_singleton, List.take_left]
  congr 1
  refine List.map_congr_left fun n hn => ?_
  exact List.take_append_of_le_length (Nat.le_of_lt (List.mem_range.mp hn))

/-- The places on the way to a place are others. -/
theorem ne_of_mem_above {p : Place} (h : p ∈ above place) : p ≠ place := by
  rintro rfl
  obtain ⟨n, hn, htake⟩ := List.mem_map.mp h
  have hlength := congrArg List.length htake
  rw [List.length_take] at hlength
  have hlt := List.mem_range.mp hn
  omega

theorem holds?_eq_some (h : ∀ p ∈ above place, t.isFile p = false) :
    t.holds? place = some (t.isFile place || t.isFolder place) := by
  have hany : (above place).any t.isFile = false := by
    simpa using h
  rw [holds?, hany]
  rfl

/-! ## Writing -/

theorem lookup_map_text (change : Place → String → String) (files : List (Place × String))
    (p : Place) :
    (files.map fun f => (f.1, change f.1 f.2)).lookup p = (files.lookup p).map (change p) := by
  induction files with
  | nil => rfl
  | cons f rest ih =>
      rw [List.map_cons, List.lookup_cons, List.lookup_cons, ih]
      by_cases hp : p = f.1
      · simp [hp]
      · have hbeq : (p == f.1) = false := by simpa using hp
        rw [hbeq]

theorem text?_put (t : FileTree) (place p : Place) (text : String) :
    (t.put place text).text? p = if p = place then some text else t.text? p := by
  unfold put
  split
  next hfile =>
    obtain ⟨old, hold⟩ := Option.isSome_iff_exists.mp hfile
    have hmap : (t.files.map fun f => if f.1 = place then (place, text) else f) =
        t.files.map fun f => (f.1, if f.1 = place then text else f.2) := by
      refine List.map_congr_left fun f _ => ?_
      by_cases hf : f.1 = place <;> simp [hf]
    change (t.files.map _).lookup p = _
    rw [hmap, lookup_map_text fun q old => if q = place then text else old]
    by_cases hp : p = place
    · subst hp
      have hlookup : t.files.lookup p = some old := hold
      simp [hlookup]
    · simp [hp, text?]
  next hfile =>
    have hnone : t.files.lookup place = none := Option.not_isSome_iff_eq_none.mp hfile
    change (t.files ++ [(place, text)]).lookup p = _
    rw [List.lookup_append]
    by_cases hp : p = place
    · simp [hp, hnone]
    · have hbeq : (p == place) = false := by simpa using hp
      simp [List.lookup_cons, hp, hbeq, text?]

@[simp] theorem home_put (t : FileTree) (place : Place) (text : String) :
    (t.put place text).home = t.home := by
  unfold put
  split <;> rfl

@[simp] theorem isFolder_put (t : FileTree) (place p : Place) (text : String) :
    (t.put place text).isFolder p = t.isFolder p := by
  unfold put
  split <;> rfl

/-- A text can be written into a folder, but not in place of one. -/
theorem write?_eq_some {name : String} (hfolder : t.isFolder place = true)
    (hname : t.isFolder (place ++ [name]) = false) (text : String) :
    t.write? (place ++ [name]) text = some (t.put (place ++ [name]) text) := by
  rw [write?, List.dropLast_concat, hfolder, hname]
  simp

/-! ## Making folders -/

theorem isFolder_iff {p : Place} : t.isFolder p = true ↔ p = [] ∨ p ∈ t.folders := by
  simp [isFolder]

/-- A folder can be made when no file is in the way. -/
theorem exists_makeFolders?_eq_some (h : ∀ p ∈ above place ++ [place], t.isFile p = false) :
    ∃ made, t.makeFolders? place = some made ∧ made.home = t.home ∧ made.files = t.files ∧
      ∀ p, made.isFolder p = true ↔ t.isFolder p = true ∨ p ∈ above place ++ [place] := by
  have hany : (above place ++ [place]).any t.isFile = false := by
    simpa only [List.any_eq_false, Bool.not_eq_true] using h
  refine ⟨{ t with folders := t.folders ++ (above place ++ [place]).filter fun p => !t.isFolder p },
    ?_, rfl, rfl, fun p => ?_⟩
  · rw [makeFolders?, if_neg (by rw [hany]; exact Bool.false_ne_true)]
  · have hnew : p ∈ (above place ++ [place]).filter (fun p => !t.isFolder p) ↔
        p ∈ above place ++ [place] ∧ ¬t.isFolder p = true := by
      rw [List.mem_filter, Bool.not_eq_true', Bool.not_eq_true]
    rw [isFolder_iff, List.mem_append, hnew, ← or_assoc, ← isFolder_iff]
    by_cases hp : t.isFolder p = true <;> simp [hp]

/-! ## Removing folders -/

end MockApi.FileTree
