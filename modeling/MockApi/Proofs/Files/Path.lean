import MockApi.Files.Tree
import MockApi.Proofs.Text.Split

/-! # Places of path names

The place of a name below a path name is one step below the place of the path name, however the
path name is written.
-/

namespace MockApi

/-- A name that leads from a folder to something in it. -/
structure PathName.IsName (name : String) : Prop where
  notMem : '/' ∉ name.toList
  ne_empty : name ≠ ""
  ne_dot : name ≠ "."
  ne_up : name ≠ ".."

namespace PathName

theorem segments_of_isName {name : String} (h : IsName name) : segments name = [name] := by
  rw [segments, Text.split_of_notMem h.notMem]
  simp [h.ne_empty, h.ne_dot]

theorem segments_of_toList_eq {path name : String} (before : List Char) (h : IsName name)
    (hpath : path.toList = before ++ '/' :: name.toList) :
    segments path = segments (String.ofList before) ++ [name] := by
  have hname := segments_of_isName h
  unfold segments at hname ⊢
  rw [Text.split_of_toList_eq hpath, String.ofList_toList, List.filter_append, hname]

theorem not_isAbsolute_of_isName {name : String} (h : IsName name) : isAbsolute name = false := by
  have hnot := h.notMem
  unfold isAbsolute
  cases hchars : name.toList with
  | nil => rfl
  | cons c rest =>
      have hc : c ≠ '/' := by
        rintro rfl
        exact hnot (hchars ▸ List.mem_cons_self)
      simpa using hc

/-- A slash at the end of a path name does not matter. -/
theorem segments_of_slash {path : String} {before : List Char} (h : path.toList = before ++ ['/']) :
    segments path = segments (String.ofList before) := by
  unfold segments
  rw [Text.split_of_toList_eq h, List.filter_append]
  simp [Text.split, Text.splitAt]

theorem isAbsolute_append {base : String} (hbase : base ≠ "") (rest : String) :
    isAbsolute (base ++ rest) = isAbsolute base := by
  unfold isAbsolute
  rw [String.toList_append, List.head?_append_of_ne_nil]
  simpa using hbase

theorem segments_join {base name : String} (h : IsName name) :
    segments (join base name) = segments base ++ [name] := by
  unfold join
  simp only [not_isAbsolute_of_isName h, Bool.false_or]
  split
  next hbase =>
    obtain rfl : base = "" := by simpa using hbase
    exact segments_of_isName h
  next hbase =>
    split
    next hslash =>
      obtain ⟨before, hbefore⟩ := List.getLast?_eq_some_iff.mp hslash
      rw [segments_of_slash hbefore]
      exact segments_of_toList_eq before h (by simp [hbefore])
    next =>
      rw [segments_of_toList_eq base.toList h (by simp), String.ofList_toList]

theorem isAbsolute_join {base name : String} (h : IsName name) :
    isAbsolute (join base name) = isAbsolute base := by
  unfold join
  simp only [not_isAbsolute_of_isName h, Bool.false_or]
  split
  next hbase =>
    obtain rfl : base = "" := by simpa using hbase
    exact not_isAbsolute_of_isName h
  next hbase =>
    have hne : base ≠ "" := by simpa using hbase
    split
    next => exact isAbsolute_append hne name
    next =>
      rw [String.append_assoc]
      exact isAbsolute_append hne _

theorem toList_join (base : String) {name : String} (h : IsName name) :
    ∃ before, (join base name).toList = before ++ name.toList := by
  unfold join
  simp only [not_isAbsolute_of_isName h, Bool.false_or]
  split
  next => exact ⟨[], rfl⟩
  next =>
    split
    next => exact ⟨base.toList, by simp⟩
    next => exact ⟨base.toList ++ ['/'], by simp⟩

end PathName

namespace FileTree

open PathName

theorem follow_append_name (start : Place) (segments : List String) {name : String}
    (h : IsName name) : follow start (segments ++ [name]) = follow start segments ++ [name] := by
  rw [follow, List.foldl_append]
  simp [follow, h.ne_up]

/-- What has a name is found one step below. -/
theorem locate_join (t : FileTree) (base : String) {name : String} (h : IsName name) :
    t.locate (join base name) = t.locate base ++ [name] := by
  rw [locate, isAbsolute_join h, segments_join h, follow_append_name _ _ h]
  rfl

end FileTree

end MockApi
