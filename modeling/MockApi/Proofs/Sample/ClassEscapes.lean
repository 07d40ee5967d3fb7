import MockApi.Proofs.Sample.Anchors

/-! # Classes written out

A pattern is read from left to right in escape pairs and other characters. The pairs of six letters
stand for classes, and writing these out changes nothing else. What is written out has none of the
pairs left, and it ends where a piece ends. So it stays as it is when it is written out again, and a
pattern that is cut between two pieces can be written out part by part.
-/

namespace MockApi.Sample

open Capability

/-- The escape pairs that stand for classes, with the classes among the first 128 code points. -/
def classEscapes : List (List Char × String) :=
  [(['\\', 'd'], "[0-9]"), (['\\', 'D'], "[^0-9]"), (['\\', 'w'], "[0-9A-Za-z_]"),
    (['\\', 'W'], "[^0-9A-Za-z_]"), (['\\', 's'], "[\\t\\n\\v\\f\\r ]"),
    (['\\', 'S'], "[^\\t\\n\\v\\f\\r ]")]

/-- The piece stands for a class. -/
def IsClassEscape (piece : List Char) : Prop := piece ∈ classEscapes.map Prod.fst

instance : DecidablePred IsClassEscape := fun _ => inferInstanceAs (Decidable (_ ∈ _))

/-- A piece, or the class that it stands for. -/
def writtenOut (piece : List Char) : List Char :=
  ((classEscapes.lookup piece).map String.toList).getD piece

section

variable {cs piece : List Char}

/-! ## Cutting between pieces -/

/-- Where the backslashes at the end of a text pair up, a piece ends. -/
theorem pieces_append (h : Even (backslashesAtEnd cs)) (rest : List Char) :
    pieces (cs ++ rest) = pieces cs ++ pieces rest := by
  induction cs using pieces_induction with
  | nil => rfl
  | lone =>
      have hodd : backslashesAtEnd ['\\'] = 1 := rfl
      rw [hodd] at h
      exact absurd h (by decide)
  | pair c later ih =>
      rw [List.cons_append, List.cons_append, pieces, pieces, List.cons_append,
        ih ((even_backslashesAtEnd_pair c later).mp h)]
  | single c later hc ih =>
      rw [backslashesAtEnd_cons hc] at h
      rw [List.cons_append, pieces_cons hc, pieces_cons hc, List.cons_append, ih h]

theorem pieces_singleton (c : Char) : pieces [c] = [[c]] := by
  by_cases hc : c = '\\'
  · subst hc
    rfl
  · exact pieces_cons hc

/-! ## Pieces written out -/

theorem writtenOut_of_not_isClassEscape (h : ¬ IsClassEscape piece) : writtenOut piece = piece := by
  have hnone : classEscapes.lookup piece = none := by
    rw [List.lookup_eq_none_iff]
    intro e he
    rw [bne_iff_ne]
    rintro rfl
    exact h (List.mem_map_of_mem he)
  rw [writtenOut, hnone]
  rfl

theorem writtenOut_singleton (c : Char) : writtenOut [c] = [c] :=
  writtenOut_of_not_isClassEscape (by simp [IsClassEscape, classEscapes])

theorem writtenOut_pair (c : Char) :
    writtenOut ['\\', c] = ((asciiClass? c).map String.toList).getD ['\\', c] := by
  unfold asciiClass?
  split
  case h_7 hd hD hw hW hs hS =>
    refine writtenOut_of_not_isClassEscape ?_
    simpa [IsClassEscape, classEscapes] using ⟨hd, hD, hw, hW, hs, hS⟩
  all_goals rfl

theorem exists_writtenOut_of_isClassEscape (h : IsClassEscape piece) :
    ∃ e ∈ classEscapes, writtenOut piece = e.2.toList := by
  have hall : ∀ e ∈ classEscapes, writtenOut e.1 = e.2.toList := by decide +kernel
  obtain ⟨e, he, rfl⟩ := List.mem_map.mp h
  exact ⟨e, he, hall e he⟩

/-- A class ends where a piece ends. -/
theorem even_backslashesAtEnd_writtenOut (c : Char) :
    Even (backslashesAtEnd (writtenOut ['\\', c])) := by
  by_cases h : IsClassEscape ['\\', c]
  · have hall : ∀ e ∈ classEscapes, Even (backslashesAtEnd e.2.toList) := by decide +kernel
    obtain ⟨e, he, heq⟩ := exists_writtenOut_of_isClassEscape h
    exact heq ▸ hall e he
  · rw [writtenOut_of_not_isClassEscape h, even_backslashesAtEnd_pair]
    exact ⟨0, rfl⟩

/-- No piece of a class stands for a class. -/
theorem not_isClassEscape_of_mem_writtenOut (c : Char)
    (h : piece ∈ pieces (writtenOut ['\\', c])) : ¬ IsClassEscape piece := by
  by_cases hpair : IsClassEscape ['\\', c]
  · have hall : ∀ e ∈ classEscapes, ∀ p ∈ pieces e.2.toList, ¬ IsClassEscape p := by
      decide +kernel
    obtain ⟨e, he, heq⟩ := exists_writtenOut_of_isClassEscape hpair
    exact hall e he piece (heq ▸ h)
  · rw [writtenOut_of_not_isClassEscape hpair] at h
    exact List.mem_singleton.mp h ▸ hpair

/-! ## Patterns written out -/

theorem asciiClasses_pair (c : Char) (rest : List Char) :
    asciiClasses ('\\' :: c :: rest) = writtenOut ['\\', c] ++ asciiClasses rest := by
  rw [asciiClasses, writtenOut_pair]
  cases asciiClass? c <;> rfl

theorem asciiClasses_cons {c : Char} (hc : c ≠ '\\') (rest : List Char) :
    asciiClasses (c :: rest) = c :: asciiClasses rest :=
  asciiClasses.eq_2 c rest fun _ _ h => absurd h hc

theorem asciiClasses_eq_flatMap (cs : List Char) :
    asciiClasses cs = (pieces cs).flatMap writtenOut := by
  induction cs using pieces_induction with
  | nil => rfl
  | lone => rfl
  | pair c rest ih => rw [asciiClasses_pair, pieces, List.flatMap_cons, ih]
  | single c rest hc ih =>
      rw [asciiClasses_cons hc, pieces_cons hc, List.flatMap_cons, writtenOut_singleton, ih]
      rfl

/-- The pieces of what is written out are the pieces of the parts that are. -/
theorem pieces_asciiClasses (cs : List Char) :
    pieces (asciiClasses cs) = (pieces cs).flatMap fun piece => pieces (writtenOut piece) := by
  induction cs using pieces_induction with
  | nil => rfl
  | lone => rfl
  | pair c rest ih =>
      rw [asciiClasses_pair, pieces_append (even_backslashesAtEnd_writtenOut c), pieces,
        List.flatMap_cons, ih]
  | single c rest hc ih =>
      rw [asciiClasses_cons hc, pieces_cons hc, pieces_cons hc, List.flatMap_cons,
        writtenOut_singleton, pieces_singleton, ih]
      rfl

theorem not_isClassEscape_of_mem_asciiClasses (h : piece ∈ pieces (asciiClasses cs)) :
    ¬ IsClassEscape piece := by
  rw [pieces_asciiClasses] at h
  obtain ⟨original, horiginal, hpiece⟩ := List.mem_flatMap.mp h
  rcases mem_pieces horiginal with ⟨c, rfl⟩ | ⟨c, rfl⟩
  · rw [writtenOut_singleton, pieces_singleton] at hpiece
    rw [List.mem_singleton.mp hpiece]
    simp [IsClassEscape, classEscapes]
  · exact not_isClassEscape_of_mem_writtenOut c hpiece

/-- Without pairs that stand for classes nothing changes. -/
theorem asciiClasses_of_forall (h : ∀ piece ∈ pieces cs, ¬ IsClassEscape piece) :
    asciiClasses cs = cs := by
  have hsame : (pieces cs).flatMap writtenOut = (pieces cs).flatMap id :=
    List.flatMap_congr fun piece hpiece => writtenOut_of_not_isClassEscape (h piece hpiece)
  rw [asciiClasses_eq_flatMap, hsame, List.flatMap_id, flatten_pieces]

/-- Exactly the escape pairs that stand for classes are written out, and none are left. Writing out
again changes nothing, and a text that ends in no unpaired backslash is written out by itself,
whatever stands behind it. -/
theorem asciiClasses_writes_out (cs : List Char) :
    asciiClasses cs = (pieces cs).flatMap writtenOut ∧
      (∀ piece ∈ pieces (asciiClasses cs), ¬ IsClassEscape piece) ∧
      asciiClasses (asciiClasses cs) = asciiClasses cs ∧
      (Even (backslashesAtEnd cs) →
        ∀ rest, asciiClasses (cs ++ rest) = asciiClasses cs ++ asciiClasses rest) := by
  refine ⟨asciiClasses_eq_flatMap cs, fun _ => not_isClassEscape_of_mem_asciiClasses,
    asciiClasses_of_forall fun _ => not_isClassEscape_of_mem_asciiClasses, fun h rest => ?_⟩
  rw [asciiClasses_eq_flatMap, pieces_append h, List.flatMap_append, ← asciiClasses_eq_flatMap,
    ← asciiClasses_eq_flatMap]

end

/-- An escaped backslash keeps the letter behind it from standing for a class. -/
theorem asciiClasses_writes_out_backslash :
    let text := ['\\', 'd', '\\', '\\']
    Even (backslashesAtEnd text) ∧
      asciiClasses (text ++ ['d']) = "[0-9]".toList ++ ['\\', '\\', 'd'] := by
  intro text
  have heven : Even (backslashesAtEnd text) := ⟨1, rfl⟩
  have hcut := (asciiClasses_writes_out text).2.2.2 heven ['d']
  exact ⟨heven, hcut.trans (by decide +kernel)⟩

end MockApi.Sample
