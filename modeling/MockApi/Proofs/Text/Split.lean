import Mathlib.Data.List.Basic
import MockApi.Json.Printer
import MockApi.Text.Search

/-! # Splitting and joining

The pieces of a text are those that lists are split into, so no piece holds the separator and texts
are split at a separator between them. Pieces without the separator are found again after joining.
-/

namespace MockApi

namespace Text

theorem splitAt_eq_splitOn (separator : Char) (cs : List Char) :
    splitAt separator cs = cs.splitOn separator := by
  induction cs with
  | nil => rfl
  | cons c rest ih =>
      rw [splitAt, List.splitOn_cons_eq_if_modifyHead, ih]
      by_cases hc : c = separator
      · simp [hc]
      · rw [if_neg hc, if_neg (by simpa using hc)]
        cases hpieces : rest.splitOn separator with
        | nil => exact absurd hpieces (List.splitOn_ne_nil separator rest)
        | cons piece pieces => rfl

theorem notMem_of_mem_splitAt {separator : Char} {cs piece : List Char}
    (h : piece ∈ splitAt separator cs) : separator ∉ piece := by
  induction cs generalizing piece with
  | nil =>
      obtain rfl := List.mem_singleton.mp h
      exact List.not_mem_nil
  | cons c rest ih =>
      rw [splitAt] at h
      split at h
      next =>
        rcases List.mem_cons.mp h with rfl | h
        · exact List.not_mem_nil
        · exact ih h
      next hc =>
        split at h
        next =>
          obtain rfl := List.mem_singleton.mp h
          simpa using Ne.symm hc
        next first pieces hpieces =>
          rw [hpieces] at ih
          rcases List.mem_cons.mp h with rfl | h
          · have hfirst := ih List.mem_cons_self
            simp [Ne.symm hc, hfirst]
          · exact ih (List.mem_cons_of_mem _ h)

theorem splitAt_append (separator : Char) (before after : List Char) :
    splitAt separator (before ++ separator :: after) =
      splitAt separator before ++ splitAt separator after := by
  simp only [splitAt_eq_splitOn, List.splitOn_append_cons_self]

theorem splitAt_of_notMem {separator : Char} {cs : List Char} (h : separator ∉ cs) :
    splitAt separator cs = [cs] := by
  rw [splitAt_eq_splitOn, List.splitOn_eq_singleton h]

theorem length_splitAt (separator : Char) (cs : List Char) :
    (splitAt separator cs).length = cs.count separator + 1 := by
  induction cs with
  | nil => rfl
  | cons c rest ih =>
      by_cases hc : c = separator
      · subst hc
        rw [← List.nil_append (c :: rest), splitAt_append, List.length_append, ih]
        simp [splitAt, Nat.add_comm]
      · rw [List.count_cons_of_ne hc, ← ih, splitAt, if_neg hc]
        cases hpieces : splitAt separator rest with
        | nil =>
            rw [hpieces] at ih
            cases ih
        | cons piece pieces => rfl

/-- A piece that separators or the ends of the text close is the first one. -/
theorem getElem?_zero_splitAt {separator : Char} {piece after : List Char}
    (hpiece : separator ∉ piece) (hafter : ∀ c ∈ after.head?, c = separator) :
    (splitAt separator (piece ++ after))[0]? = some piece := by
  cases after with
  | nil => rw [List.append_nil, splitAt_of_notMem hpiece]; rfl
  | cons c after =>
      obtain rfl := hafter c rfl
      rw [splitAt_append, splitAt_of_notMem hpiece]
      rfl

/-- The piece with an index stands between separators, behind so many pieces. -/
theorem getElem?_splitAt_iff {separator : Char} {cs piece : List Char} {i : ℕ} :
    (splitAt separator cs)[i]? = some piece ↔
      separator ∉ piece ∧ ∃ after, (∀ c ∈ after.head?, c = separator) ∧
        (i = 0 ∧ cs = piece ++ after ∨
          ∃ before, (splitAt separator before).length = i ∧
            cs = before ++ separator :: (piece ++ after)) := by
  constructor
  · intro h
    refine ⟨notMem_of_mem_splitAt (List.mem_of_getElem? h), ?_⟩
    induction i generalizing cs with
    | zero =>
        by_cases hmem : separator ∈ cs
        · obtain ⟨first, later, rfl, hfirst⟩ := List.eq_append_cons_of_mem hmem
          rw [getElem?_zero_splitAt hfirst (by simp)] at h
          obtain rfl := Option.some.inj h
          exact ⟨separator :: later, by simp, .inl ⟨rfl, rfl⟩⟩
        · rw [splitAt_of_notMem hmem] at h
          obtain rfl := Option.some.inj h
          exact ⟨[], by simp, .inl ⟨rfl, (List.append_nil _).symm⟩⟩
    | succ i ih =>
        by_cases hmem : separator ∈ cs
        · obtain ⟨first, later, rfl, hfirst⟩ := List.eq_append_cons_of_mem hmem
          rw [splitAt_append, splitAt_of_notMem hfirst] at h
          obtain ⟨after, hafter, ⟨rfl, rfl⟩ | ⟨before, hlength, rfl⟩⟩ := ih h
          · exact ⟨after, hafter, .inr ⟨first, by rw [splitAt_of_notMem hfirst]; rfl, rfl⟩⟩
          · refine ⟨after, hafter, .inr ⟨first ++ separator :: before, ?_, by simp⟩⟩
            rw [splitAt_append, splitAt_of_notMem hfirst, List.length_append, hlength, Nat.add_comm]
            rfl
        · rw [splitAt_of_notMem hmem] at h
          cases h
  · rintro ⟨hpiece, after, hafter, ⟨rfl, rfl⟩ | ⟨before, rfl, rfl⟩⟩
    · exact getElem?_zero_splitAt hpiece hafter
    · rw [splitAt_append, List.getElem?_append_right (Nat.le_refl _), Nat.sub_self]
      exact getElem?_zero_splitAt hpiece hafter

/-- A text in two pieces has one separator. -/
theorem splitAt_eq_pair_iff {separator : Char} {cs first second : List Char} :
    splitAt separator cs = [first, second] ↔
      cs = first ++ separator :: second ∧ separator ∉ first ∧ separator ∉ second := by
  constructor
  · intro h
    have hmem : ∀ piece ∈ [first, second], separator ∉ piece :=
      fun piece hpiece => notMem_of_mem_splitAt (h ▸ hpiece)
    have hjoin : [separator].intercalate (cs.splitOn separator) = cs :=
      List.intercalate_splitOn separator
    refine ⟨?_, hmem first (by simp), hmem second (by simp)⟩
    rw [← hjoin, ← splitAt_eq_splitOn, h]
    simp [List.intercalate]
  · rintro ⟨rfl, hfirst, hsecond⟩
    rw [splitAt_append, splitAt_of_notMem hfirst, splitAt_of_notMem hsecond]
    rfl

theorem notMem_of_mem_split {separator : Char} {s piece : String} (h : piece ∈ split separator s) :
    separator ∉ piece.toList := by
  obtain ⟨cs, hcs, rfl⟩ := List.mem_map.mp h
  rw [String.toList_ofList]
  exact notMem_of_mem_splitAt hcs

/-- A text without the separator is one piece. -/
theorem split_of_notMem {separator : Char} {s : String} (h : separator ∉ s.toList) :
    split separator s = [s] := by
  rw [split, splitAt_of_notMem h]
  simp

/-- The texts on both sides of a separator are split each by itself. -/
theorem split_of_toList_eq {separator : Char} {s : String} {before after : List Char}
    (h : s.toList = before ++ separator :: after) :
    split separator s =
      split separator (String.ofList before) ++ split separator (String.ofList after) := by
  simp only [split, h, String.toList_ofList, splitAt_append, List.map_append]

end Text

namespace Json

theorem toList_joinWith (separator : String) (pieces : List String) :
    (joinWith separator pieces).toList =
      separator.toList.intercalate (pieces.map String.toList) := by
  induction pieces with
  | nil => rfl
  | cons piece rest ih =>
      cases rest with
      | nil => simp [joinWith, List.intercalate]
      | cons next later =>
          rw [joinWith, String.toList_append, String.toList_append, ih]
          · simp [List.intercalate]
          · simp

theorem mem_toList_joinWith {separator : String} {pieces : List String} {c : Char}
    (h : c ∈ (joinWith separator pieces).toList) :
    c ∈ separator.toList ∨ ∃ p ∈ pieces, c ∈ p.toList := by
  fun_induction joinWith separator pieces with
  | case1 => simp at h
  | case2 piece => exact Or.inr ⟨piece, List.mem_singleton_self piece, h⟩
  | case3 piece rest _ ih =>
      rw [String.toList_append, String.toList_append] at h
      rcases List.mem_append.mp h with h | h
      · rcases List.mem_append.mp h with h | h
        · exact Or.inr ⟨piece, List.mem_cons_self, h⟩
        · exact Or.inl h
      · refine (ih h).imp_right ?_
        rintro ⟨p, hp, hc⟩
        exact ⟨p, List.mem_cons_of_mem _ hp, hc⟩

/-- Joined pieces tell the pieces, where none of them holds the separator. -/
theorem joinWith_injective (separator : Char) {pieces pieces' : List String}
    (hpieces : ∀ p ∈ pieces, separator ∉ p.toList) (hpieces' : ∀ p ∈ pieces', separator ∉ p.toList)
    (hne : pieces ≠ []) (hne' : pieces' ≠ [])
    (h : joinWith (String.singleton separator) pieces =
      joinWith (String.singleton separator) pieces') :
    pieces = pieces' := by
  have hlists : ∀ ps : List String, (∀ p ∈ ps, separator ∉ p.toList) → ps ≠ [] →
      (joinWith (String.singleton separator) ps).toList.splitOn separator =
        ps.map String.toList := by
    intro ps hps hps_ne
    rw [toList_joinWith, String.toList_singleton]
    refine List.splitOn_intercalate separator ?_ (by simpa using hps_ne)
    exact List.forall_mem_map.mpr hps
  have hmap : pieces.map String.toList = pieces'.map String.toList := by
    rw [← hlists pieces hpieces hne, h, hlists pieces' hpieces' hne']
  exact List.map_injective_iff.mpr (fun _ _ => String.toList_inj.mp) hmap

end Json

end MockApi
