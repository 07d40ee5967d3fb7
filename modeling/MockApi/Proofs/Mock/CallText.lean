import Mathlib.Data.List.Basic
import MockApi.Mock.GeneratorCall
import MockApi.Proofs.Text.Run

/-! # Texts of generator calls

A call is taken apart from the front: a word with the blanks behind it, then a run of characters
that ends where the next word starts. The calls without arguments stand in a table, and none of them
begins as a call with arguments does.
-/

namespace MockApi.Capability

/-! ## The table -/

/-- A capability without arguments is found by its call. -/
theorem find?_fixed {c : Capability} {s : String} (h : c.fixedCall? = some s) :
    fixed.find? (fun d => d.fixedCall? == some s) = some c := by
  cases c <;> cases h <;> rfl

/-- No call of the table has an argument object or a pattern. -/
theorem not_mem_of_fixed {c : Capability} {s : String} (h : c.fixedCall? = some s) :
    '\x7b' ∉ s.toList ∧ '/' ∉ s.toList := by
  cases c <;> cases h <;> rw [Text.toList_of_eq_ofList rfl] <;> decide

theorem find?_fixed_eq_none {s : String} (hs : '\x7b' ∈ s.toList ∨ '/' ∈ s.toList) :
    fixed.find? (fun d => d.fixedCall? == some s) = none := by
  refine List.find?_eq_none.mpr fun c _ h => ?_
  obtain ⟨hbrace, hslash⟩ := not_mem_of_fixed (beq_iff_eq.mp h)
  exact hs.elim hbrace hslash

/-- Of two words that go apart neither begins with the other. -/
def Apart (word other : List Char) : Prop :=
  word.isPrefixOf other = false ∧ other.isPrefixOf word = false

instance (word other : List Char) : Decidable (Apart word other) :=
  inferInstanceAs (Decidable (_ ∧ _))

theorem Apart.after?_eq_none {word other rest : List Char} (h : Apart word other) :
    Text.after? word (other ++ rest) = none := by
  rw [Text.after?, if_neg]
  intro hprefix
  rcases List.prefix_or_prefix_of_prefix (List.isPrefixOf_iff_prefix.mp hprefix)
    (List.prefix_append other rest) with hword | hother
  · exact absurd (List.isPrefixOf_iff_prefix.mpr hword) (Bool.eq_false_iff.mp h.1)
  · exact absurd (List.isPrefixOf_iff_prefix.mpr hother) (Bool.eq_false_iff.mp h.2)

/-! ## Blanks around calls -/

/-- A text that neither begins nor ends with a blank. -/
def Trimmed (s : String) : Prop :=
  (s.toList.head?.any fun c => !Text.isBlank c) = true ∧
    (s.toList.getLast?.any fun c => !Text.isBlank c) = true

instance (s : String) : Decidable (Trimmed s) :=
  inferInstanceAs (Decidable (_ ∧ _))

theorem Trimmed.trim {inner before after : String} (h : Trimmed inner)
    (hbefore : before.toList.all Text.isBlank = true)
    (hafter : after.toList.all Text.isBlank = true) :
    Text.trim (before ++ inner ++ after) = inner := by
  obtain ⟨c, hc, hhead⟩ := (Option.any_eq_true _ _).mp h.1
  obtain ⟨d, hd, hlast⟩ := (Option.any_eq_true _ _).mp h.2
  refine Text.trim_blanks hbefore hafter ?_ ?_ ?_
  · intro hnil
    rw [hnil] at hc
    cases hc
  · intro c' hc'
    rwa [Option.mem_unique hc' hc, ← Bool.not_eq_true']
  · intro d' hd'
    rwa [Option.mem_unique hd' hd, ← Bool.not_eq_true']

theorem Trimmed.trim_self {s : String} (h : Trimmed s) : Text.trim s = s := by
  have htrim : Text.trim ("" ++ s ++ "") = s := h.trim rfl rfl
  rwa [String.empty_append, String.append_empty] at htrim

theorem Trimmed.of_append {first middle last : String} (hfirst : first.toList ≠ [])
    (hlast : last.toList ≠ []) (h : Trimmed (first ++ last)) :
    Trimmed (first ++ middle ++ last) := by
  rw [Trimmed, String.toList_append, List.head?_append_of_ne_nil _ hfirst,
    List.getLast?_append_of_ne_nil _ hlast] at h
  rwa [Trimmed, String.toList_append, String.toList_append, List.append_assoc,
    List.head?_append_of_ne_nil _ hfirst, ← List.append_assoc,
    List.getLast?_append_of_ne_nil _ hlast]

namespace Call

/-! ## Words and runs -/

theorem isBlank_space : Text.isBlank ' ' = true := rfl

/-- A word and a blank behind it. -/
theorem afterWord?_space {word : String} {rest : List Char}
    (hrest : ∀ c ∈ rest.head?, Text.isBlank c = false) :
    afterWord? word (word.toList ++ ' ' :: rest) = some rest := by
  rw [afterWord?, Text.after?_append, Option.map_some, List.dropWhile_cons_of_pos isBlank_space,
    Text.dropWhile_of_head hrest]

theorem run?_append {inside : Char → Bool} {taken rest : List Char} (hne : taken ≠ [])
    (htaken : ∀ c ∈ taken, inside c = true) (hrest : ∀ c ∈ rest.head?, inside c = false) :
    run? inside (taken ++ rest) = some (taken, rest) := by
  have htake := Text.takeWhile_run htaken hrest
  simp only [run?, htake, List.drop_left]
  rw [List.isEmpty_eq_false_iff.mpr hne]
  rfl

/-- A number with an optional minus sign. -/
theorem signed?_append {negative : Bool} {taken rest : List Char} (hne : taken ≠ [])
    (htaken : ∀ c ∈ taken, isNumberChar c = true)
    (hrest : ∀ c ∈ rest.head?, isNumberChar c = false) :
    signed? ((if negative then ['-'] else []) ++ taken ++ rest) =
      some ((if negative then ['-'] else []) ++ taken, rest) := by
  have hrun := run?_append hne htaken hrest
  cases negative with
  | true =>
      change (run? isNumberChar (taken ++ rest)).map _ = _
      rw [hrun]
      rfl
  | false =>
      obtain ⟨c, later, rfl⟩ := List.exists_cons_of_ne_nil hne
      have hc : c ≠ '-' := by
        rintro rfl
        exact absurd (htaken _ List.mem_cons_self) (by decide)
      change signed? (c :: (later ++ rest)) = some (c :: later, rest)
      rw [← hrun]
      unfold signed?
      split
      next h => exact absurd (List.cons.inj h).1 hc
      next => rfl

theorem natBelow?_toDigits {limit n : ℕ} (h : n < limit) :
    natBelow? limit (Nat.toDigits 10 n) = some n := by
  rw [natBelow?, readNat?_toDigits]
  simp [h]

/-! ## Calls that begin otherwise -/

section

variable {word rest cs : List Char} (hcs : cs = word ++ rest)

include hcs

theorem number?_of_apart (h : Apart "faker.number.int(\x7b".toList word) : number? cs = none := by
  rw [hcs, number?, afterWord?, h.after?_eq_none]
  rfl

theorem float?_of_apart (h : Apart "faker.number.float(\x7b".toList word) : float? cs = none := by
  rw [hcs, float?, afterWord?, h.after?_eq_none]
  rfl

theorem alpha?_of_apart (h : Apart "faker.string.alpha(\x7b".toList word) : alpha? cs = none := by
  rw [hcs, alpha?, afterWord?, h.after?_eq_none]
  rfl

theorem pattern?_of_apart (h : Apart "faker.helpers.fromRegExp(/".toList word) :
    pattern? cs = none := by
  rw [hcs, pattern?, h.after?_eq_none]
  rfl

end

end Call

end MockApi.Capability
