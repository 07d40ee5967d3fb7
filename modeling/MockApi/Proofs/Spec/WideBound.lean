import Mathlib.Data.List.TakeWhile
import MockApi.Proofs.Text.Run
import MockApi.Proofs.Text.Split
import MockApi.Spec.WideBound

/-! # Replacing wide bounds line by line

A wide bound begins at the start of a line, and only blanks let it go on to another one. So a line
break before anything that cannot be the value of a bound separates a text: both sides are replaced
each by itself. The number of lines stays.
-/

namespace MockApi

namespace Text

/-- A word without a separator is found before the separator or not at all. -/
theorem after?_append_cons {word : List Char} {separator : Char} (h : separator ∉ word)
    (cs rest : List Char) :
    after? word (cs ++ separator :: rest) = (after? word cs).map (· ++ separator :: rest) := by
  cases hcs : after? word cs with
  | some later =>
      rw [after?_eq_some_iff.mp hcs, List.append_assoc, after?_append]
      rfl
  | none =>
      refine Option.eq_none_iff_forall_ne_some.mpr fun later hlater => ?_
      have hword : word <+: cs ++ separator :: rest := ⟨later, (after?_eq_some_iff.mp hlater).symm⟩
      rcases List.prefix_or_prefix_of_prefix hword (List.prefix_append cs _) with
        ⟨inner, rfl⟩ | ⟨inner, rfl⟩
      · rw [after?_append] at hcs
        cases hcs
      · cases inner with
        | nil =>
            rw [List.append_nil] at hcs
            cases hcs.symm.trans (List.append_nil cs ▸ after?_append cs [])
        | cons c inner =>
            rw [List.prefix_append_right_inj, List.cons_prefix_cons] at hword
            exact h (hword.1 ▸ List.mem_append_right cs List.mem_cons_self)

/-- The first separator tells what stands before it from what stands behind it. -/
theorem append_cons_inj_of_notMem {separator : Char} {before before' after after' : List Char}
    (h : separator ∉ before) (h' : separator ∉ before') :
    before ++ separator :: after = before' ++ separator :: after' ↔
      before = before' ∧ after = after' := by
  constructor
  · intro heq
    rcases List.append_eq_append_iff.mp heq with ⟨more, rfl, hmore⟩ | ⟨more, rfl, hmore⟩
    · cases more with
      | nil => simpa using hmore
      | cons c more =>
          obtain rfl : separator = c := List.head_eq_of_cons_eq hmore
          exact absurd (List.mem_append_right before List.mem_cons_self) h'
    · cases more with
      | nil => simpa [eq_comm] using hmore
      | cons c more =>
          obtain rfl : separator = c := List.head_eq_of_cons_eq hmore
          exact absurd (List.mem_append_right before' List.mem_cons_self) h
  · rintro ⟨rfl, rfl⟩
    rfl

end Text

namespace Spec.WideBound

variable {cs rest lead value : List Char} {negative : Bool} {count : ℕ}

/-! ## Literals -/

/-- The sign and the length of a wide literal with the given sign, whose digits come first. -/
def wide? (negative : Bool) (body : List Char) : Option (Bool × ℕ) :=
  let count := (body.takeWhile Text.isAnyDigit).length
  if count < digitCount then none else some (negative, if negative then count + 1 else count)

theorem literal?_minus (rest : List Char) : literal? ('-' :: rest) = wide? true rest := rfl

theorem literal?_of_head? (h : cs.head? ≠ some '-') : literal? cs = wide? false cs := by
  refine literal?.eq_2 cs ?_
  rintro rest rfl
  exact h rfl

/-- Digits are read up to something else. -/
theorem wide?_append (hrest : ∀ c ∈ rest.head?, Text.isAnyDigit c = false) (negative : Bool)
    (body : List Char) : wide? negative (body ++ rest) = wide? negative body := by
  have hrun : (body ++ rest).takeWhile Text.isAnyDigit = body.takeWhile Text.isAnyDigit := by
    induction body with
    | nil => exact Text.takeWhile_run (List.forall_mem_nil _) hrest
    | cons c body ih => rw [List.cons_append, List.takeWhile_cons, List.takeWhile_cons, ih]
  rw [wide?, wide?, hrun]

/-- A literal is read up to what begins neither with a digit nor with a minus sign. -/
theorem literal?_append (hrest : ∀ c ∈ rest.head?, Text.isAnyDigit c = false ∧ c ≠ '-')
    (cs : List Char) : literal? (cs ++ rest) = literal? cs := by
  have hdigit : ∀ c ∈ rest.head?, Text.isAnyDigit c = false := fun c hc => (hrest c hc).1
  by_cases h : cs.head? = some '-'
  · obtain ⟨later, rfl⟩ := List.head?_eq_some_iff.mp h
    exact wide?_append hdigit true later
  · have hwhole : (cs ++ rest).head? ≠ some '-' := by
      cases cs with
      | nil => exact fun hminus => (hrest '-' hminus).2 rfl
      | cons c later => exact h
    rw [literal?_of_head? h, literal?_of_head? hwhole, wide?_append hdigit]

/-- A literal is read up to a line break. -/
theorem literal?_append_line (cs rest : List Char) :
    literal? (cs ++ '\n' :: rest) = literal? cs := by
  refine literal?_append (fun c hc => ?_) cs
  obtain rfl := Option.some.inj hc
  decide

theorem wide?_eq_some_iff {body : List Char} {sign : Bool} :
    wide? sign body = some (negative, count) ↔
      digitCount ≤ (body.takeWhile Text.isAnyDigit).length ∧ sign = negative ∧
        count = (body.takeWhile Text.isAnyDigit).length + negative.toNat := by
  rw [wide?, Option.ite_none_left_eq_some, Nat.not_lt, Option.some.injEq, Prod.mk.injEq]
  cases sign <;> cases negative <;> simp [eq_comm]

/-- A wide literal is the front of the text, on one line. -/
theorem exists_of_literal? (h : literal? cs = some (negative, count)) :
    ∃ taken rest, cs = taken ++ rest ∧ taken.length = count ∧ taken ≠ [] ∧ '\n' ∉ taken := by
  have hline (body : List Char) : '\n' ∉ body.takeWhile Text.isAnyDigit :=
    fun hmem => absurd (List.mem_takeWhile_imp hmem) (by decide)
  by_cases hminus : cs.head? = some '-'
  · obtain ⟨body, rfl⟩ := List.head?_eq_some_iff.mp hminus
    obtain ⟨-, rfl, rfl⟩ := wide?_eq_some_iff.mp h
    refine ⟨'-' :: body.takeWhile Text.isAnyDigit, body.dropWhile Text.isAnyDigit, ?_, rfl,
      List.cons_ne_nil _ _, ?_⟩
    · rw [List.cons_append, List.takeWhile_append_dropWhile]
    · simpa using hline body
  · rw [literal?_of_head? hminus] at h
    obtain ⟨hwide, rfl, rfl⟩ := wide?_eq_some_iff.mp h
    refine ⟨cs.takeWhile Text.isAnyDigit, cs.dropWhile Text.isAnyDigit,
      List.takeWhile_append_dropWhile.symm, rfl, ?_, hline cs⟩
    exact List.ne_nil_of_length_pos (Nat.lt_of_lt_of_le (by decide) hwide)

/-- No wide literal comes first in the text, blanks apart. -/
def NoLiteral (cs : List Char) : Prop := literal? (cs.dropWhile Text.isBlank) = none

/-! ## Bounds -/

/-- What stands behind a colon that comes first. -/
def afterColon? : List Char → Option (List Char)
  | ':' :: rest => some rest
  | _ => none

theorem afterColon?_eq_some_iff : afterColon? cs = some rest ↔ cs = ':' :: rest := by
  constructor
  · intro h
    unfold afterColon? at h
    split at h
    next => rw [Option.some.inj h]
    next => cases h
  · rintro rfl
    rfl

/-- What stands behind a keyword and its colon, without the blanks around them. -/
def value? (cs : List Char) : Option (List Char) :=
  ((afterKeyword? (cs.dropWhile Text.isBlank)).bind afterColon?).map (·.dropWhile Text.isBlank)

theorem afterKeyword?_eq_some {later : List Char} (h : afterKeyword? cs = some later) :
    ∃ word ∈ keywords, cs = word ++ later := by
  obtain ⟨word, hword, hlater⟩ := List.exists_of_findSome?_eq_some h
  exact ⟨word, hword, Text.after?_eq_some_iff.mp hlater⟩

theorem afterKeyword?_append_cons {separator : Char} (h : ∀ word ∈ keywords, separator ∉ word)
    (cs rest : List Char) :
    afterKeyword? (cs ++ separator :: rest) =
      (afterKeyword? cs).map (· ++ separator :: rest) := by
  unfold afterKeyword?
  generalize keywords = words at h ⊢
  induction words with
  | nil => rfl
  | cons word words ih =>
      rw [List.forall_mem_cons] at h
      rw [List.findSome?_cons, List.findSome?_cons, Text.after?_append_cons h.1, ih h.2]
      cases Text.after? word cs <;> rfl

theorem newline_notMem_keyword : ∀ word ∈ keywords, '\n' ∉ word := by
  decide +kernel

theorem colon_notMem_keyword : ∀ word ∈ keywords, ':' ∉ word := by
  decide +kernel

theorem afterKeyword?_keyword : ∀ word ∈ keywords, afterKeyword? word = some [] := by
  decide +kernel

/-- The value of a bound stands behind a keyword and a colon, blanks apart. -/
theorem value?_eq_some_iff : value? cs = some value ↔
    ∃ word ∈ keywords, ∃ rest, cs.dropWhile Text.isBlank = word ++ ':' :: rest ∧
      value = rest.dropWhile Text.isBlank := by
  constructor
  · intro h
    obtain ⟨rest, hrest, rfl⟩ := Option.map_eq_some_iff.mp h
    obtain ⟨later, hlater, hcolon⟩ := Option.bind_eq_some_iff.mp hrest
    obtain rfl := afterColon?_eq_some_iff.mp hcolon
    obtain ⟨word, hword, hcs⟩ := afterKeyword?_eq_some hlater
    exact ⟨word, hword, rest, hcs, rfl⟩
  · rintro ⟨word, hword, rest, hcs, rfl⟩
    rw [value?, hcs, afterKeyword?_append_cons colon_notMem_keyword,
      afterKeyword?_keyword word hword]
    rfl

/-- The value of a bound ends the text, and stands behind something. -/
theorem exists_of_value? (h : value? cs = some value) : ∃ front ≠ [], cs = front ++ value := by
  obtain ⟨word, -, rest, hword, rfl⟩ := value?_eq_some_iff.mp h
  refine ⟨cs.takeWhile Text.isBlank ++ (word ++ ':' :: rest.takeWhile Text.isBlank), by simp, ?_⟩
  rw [List.append_assoc, List.append_assoc, List.cons_append, List.takeWhile_append_dropWhile,
    ← hword, List.takeWhile_append_dropWhile]

theorem bound?_eq (cs : List Char) :
    bound? cs = (value? cs).bind fun value => (literal? value).map fun found =>
      (cs.take (cs.length - value.length), found.1, found.2) := by
  rw [bound?, value?]
  cases afterKeyword? (cs.dropWhile Text.isBlank) with
  | none => rfl
  | some later =>
      rw [Option.bind_eq_bind, Option.bind_some, Option.bind_some]
      split
      next rest =>
        cases hliteral : literal? (rest.dropWhile Text.isBlank) <;> simp [afterColon?, hliteral]
      next hcolon =>
        rw [afterColon?.eq_2 later hcolon]
        rfl

/-- A bound is what stands before its value, and the literal that the value begins with. -/
theorem bound?_eq_some_iff : bound? cs = some (lead, negative, count) ↔
    ∃ value, value? cs = some value ∧ cs = lead ++ value ∧
      literal? value = some (negative, count) := by
  rw [bound?_eq, Option.bind_eq_some_iff]
  refine exists_congr fun value => and_congr_right fun hvalue => ?_
  obtain ⟨front, -, rfl⟩ := exists_of_value? hvalue
  have hfront : (front ++ value).take ((front ++ value).length - value.length) = front := by
    rw [List.length_append, Nat.add_sub_cancel, List.take_left]
  rw [hfront, List.append_cancel_right_eq, Option.map_eq_some_iff]
  constructor
  · rintro ⟨found, hfound, heq⟩
    cases heq
    exact ⟨rfl, hfound⟩
  · rintro ⟨rfl, hfound⟩
    exact ⟨_, hfound, rfl⟩

/-! ## Bounds and line breaks -/

theorem dropWhile_append_line (cs rest : List Char) :
    (cs ++ '\n' :: rest).dropWhile Text.isBlank =
      if cs.dropWhile Text.isBlank = [] then rest.dropWhile Text.isBlank
      else cs.dropWhile Text.isBlank ++ '\n' :: rest := by
  have hbreak : Text.isBlank '\n' = true := rfl
  rw [List.dropWhile_append, List.dropWhile_cons_of_pos hbreak]
  simp only [List.isEmpty_iff]

/-- The value of a bound goes on behind a line break, unless it has not begun before it. -/
theorem value?_append_line (h : cs.dropWhile Text.isBlank ≠ []) (rest : List Char) :
    value? (cs ++ '\n' :: rest) = (value? cs).map fun value =>
      if value = [] then rest.dropWhile Text.isBlank else value ++ '\n' :: rest := by
  rw [value?, value?, dropWhile_append_line, if_neg h,
    afterKeyword?_append_cons newline_notMem_keyword]
  rcases afterKeyword? (cs.dropWhile Text.isBlank) with _ | _ | ⟨c, later⟩
  · rfl
  · rfl
  · by_cases hc : c = ':'
    · subst hc
      exact congrArg some (dropWhile_append_line later rest)
    · have hnone (later : List Char) : afterColon? (c :: later) = none :=
        afterColon?.eq_2 _ fun inner heq => hc (List.head_eq_of_cons_eq heq)
      simp [hnone]

/-- A line break ends a bound, where what follows is no literal. -/
theorem bound?_append_line (h : cs.dropWhile Text.isBlank ≠ []) (hrest : NoLiteral rest) :
    bound? (cs ++ '\n' :: rest) = bound? cs := by
  rw [bound?_eq, bound?_eq, value?_append_line h]
  cases hvalue : value? cs with
  | none => rfl
  | some value =>
      rw [Option.map_some, Option.bind_some, Option.bind_some]
      by_cases hnil : value = []
      · subst hnil
        rw [if_pos rfl, hrest]
        rfl
      · obtain ⟨front, -, rfl⟩ := exists_of_value? hvalue
        have hlength : (front ++ value ++ '\n' :: rest).length - (value ++ '\n' :: rest).length =
            front.length := by
          simp
        rw [if_neg hnil, literal?_append_line, hlength, List.length_append, Nat.add_sub_cancel,
          List.take_left, List.append_assoc, List.take_left]

theorem bound?_of_blank (h : cs.dropWhile Text.isBlank = []) : bound? cs = none := by
  have hvalue : value? cs = none := by
    rw [value?, h]
    rfl
  rw [bound?_eq, hvalue, Option.bind_none]

/-- Blank lines before a bound are the front of what stands before its value. -/
theorem bound?_blank_line (h : cs.dropWhile Text.isBlank = []) (rest : List Char) :
    bound? (cs ++ '\n' :: rest) = (bound? rest).map fun found =>
      (cs ++ '\n' :: found.1, found.2) := by
  have hvalue : value? (cs ++ '\n' :: rest) = value? rest := by
    rw [value?, value?, dropWhile_append_line, if_pos h]
  rw [bound?_eq, bound?_eq, hvalue]
  cases hrest : value? rest with
  | none => rfl
  | some value =>
      obtain ⟨front, -, rfl⟩ := exists_of_value? hrest
      have hlength : (cs ++ '\n' :: (front ++ value)).length - value.length =
          (cs ++ '\n' :: front).length := by
        simp; omega
      have hsplit : cs ++ '\n' :: (front ++ value) = cs ++ '\n' :: front ++ value := by simp
      rw [Option.bind_some, Option.bind_some, hlength, hsplit, List.take_left, List.length_append,
        Nat.add_sub_cancel, List.take_left, Option.map_map]
      rfl

/-! ## Replacing -/

theorem replaceFrom_skip {skip : ℕ} (h : skip ≠ 0) (atLineStart : Bool) (cs : List Char) :
    replaceFrom atLineStart skip cs = replaceFrom false 0 (cs.drop skip) := by
  obtain ⟨skip, rfl⟩ := Nat.exists_eq_succ_of_ne_zero h
  clear h
  induction cs generalizing atLineStart skip with
  | nil => rfl
  | cons c rest ih =>
      rw [replaceFrom, List.drop_succ_cons]
      cases skip with
      | zero => rfl
      | succ skip => exact ih false skip

/-- A character at which no bound begins stays. -/
theorem replaceFrom_cons {atLineStart : Bool} {c : Char}
    (h : atLineStart = true → bound? (c :: rest) = none) :
    replaceFrom atLineStart 0 (c :: rest) = c :: replaceFrom (c == '\n') 0 rest := by
  cases atLineStart with
  | false => rfl
  | true => rw [replaceFrom, if_pos rfl, h rfl]

/-- A bound is what stands before a literal, and the literal, on one line. -/
theorem exists_of_bound? (h : bound? cs = some (lead, negative, count)) :
    ∃ literal rest, cs = lead ++ (literal ++ rest) ∧ literal.length = count ∧ lead ≠ [] ∧
      literal ≠ [] ∧ '\n' ∉ literal := by
  obtain ⟨value, hvalue, hcs, hliteral⟩ := bound?_eq_some_iff.mp h
  obtain ⟨front, hfront, hcs'⟩ := exists_of_value? hvalue
  obtain rfl := List.append_cancel_right (hcs.symm.trans hcs')
  obtain ⟨literal, rest, rfl, hlength, hne, hline⟩ := exists_of_literal? hliteral
  exact ⟨literal, rest, hcs, hlength, hfront, hne, hline⟩

/-- A bound is written with the replacement of its literal. -/
theorem replaceFrom_bound {literal : List Char}
    (h : bound? (lead ++ (literal ++ rest)) = some (lead, negative, literal.length)) :
    replaceFrom true 0 (lead ++ (literal ++ rest)) =
      lead ++ (replacement negative ++ replaceFrom false 0 rest) := by
  obtain ⟨literal', -, -, hlength, hlead, hliteral, -⟩ := exists_of_bound? h
  obtain ⟨c, lead, rfl⟩ := List.exists_cons_of_ne_nil hlead
  have hskip : (c :: lead).length + literal.length - 1 = (lead ++ literal).length := by simp
  have hne : (lead ++ literal).length ≠ 0 := by
    have hpos := List.length_pos_iff.mpr hliteral
    rw [List.length_append]
    omega
  rw [List.cons_append] at h ⊢
  rw [replaceFrom, if_pos rfl, h]
  change _ ++ replaceFrom false ((c :: lead).length + literal.length - 1) _ = _
  rw [hskip, replaceFrom_skip hne, ← List.append_assoc, List.drop_left, List.append_assoc]

/-- Induction over a text as it is replaced: a character stays, or a bound begins with it. -/
@[elab_as_elim]
theorem replaceFrom_induction {motive : Bool → List Char → Prop} (atLineStart : Bool)
    (cs : List Char) (nil : ∀ atLineStart, motive atLineStart [])
    (stays : ∀ atLineStart c rest, (atLineStart = true → bound? (c :: rest) = none) →
      motive (c == '\n') rest → motive atLineStart (c :: rest))
    (bound : ∀ lead negative literal rest,
      bound? (lead ++ (literal ++ rest)) = some (lead, negative, literal.length) →
        '\n' ∉ literal → motive false rest → motive true (lead ++ (literal ++ rest))) :
    motive atLineStart cs := by
  induction hlength : cs.length using Nat.strongRecOn generalizing atLineStart cs with
  | ind n ih =>
      subst hlength
      cases cs with
      | nil => exact nil atLineStart
      | cons c cs =>
          by_cases hnone : atLineStart = true → bound? (c :: cs) = none
          · exact stays atLineStart c cs hnone (ih cs.length (Nat.lt_succ_self _) _ cs rfl)
          · obtain ⟨rfl, hsome⟩ := Classical.not_imp.mp hnone
            obtain ⟨⟨lead, negative, count⟩, hfound⟩ := Option.ne_none_iff_exists'.mp hsome
            obtain ⟨literal, later, hcs, rfl, hlead, -, hline⟩ := exists_of_bound? hfound
            have hshorter : later.length < (lead ++ (literal ++ later)).length := by
              have hpos := List.length_pos_iff.mpr hlead
              simp only [List.length_append]
              omega
            rw [hcs] at hfound ih ⊢
            exact bound lead negative literal later hfound hline
              (ih later.length hshorter false later rfl)

theorem newline_notMem_replacement (negative : Bool) : '\n' ∉ replacement negative := by
  cases negative <;> decide +kernel

/-- Replacing keeps the number of lines. -/
theorem count_newline_replaceFrom (atLineStart : Bool) (cs : List Char) :
    (replaceFrom atLineStart 0 cs).count '\n' = cs.count '\n' := by
  induction atLineStart, cs using replaceFrom_induction with
  | nil => rfl
  | stays atLineStart c rest hnone ih =>
      rw [replaceFrom_cons hnone, List.count_cons, List.count_cons, ih]
  | bound lead negative literal rest hfound hline ih =>
      rw [replaceFrom_bound hfound]
      simp only [List.count_append, ih, List.count_eq_zero_of_not_mem hline,
        List.count_eq_zero_of_not_mem (newline_notMem_replacement negative)]

/-! ## Lines -/

theorem dropWhile_eq_nil_of_cons {c : Char} (h : (c :: cs).dropWhile Text.isBlank = []) :
    cs.dropWhile Text.isBlank = [] := by
  rw [List.dropWhile_eq_nil_iff] at h ⊢
  exact fun d hd => h d (List.mem_cons_of_mem c hd)

/-- Blanks stay. -/
theorem replaceFrom_of_blank (h : cs.dropWhile Text.isBlank = []) (atLineStart : Bool) :
    replaceFrom atLineStart 0 cs = cs := by
  induction cs generalizing atLineStart with
  | nil => rfl
  | cons c rest ih =>
      rw [replaceFrom_cons fun _ => bound?_of_blank h, ih (dropWhile_eq_nil_of_cons h)]

/-- Blank lines that belong to a bound of what follows stay. -/
theorem replaceFrom_of_blank_bound (h : cs.dropWhile Text.isBlank = [])
    (hbegins : bound? (cs ++ '\n' :: rest) ≠ none) :
    replaceFrom true 0 (cs ++ '\n' :: rest) = cs ++ '\n' :: replaceFrom true 0 rest := by
  rw [bound?_blank_line h, ne_eq, Option.map_eq_none_iff] at hbegins
  obtain ⟨⟨lead, negative, count⟩, hfound⟩ := Option.ne_none_iff_exists'.mp hbegins
  obtain ⟨literal, later, rfl, rfl, -, -, -⟩ := exists_of_bound? hfound
  have hwhole : bound? (cs ++ '\n' :: lead ++ (literal ++ later)) =
      some (cs ++ '\n' :: lead, negative, literal.length) := by
    rw [List.append_assoc, List.cons_append, bound?_blank_line h, hfound]
    rfl
  have hreplaced := replaceFrom_bound hwhole
  rw [List.append_assoc, List.cons_append] at hreplaced
  rw [hreplaced, replaceFrom_bound hfound, List.append_assoc, List.cons_append]

/-- Blank lines stay, whatever follows. -/
theorem replaceFrom_blank_line (h : cs.dropWhile Text.isBlank = []) (atLineStart : Bool)
    (rest : List Char) :
    replaceFrom atLineStart 0 (cs ++ '\n' :: rest) = cs ++ '\n' :: replaceFrom true 0 rest := by
  induction cs generalizing atLineStart with
  | nil =>
      by_cases hnone : atLineStart = true → bound? ('\n' :: rest) = none
      · exact replaceFrom_cons hnone
      · obtain ⟨rfl, hbegins⟩ := Classical.not_imp.mp hnone
        exact replaceFrom_of_blank_bound h hbegins
  | cons c cs ih =>
      by_cases hnone : atLineStart = true → bound? (c :: (cs ++ '\n' :: rest)) = none
      · rw [List.cons_append, replaceFrom_cons hnone, ih (dropWhile_eq_nil_of_cons h),
          List.cons_append]
      · obtain ⟨rfl, hbegins⟩ := Classical.not_imp.mp hnone
        exact replaceFrom_of_blank_bound h hbegins

/-- A line break separates a text for replacing, where what follows is no literal. -/
theorem replaceFrom_append_line (hrest : NoLiteral rest) (atLineStart : Bool) (cs : List Char) :
    replaceFrom atLineStart 0 (cs ++ '\n' :: rest) =
      replaceFrom atLineStart 0 cs ++ '\n' :: replaceFrom true 0 rest := by
  induction atLineStart, cs using replaceFrom_induction with
  | nil atLineStart => exact replaceFrom_blank_line rfl atLineStart rest
  | stays atLineStart c cs hnone ih =>
      by_cases hblank : (c :: cs).dropWhile Text.isBlank = []
      · rw [replaceFrom_blank_line hblank, replaceFrom_of_blank hblank]
      · have hwhole : atLineStart = true → bound? (c :: (cs ++ '\n' :: rest)) = none :=
          fun hstart => (bound?_append_line hblank hrest).trans (hnone hstart)
        rw [List.cons_append, replaceFrom_cons hwhole, replaceFrom_cons hnone, ih, List.cons_append]
  | bound lead negative literal later hfound _ ih =>
      have hblank : (lead ++ (literal ++ later)).dropWhile Text.isBlank ≠ [] := by
        intro hblank
        rw [bound?_of_blank hblank] at hfound
        cases hfound
      have hwhole : bound? (lead ++ (literal ++ (later ++ '\n' :: rest))) =
          some (lead, negative, literal.length) := by
        rw [← hfound, ← bound?_append_line hblank hrest, List.append_assoc, List.append_assoc]
      rw [List.append_assoc, List.append_assoc, replaceFrom_bound hwhole, replaceFrom_bound hfound,
        ih, List.append_assoc, List.append_assoc]

/-- On a line behind its start all stays. -/
theorem replaceFrom_append_of_notMem (h : '\n' ∉ cs) (rest : List Char) :
    replaceFrom false 0 (cs ++ rest) = cs ++ replaceFrom false 0 rest := by
  induction cs with
  | nil => rfl
  | cons c cs ih =>
      have hflag : (c == '\n') = false := beq_false_of_ne (List.ne_of_not_mem_cons h).symm
      have hstays : replaceFrom false 0 (c :: (cs ++ rest)) =
          c :: replaceFrom (c == '\n') 0 (cs ++ rest) := rfl
      rw [List.cons_append, hstays, hflag, ih (List.not_mem_of_not_mem_cons h), List.cons_append]

/-- A line at which no bound begins stays. -/
theorem replaceFrom_append_of_bound?_eq_none (h : '\n' ∉ cs) (hne : cs ≠ [])
    (hnone : bound? (cs ++ rest) = none) :
    replaceFrom true 0 (cs ++ rest) = cs ++ replaceFrom false 0 rest := by
  obtain ⟨c, cs, rfl⟩ := List.exists_cons_of_ne_nil hne
  rw [List.cons_append] at hnone ⊢
  rw [replaceFrom_cons fun _ => hnone, beq_false_of_ne (List.ne_of_not_mem_cons h).symm,
    replaceFrom_append_of_notMem (List.not_mem_of_not_mem_cons h), List.cons_append]

end Spec.WideBound

end MockApi
