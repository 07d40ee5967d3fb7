import MockApi.Proofs.Spec.WideBound

/-! # The order of bounds

Replacing looks at the digits of a literal and not at its value. Two literals that were both
replaced keep their order, and so do two that were not. Where just one was, the other one can lie
beyond the limit that stands there now, so that the bounds of a schema come out of order.
-/

namespace MockApi.Spec.WideBound

/-! ## Literals -/

/-- How a decimal literal is signed. -/
inductive Sign where
  | none
  | plus
  | minus
deriving DecidableEq, Repr

/-- The characters of a sign. -/
def Sign.text : Sign → List Char
  | .none => []
  | .plus => ['+']
  | .minus => ['-']

/-- An integer in decimal digits, with zeros in front or without. -/
structure IntegerLiteral where
  sign : Sign
  digits : List Char
  nonempty : digits ≠ []
  decimal : ∀ c ∈ digits, c.isDigit = true

namespace IntegerLiteral

variable (n : IntegerLiteral)

/-- The characters of a literal. -/
def text : List Char := n.sign.text ++ n.digits

/-- The integer that a literal stands for. -/
def value : ℤ :=
  if n.sign = .minus then -(Nat.ofDigitChars 10 n.digits 0 : ℤ) else Nat.ofDigitChars 10 n.digits 0

/-- A literal that is replaced at the start of a line. A plus sign keeps it. -/
def isWide : Bool := n.sign ≠ .plus && digitCount ≤ n.digits.length

/-- The literal that takes the place of a wide one. -/
def limit : IntegerLiteral :=
  if n.sign = .minus then
    ⟨.minus, "2147483648".toList, by decide +kernel, List.all_eq_true.mp (by decide +kernel)⟩
  else ⟨.none, "2147483647".toList, by decide +kernel, List.all_eq_true.mp (by decide +kernel)⟩

/-- An integer as it is usually written. -/
def ofInt (value : ℤ) : IntegerLiteral where
  sign := if value < 0 then .minus else .none
  digits := Nat.toDigits 10 value.natAbs
  nonempty := Nat.toDigits_ne_nil
  decimal := fun _ hc => Text.isDigit_of_mem_toDigits hc

theorem value_ofInt (value : ℤ) : (ofInt value).value = value := by
  rw [IntegerLiteral.value, ofInt, Nat.ofDigitChars_ten_toDigits]
  by_cases h : value < 0
  · rw [if_pos h, if_pos rfl]
    omega
  · rw [if_neg h, if_neg nofun]
    omega

theorem value_nonneg (h : n.sign ≠ .minus) : 0 ≤ n.value := by
  rw [value, if_neg h]
  exact Int.natCast_nonneg _

theorem value_nonpos (h : n.sign = .minus) : n.value ≤ 0 := by
  rw [value, if_pos h]
  exact Int.neg_nonpos_of_nonneg (Int.natCast_nonneg _)

theorem text_limit : n.limit.text = replacement (n.sign = .minus) := by
  by_cases h : n.sign = .minus
  · rw [limit, if_pos h, decide_eq_true h]
    decide +kernel
  · rw [limit, if_neg h, decide_eq_false h]
    decide +kernel

theorem value_limit : n.limit.value = if n.sign = .minus then -2147483648 else 2147483647 := by
  by_cases h : n.sign = .minus
  · rw [limit, if_pos h, if_pos h]
    decide +kernel
  · rw [limit, if_neg h, if_neg h]
    decide +kernel

theorem head_text {c : Char} (h : c ∈ n.text.head?) : c = '+' ∨ c = '-' ∨ c.isDigit = true := by
  rw [text] at h
  cases hsign : n.sign with
  | none =>
      rw [hsign] at h
      exact .inr (.inr (n.decimal c (List.mem_of_mem_head? h)))
  | plus =>
      rw [hsign] at h
      exact .inl (Option.some.inj h).symm
  | minus =>
      rw [hsign] at h
      exact .inr (.inl (Option.some.inj h).symm)

theorem text_ne_nil : n.text ≠ [] := by
  rw [text]
  exact List.append_ne_nil_of_right_ne_nil _ n.nonempty

theorem head_text_not_blank (rest : List Char) :
    ∀ c ∈ (n.text ++ rest).head?, Text.isBlank c = false := by
  intro c hc
  rw [List.head?_append_of_ne_nil _ n.text_ne_nil] at hc
  rcases n.head_text hc with rfl | rfl | hdigit
  · rfl
  · rfl
  · exact Text.isBlank_of_isDigit hdigit

theorem newline_notMem_text : '\n' ∉ n.text := by
  intro h
  rcases List.mem_append.mp h with hsign | hdigit
  · cases hsign' : n.sign <;> rw [hsign'] at hsign <;> revert hsign <;> decide
  · exact absurd (n.decimal _ hdigit) (by decide)

theorem wide?_digits (negative : Bool) :
    wide? negative n.digits =
      if digitCount ≤ n.digits.length then some (negative, n.digits.length + negative.toNat)
      else .none := by
  have hrun : n.digits.takeWhile Text.isAnyDigit = n.digits :=
    List.takeWhile_eq_self_iff.mpr fun c hc => Text.isAnyDigit_of_isDigit (n.decimal c hc)
  rw [wide?, hrun, ← ite_not (digitCount ≤ n.digits.length)]
  simp only [Nat.not_le]
  cases negative <;> rfl

/-- A literal is read just when it is wide. -/
theorem literal?_text_append {rest : List Char}
    (hrest : ∀ c ∈ rest.head?, Text.isAnyDigit c = false) :
    literal? (n.text ++ rest) =
      if n.isWide then some (decide (n.sign = .minus), n.text.length) else .none := by
  rw [text, isWide]
  cases n.sign with
  | none =>
      have hhead : (n.digits ++ rest).head? ≠ some '-' := by
        rw [List.head?_append_of_ne_nil _ n.nonempty]
        exact fun h => absurd (n.decimal '-' (List.mem_of_mem_head? h)) (by decide)
      change literal? (n.digits ++ rest) = _
      rw [literal?_of_head? hhead, wide?_append hrest, wide?_digits]
      simp [Sign.text]
  | plus =>
      change literal? ('+' :: (n.digits ++ rest)) = _
      rw [literal?_of_head? (by simp)]
      rfl
  | minus =>
      change literal? ('-' :: (n.digits ++ rest)) = _
      rw [literal?_minus, wide?_append hrest, wide?_digits]
      simp [Sign.text]

end IntegerLiteral

/-! ## Lines -/

/-- The lines of a text. -/
def lines (s : String) : List (List Char) := Text.splitAt '\n' s.toList

/-- A line that writes a bound: a keyword with a colon, blanks, a literal, and what is left of the
line. What stands before the keyword is no bound itself, and no wide literal. -/
structure BoundLine where
  lead : List Char
  keyword : List Char
  gap : List Char
  literal : IntegerLiteral
  tail : List Char
  lead_line : '\n' ∉ lead
  lead_keyword : ∀ word ∈ keywords, ¬ word <+: lead.dropWhile Text.isBlank
  lead_literal : NoLiteral lead
  keyword_mem : keyword ∈ keywords
  gap_blank : ∀ c ∈ gap, Text.isBlank c = true
  gap_line : '\n' ∉ gap
  tail_line : '\n' ∉ tail
  tail_apart : ∀ c ∈ tail.head?, Text.isAnyDigit c = false

namespace BoundLine

variable (l : BoundLine)

/-- What stands before the literal. -/
def front : List Char := l.lead ++ (l.keyword ++ ':' :: l.gap)

/-- The characters of a line. -/
def text : List Char := l.front ++ (l.literal.text ++ l.tail)

/-- A wide literal is replaced where only blanks stand before the keyword. -/
def isReplaced : Bool := l.lead.all Text.isBlank && l.literal.isWide

/-- The line with its literal replaced. -/
def replaced : BoundLine := if l.isReplaced then { l with literal := l.literal.limit } else l

theorem dropWhile_replicate_space (indent : ℕ) :
    (List.replicate indent ' ').dropWhile Text.isBlank = [] := by
  refine List.dropWhile_eq_nil_iff.mpr fun c hc => ?_
  rw [List.eq_of_mem_replicate hc]
  rfl

/-- A line as it is usually written: an indent, a keyword and a literal. -/
def plain (indent : ℕ) (keyword : List Char) (h : keyword ∈ keywords) (literal : IntegerLiteral) :
    BoundLine where
  lead := List.replicate indent ' '
  keyword := keyword
  gap := [' ']
  literal := literal
  tail := []
  lead_line := by simp
  lead_keyword := by
    rw [dropWhile_replicate_space]
    decide +kernel
  lead_literal := by
    rw [NoLiteral, dropWhile_replicate_space]
    rfl
  keyword_mem := h
  gap_blank := List.forall_mem_singleton.mpr rfl
  gap_line := by decide
  tail_line := List.not_mem_nil
  tail_apart := nofun

/-! ### Keywords -/

theorem eq_of_keyword_suffix :
    ∀ word ∈ keywords, ∀ later ∈ keywords, later <:+ word → later = word := by
  decide +kernel

theorem head?_keyword :
    ∀ word ∈ keywords, word.head? = some 'm' ∨ word.head? = some 'e' := by
  decide +kernel

/-! ### Reading a line -/

section

variable {after : List Char}

theorem newline_notMem_text : '\n' ∉ l.text := by
  have hkeyword := newline_notMem_keyword l.keyword l.keyword_mem
  simp [text, front, l.lead_line, hkeyword, l.gap_line, l.literal.newline_notMem_text, l.tail_line]

theorem text_ne_nil : l.text ≠ [] := by
  simp [text, front]

/-- What begins with the keyword of a line begins with none of a literal and with no blank. -/
theorem head_keyword_append (rest : List Char) : ∀ c ∈ (l.keyword ++ rest).head?,
    Text.isBlank c = false ∧ Text.isAnyDigit c = false ∧ c ≠ '-' := by
  intro c hc
  rcases head?_keyword l.keyword l.keyword_mem with h | h <;>
    (rw [List.head?_append, h] at hc
     obtain rfl := Option.some.inj hc
     decide)

/-- A line, blanks at its start apart, goes on with its keyword or with what stands before it. -/
theorem dropWhile_text_append (after : List Char) :
    (l.text ++ after).dropWhile Text.isBlank =
      l.lead.dropWhile Text.isBlank ++
        (l.keyword ++ ':' :: (l.gap ++ (l.literal.text ++ (l.tail ++ after)))) := by
  simp only [text, front, List.append_assoc, List.cons_append]
  rw [List.dropWhile_append, Text.dropWhile_of_head fun c hc => (l.head_keyword_append _ c hc).1]
  split
  next hlead => rw [List.isEmpty_iff.mp hlead, List.nil_append]
  next => rfl

/-- No wide literal goes on into a line. -/
theorem noLiteral_text_append (after : List Char) : NoLiteral (l.text ++ after) := by
  rw [NoLiteral, dropWhile_text_append,
    literal?_append fun c hc => (l.head_keyword_append _ c hc).2, l.lead_literal]

/-- Where only blanks stand before the keyword, the line has the value of a bound. -/
theorem value?_text_append_of_blank (h : l.lead.all Text.isBlank = true) (after : List Char) :
    value? (l.text ++ after) = some (l.literal.text ++ (l.tail ++ after)) := by
  refine value?_eq_some_iff.mpr ⟨l.keyword, l.keyword_mem, _, ?_,
    (Text.dropWhile_run l.gap_blank (l.literal.head_text_not_blank _)).symm⟩
  rw [dropWhile_text_append, List.dropWhile_eq_nil_iff.mpr (List.all_eq_true.mp h), List.nil_append]

/-- Anything but blanks before the keyword hides it, as no keyword ends in another one. -/
theorem value?_text_append_of_not_blank (h : ¬ l.lead.all Text.isBlank = true)
    (after : List Char) : value? (l.text ++ after) = none := by
  refine Option.eq_none_iff_forall_ne_some.mpr fun value hvalue => h ?_
  obtain ⟨word, hword, rest, hrest, -⟩ := value?_eq_some_iff.mp hvalue
  rw [dropWhile_text_append] at hrest
  rcases List.append_eq_append_iff.mp hrest with ⟨inner, rfl, hinner⟩ | ⟨inner, hinner, -⟩
  · have hcolon := colon_notMem_keyword _ hword
    obtain ⟨rfl, -⟩ := (Text.append_cons_inj_of_notMem
      (colon_notMem_keyword l.keyword l.keyword_mem)
      fun hmem => hcolon (List.mem_append_right _ hmem)).mp hinner
    have hself := eq_of_keyword_suffix _ hword _ l.keyword_mem (List.suffix_append _ _)
    rw [List.self_eq_append_left, List.dropWhile_eq_nil_iff] at hself
    exact List.all_eq_true.mpr hself
  · exact absurd ⟨inner, hinner.symm⟩ (l.lead_keyword word hword)

theorem text_append (after : List Char) :
    l.text ++ after = l.front ++ (l.literal.text ++ (l.tail ++ after)) := by
  simp only [text, List.append_assoc]

/-- A line is a bound just when it is replaced. -/
theorem bound?_text_append (hafter : ∀ c ∈ after.head?, c = '\n') :
    bound? (l.text ++ after) =
      if l.isReplaced then some (l.front, decide (l.literal.sign = .minus), l.literal.text.length)
      else none := by
  have hapart : ∀ c ∈ (l.tail ++ after).head?, Text.isAnyDigit c = false := by
    cases htail : l.tail with
    | nil =>
        intro c hc
        rw [hafter c hc]
        decide
    | cons c tail =>
        have hl := l.tail_apart
        rwa [htail] at hl
  by_cases hblank : l.lead.all Text.isBlank = true
  · have hfront : (l.text ++ after).take
        ((l.text ++ after).length - (l.literal.text ++ (l.tail ++ after)).length) = l.front := by
      rw [text_append, List.length_append, Nat.add_sub_cancel, List.take_left]
    rw [bound?_eq, l.value?_text_append_of_blank hblank, Option.bind_some, hfront,
      l.literal.literal?_text_append hapart, isReplaced, hblank, Bool.true_and]
    cases l.literal.isWide <;> rfl
  · rw [bound?_eq, l.value?_text_append_of_not_blank hblank, isReplaced,
      Bool.eq_false_iff.mpr hblank]
    rfl

/-! ### Replacing a line -/

/-- A line is written with its literal replaced, and the rest of the text behind it. -/
theorem replaceFrom_text_append (hafter : ∀ c ∈ after.head?, c = '\n') :
    replaceFrom true 0 (l.text ++ after) = l.replaced.text ++ replaceFrom false 0 after := by
  have hbound := l.bound?_text_append hafter
  by_cases hreplaced : l.isReplaced = true
  · rw [if_pos hreplaced, text_append] at hbound
    rw [text_append, replaceFrom_bound hbound, replaceFrom_append_of_notMem l.tail_line, replaced,
      if_pos hreplaced, text, IntegerLiteral.text_limit]
    simp only [front, List.append_assoc]
  · rw [if_neg hreplaced] at hbound
    rw [replaced, if_neg hreplaced,
      replaceFrom_append_of_bound?_eq_none l.newline_notMem_text l.text_ne_nil hbound]

end

/-- A line stays at its place, with its literal replaced. -/
theorem getElem?_replaceAll {s : String} {i : ℕ}
    (h : (lines s)[i]? = some l.text) : (lines (replaceAll s))[i]? = some l.replaced.text := by
  rw [lines, replaceAll, String.toList_ofList]
  obtain ⟨-, after, hafter, hcs⟩ := Text.getElem?_splitAt_iff.mp h
  have hrest : ∀ c ∈ (replaceFrom false 0 after).head?, c = '\n' := by
    cases after with
    | nil => exact hafter
    | cons c after => exact hafter
  refine Text.getElem?_splitAt_iff.mpr
    ⟨l.replaced.newline_notMem_text, replaceFrom false 0 after, hrest, ?_⟩
  rcases hcs with ⟨rfl, hcs⟩ | ⟨before, hbefore, hcs⟩
  · exact .inl ⟨rfl, hcs ▸ l.replaceFrom_text_append hafter⟩
  · refine .inr ⟨replaceFrom true 0 before, ?_, ?_⟩
    · rw [Text.length_splitAt, count_newline_replaceFrom, ← Text.length_splitAt, hbefore]
    · rw [hcs, replaceFrom_append_line (l.noLiteral_text_append after),
        l.replaceFrom_text_append hafter]

end BoundLine

/-! ## Documents -/

/-- A document up to the bounds of its only schema. -/
def documentHeader : List Char :=
  "openapi: \"3.0.0\"\ninfo:\n  title: T\n  version: \"1\"\npaths: \x7b\x7d\n".toList ++
    "components:\n  schemas:\n    S:\n      type: integer".toList

/-- A document whose schema has two lines with bounds. -/
def document (low high : BoundLine) : String :=
  String.ofList (documentHeader ++ '\n' :: (low.text ++ '\n' :: (high.text ++ ['\n'])))

def minimumLine (value : ℤ) : BoundLine :=
  .plain 6 "minimum".toList (by decide +kernel) (.ofInt value)

def maximumLine (value : ℤ) : BoundLine :=
  .plain 6 "maximum".toList (by decide +kernel) (.ofInt value)

@[simp] theorem value_minimumLine (value : ℤ) : (minimumLine value).literal.value = value :=
  IntegerLiteral.value_ofInt value

@[simp] theorem value_maximumLine (value : ℤ) : (maximumLine value).literal.value = value :=
  IntegerLiteral.value_ofInt value

theorem length_lines_documentHeader : (Text.splitAt '\n' documentHeader).length = 9 := by
  decide +kernel

theorem getElem?_lines_document (low high : BoundLine) :
    (lines (document low high))[9]? = some low.text ∧
      (lines (document low high))[10]? = some high.text := by
  rw [lines, document, String.toList_ofList]
  constructor
  · exact Text.getElem?_splitAt_iff.mpr
      ⟨low.newline_notMem_text, _, by simp, .inr ⟨_, length_lines_documentHeader, rfl⟩⟩
  · refine Text.getElem?_splitAt_iff.mpr ⟨high.newline_notMem_text, ['\n'], by simp,
      .inr ⟨documentHeader ++ '\n' :: low.text, ?_, by simp⟩⟩
    rw [Text.splitAt_append, List.length_append, length_lines_documentHeader,
      Text.splitAt_of_notMem low.newline_notMem_text]
    rfl

/-! ## Order -/

/-- Replacing reverses two bounds that were in order: just one of them is replaced, and the other
one lies beyond the limit that takes its place; or both are zero, with a minus sign at the upper
one alone. -/
def Crosses (low high : BoundLine) : Prop :=
  match low.isReplaced, high.isReplaced with
  | false, false => False
  | true, false => high.literal.value < low.literal.limit.value
  | false, true => high.literal.limit.value < low.literal.value
  | true, true =>
    (low.literal.value = 0 ∧ high.literal.value = 0) ∧
      low.literal.sign ≠ .minus ∧ high.literal.sign = .minus

section

variable {low high : BoundLine}

theorem value_replaced (l : BoundLine) :
    l.replaced.literal.value =
      if l.isReplaced then l.literal.limit.value else l.literal.value := by
  rw [BoundLine.replaced]
  cases l.isReplaced <;> rfl

/-- Two limits are in order, unless they take the place of two zeros. -/
theorem limit_le_limit_iff {low high : IntegerLiteral} (h : low.value ≤ high.value) :
    low.limit.value ≤ high.limit.value ↔
      ¬ ((low.value = 0 ∧ high.value = 0) ∧ low.sign ≠ .minus ∧ high.sign = .minus) := by
  rw [IntegerLiteral.value_limit, IntegerLiteral.value_limit]
  by_cases hlow : low.sign = .minus
  · rw [if_pos hlow]
    refine iff_of_true ?_ fun hzeros => hzeros.2.1 hlow
    split <;> decide
  · by_cases hhigh : high.sign = .minus
    · have hlow' := low.value_nonneg hlow
      have hhigh' := high.value_nonpos hhigh
      rw [if_neg hlow, if_pos hhigh]
      exact iff_of_false (by decide) (not_not_intro ⟨by omega, hlow, hhigh⟩)
    · rw [if_neg hlow, if_neg hhigh]
      exact iff_of_true (Int.le_refl _) fun hzeros => hhigh hzeros.2.2

/-- Bounds that were in order are in order afterwards, unless they cross. -/
theorem replaced_le_replaced_iff (h : low.literal.value ≤ high.literal.value) :
    low.replaced.literal.value ≤ high.replaced.literal.value ↔ ¬ Crosses low high := by
  rw [value_replaced, value_replaced, Crosses]
  cases low.isReplaced with
  | false =>
      cases high.isReplaced with
      | false => exact iff_of_true h not_false
      | true => exact Int.not_lt.symm
  | true =>
      cases high.isReplaced with
      | false => exact Int.not_lt.symm
      | true => exact limit_le_limit_iff h

/-- Two bounds of a text that were in order stay at their places, and are in order afterwards just
when they do not cross. -/
theorem ordered_replaceAll_iff {s : String} {i j : ℕ} (hlow : (lines s)[i]? = some low.text)
    (hhigh : (lines s)[j]? = some high.text) (h : low.literal.value ≤ high.literal.value) :
    (lines (replaceAll s))[i]? = some low.replaced.text ∧
      (lines (replaceAll s))[j]? = some high.replaced.text ∧
        (low.replaced.literal.value ≤ high.replaced.literal.value ↔ ¬ Crosses low high) :=
  ⟨low.getElem?_replaceAll hlow, high.getElem?_replaceAll hhigh, replaced_le_replaced_iff h⟩

end

/-- Two wide bounds are both replaced and stay in order. -/
theorem ordered_replaceAll_wide :
    let low := minimumLine (-9007199254740993)
    let high := maximumLine 9007199254740993
    (lines (document low high))[9]? = some low.text ∧
      (lines (document low high))[10]? = some high.text ∧
      low.literal.value ≤ high.literal.value ∧
      (lines (replaceAll (document low high)))[9]? =
        some "      minimum: -2147483648".toList ∧
      (lines (replaceAll (document low high)))[10]? =
        some "      maximum: 2147483647".toList ∧
      low.replaced.literal.value ≤ high.replaced.literal.value := by
  intro low high
  obtain ⟨hlow, hhigh⟩ := getElem?_lines_document low high
  have horder : low.literal.value ≤ high.literal.value := by simp [low, high]
  obtain ⟨hlow', hhigh', hreplaced⟩ := ordered_replaceAll_iff hlow hhigh horder
  have hcrosses : ¬ Crosses low high := by
    have hlow : low.isReplaced = true := by decide +kernel
    have hhigh : high.isReplaced = true := by decide +kernel
    rw [Crosses, hlow, hhigh]
    decide +kernel
  have hlowText : low.replaced.text = "      minimum: -2147483648".toList := by decide +kernel
  have hhighText : high.replaced.text = "      maximum: 2147483647".toList := by decide +kernel
  exact ⟨hlow, hhigh, horder, hlowText ▸ hlow', hhighText ▸ hhigh', hreplaced.mpr hcrosses⟩

/-- The upper bound of a schema falls below the lower one, which has too few digits. -/
theorem replaceAll_reverses_bounds :
    let low := minimumLine 3000000000
    let high := maximumLine 9007199254740993
    (lines (document low high))[9]? = some low.text ∧
      (lines (document low high))[10]? = some high.text ∧
      low.literal.value ≤ high.literal.value ∧
      (lines (replaceAll (document low high)))[9]? = some "      minimum: 3000000000".toList ∧
      (lines (replaceAll (document low high)))[10]? = some "      maximum: 2147483647".toList ∧
      high.replaced.literal.value < low.replaced.literal.value := by
  intro low high
  obtain ⟨hlow, hhigh⟩ := getElem?_lines_document low high
  have horder : low.literal.value ≤ high.literal.value := by simp [low, high]
  have hreversed : high.replaced.literal.value < low.replaced.literal.value := by decide +kernel
  have hlowText : low.replaced.text = "      minimum: 3000000000".toList := by decide +kernel
  have hhighText : high.replaced.text = "      maximum: 2147483647".toList := by decide +kernel
  exact ⟨hlow, hhigh, horder, hlowText ▸ low.getElem?_replaceAll hlow,
    hhighText ▸ high.getElem?_replaceAll hhigh, hreversed⟩

end MockApi.Spec.WideBound
