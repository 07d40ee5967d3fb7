import MockApi.Proofs.Mock.Argument
import MockApi.Proofs.Mock.CallText

/-! # Generator calls read back

Reading a call that was written gives the capability again: the table is searched first, and the
calls with arguments are told apart by the words that they begin with. Numbers come back with the
sign of zero lost, which does not tell doubles apart.
-/

namespace MockApi.Capability

open Double

namespace Call

/-! ## Number texts -/

/-- Digits, among them points. -/
structure UnsignedText (cs : List Char) : Prop where
  nonempty : cs ≠ []
  chars : ∀ c ∈ cs, c.isDigit = true ∨ c = '.'

/-- An optional minus sign and digits. -/
inductive SignedText : List Char → Prop
  | mk (negative : Bool) {cs : List Char} (h : UnsignedText cs) :
      SignedText ((if negative then ['-'] else []) ++ cs)

theorem isNumberChar_of {c : Char} (h : c.isDigit = true ∨ c = '.') : isNumberChar c = true := by
  rcases h with h | rfl
  · simp [isNumberChar, Text.isAnyDigit_of_isDigit h]
  · rfl

section

variable {cs rest : List Char}

theorem UnsignedText.head_not_blank (h : UnsignedText cs) :
    ∀ c ∈ (cs ++ rest).head?, Text.isBlank c = false := by
  obtain ⟨d, later, rfl⟩ := List.exists_cons_of_ne_nil h.nonempty
  rintro c ⟨⟩
  rcases h.chars d List.mem_cons_self with h | rfl
  · exact Text.isBlank_of_isDigit h
  · rfl

theorem UnsignedText.run? (h : UnsignedText cs) (hrest : ∀ c ∈ rest.head?, isNumberChar c = false) :
    run? isNumberChar (cs ++ rest) = some (cs, rest) :=
  run?_append h.nonempty (fun c hc => isNumberChar_of (h.chars c hc)) hrest

theorem SignedText.head_not_blank (h : SignedText cs) :
    ∀ c ∈ (cs ++ rest).head?, Text.isBlank c = false := by
  cases h with
  | mk negative h =>
      cases negative with
      | true => rintro c ⟨⟩; rfl
      | false => exact h.head_not_blank

theorem SignedText.signed? (h : SignedText cs)
    (hrest : ∀ c ∈ rest.head?, isNumberChar c = false) :
    signed? (cs ++ rest) = some (cs, rest) := by
  cases h with
  | mk negative h =>
      exact signed?_append h.nonempty (fun c hc => isNumberChar_of (h.chars c hc)) hrest

end

/-- The two bounds of a call are taken one after the other, and a step is asked for behind them. -/
theorem number?_bounds {low high step : List Char} (hlow : SignedText low) (hhigh : SignedText high)
    (hstep : ∀ c ∈ step.head?, Text.isBlank c = false) :
    number? ("faker.number.int(\x7b".toList ++ ' ' :: ("min:".toList ++ ' ' :: (low ++
        (",".toList ++ ' ' :: ("max:".toList ++ ' ' :: (high ++
        (",".toList ++ ' ' :: ("multipleOf:".toList ++ ' ' :: step)))))))) =
      (run? isNumberChar step).bind fun (step, cs) =>
        if closes ['\x7d', ')'] cs then
          some (.number (numberOr defaultMin low) (numberOr defaultMax high)
            (numberOr defaultStep step))
        else none := by
  -- what follows a name is named itself, so that each step takes its argument whole
  obtain ⟨end₂, hend₂⟩ : ∃ cs,
      cs = high ++ (",".toList ++ ' ' :: ("multipleOf:".toList ++ ' ' :: step)) := ⟨_, rfl⟩
  obtain ⟨end₁, hend₁⟩ : ∃ cs,
      cs = low ++ (",".toList ++ ' ' :: ("max:".toList ++ ' ' :: end₂)) := ⟨_, rfl⟩
  rw [← hend₂, ← hend₁]
  have hhead₁ : ∀ c ∈ end₁.head?, Text.isBlank c = false := by
    rw [hend₁]
    exact hlow.head_not_blank
  have hhead₂ : ∀ c ∈ end₂.head?, Text.isBlank c = false := by
    rw [hend₂]
    exact hhigh.head_not_blank
  have hlow' : signed? end₁ =
      some (low, ",".toList ++ ' ' :: ("max:".toList ++ ' ' :: end₂)) := by
    rw [hend₁]
    exact hlow.signed? (by rintro c ⟨⟩; rfl)
  have hhigh' : signed? end₂ =
      some (high, ",".toList ++ ' ' :: ("multipleOf:".toList ++ ' ' :: step)) := by
    rw [hend₂]
    exact hhigh.signed? (by rintro c ⟨⟩; rfl)
  -- the call does not end behind the second bound
  have hopen : closes ['\x7d', ')']
      (",".toList ++ ' ' :: ("multipleOf:".toList ++ ' ' :: step)) = false := rfl
  have hmin : ∀ c ∈ ("min:".toList ++ ' ' :: end₁).head?, Text.isBlank c = false := by
    rintro c ⟨⟩
    rfl
  have hmax : ∀ c ∈ ("max:".toList ++ ' ' :: end₂).head?, Text.isBlank c = false := by
    rintro c ⟨⟩
    rfl
  have hmultiple : ∀ c ∈ ("multipleOf:".toList ++ ' ' :: step).head?, Text.isBlank c = false := by
    rintro c ⟨⟩
    rfl
  simp only [number?, afterWord?_space hmin, afterWord?_space hhead₁, hlow',
    afterWord?_space hmax, afterWord?_space hhead₂, hhigh', hopen, afterWord?_space hmultiple,
    afterWord?_space hstep, Option.bind_eq_bind, Option.bind_some]
  rfl

/-- The three arguments of a call are taken one after another. -/
theorem number?_text {low high step : List Char} (hlow : SignedText low) (hhigh : SignedText high)
    (hstep : UnsignedText step) :
    number? ("faker.number.int(\x7b".toList ++ ' ' :: ("min:".toList ++ ' ' :: (low ++
        (",".toList ++ ' ' :: ("max:".toList ++ ' ' :: (high ++
        (",".toList ++ ' ' :: ("multipleOf:".toList ++ ' ' :: (step ++ " \x7d)".toList))))))))) =
      some (.number (numberOr defaultMin low) (numberOr defaultMax high)
        (numberOr defaultStep step)) := by
  have hrun : run? isNumberChar (step ++ " \x7d)".toList) = some (step, " \x7d)".toList) :=
    hstep.run? (by rintro c ⟨⟩; rfl)
  have hclose : closes ['\x7d', ')'] " \x7d)".toList = true := rfl
  rw [number?_bounds hlow hhigh hstep.head_not_blank, hrun, Option.bind_some]
  simp only [hclose, if_true]

/-- Digits of an argument without a sign. -/
theorem run?_digits (n : ℕ) {rest : List Char}
    (hrest : ∀ c ∈ rest.head?, Text.isAnyDigit c = false) :
    run? Text.isAnyDigit (Nat.toDigits 10 n ++ rest) = some (Nat.toDigits 10 n, rest) :=
  run?_append Nat.toDigits_ne_nil
    (fun _ hc => Text.isAnyDigit_of_isDigit (Text.isDigit_of_mem_toDigits hc)) hrest

theorem unsignedText_toDigits (n : ℕ) : UnsignedText (Nat.toDigits 10 n) :=
  ⟨Nat.toDigits_ne_nil, fun _ hc => .inl (Text.isDigit_of_mem_toDigits hc)⟩

theorem float?_text {digits : ℕ} (h : digits < 2 ^ 32) :
    float? ("faker.number.float(\x7b".toList ++ ' ' :: ("fractionDigits:".toList ++ ' ' ::
      (Nat.toDigits 10 digits ++ " \x7d)".toList))) = some (.float digits) := by
  have hname : ∀ c ∈ ("fractionDigits:".toList ++ ' ' ::
      (Nat.toDigits 10 digits ++ " \x7d)".toList)).head?, Text.isBlank c = false := by
    rintro c ⟨⟩
    rfl
  have hdigits : run? Text.isAnyDigit (Nat.toDigits 10 digits ++ " \x7d)".toList) =
      some (Nat.toDigits 10 digits, " \x7d)".toList) := run?_digits digits (by rintro c ⟨⟩; rfl)
  have hclose : closes ['\x7d', ')'] " \x7d)".toList = true := rfl
  have hbelow : natBelow? (twoTo 32) (Nat.toDigits 10 digits) = some digits := natBelow?_toDigits h
  simp only [float?, afterWord?_space hname,
    afterWord?_space (unsignedText_toDigits digits).head_not_blank, hdigits, hclose, hbelow,
    Option.bind_eq_bind, Option.bind_some]
  rfl

/-! ## Length bounds -/

/-- A bound that is there is read with its name. -/
theorem bound?_text {name : String} {n : ℕ} (hn : n < 2 ^ 64) {rest : List Char}
    (hrest : ∀ c ∈ rest.head?, Text.isAnyDigit c = false) :
    bound? name (name.toList ++ ' ' :: (Nat.toDigits 10 n ++ rest)) = some (some n, rest) := by
  have hbelow : natBelow? (twoTo 64) (Nat.toDigits 10 n) = some n := natBelow?_toDigits hn
  rw [bound?, afterWord?_space (unsignedText_toDigits n).head_not_blank]
  dsimp only
  rw [run?_digits n hrest, Option.map_some, hbelow]

/-- A bound that is not there is passed over. -/
theorem bound?_of_apart {name : String} {other rest : List Char} (h : Apart name.toList other) :
    bound? name (other ++ rest) = some (none, other ++ rest) := by
  rw [bound?, afterWord?, h.after?_eq_none]
  rfl

/-- The bounds of a length as they are written, before the closing text. -/
def boundsText (minLength maxLength : Option ℕ) : List Char :=
  match minLength, maxLength with
  | some low, some high => "min:".toList ++ ' ' :: (Nat.toDigits 10 low ++ (",".toList ++
      ' ' :: ("max:".toList ++ ' ' :: (Nat.toDigits 10 high ++ " \x7d \x7d)".toList))))
  | some low, none => "min:".toList ++ ' ' :: (Nat.toDigits 10 low ++ " \x7d \x7d)".toList)
  | none, some high => "max:".toList ++ ' ' :: (Nat.toDigits 10 high ++ " \x7d \x7d)".toList)
  | none, none => []

theorem alpha?_text {minLength maxLength : Option ℕ} (hmin : ∀ n ∈ minLength, n < 2 ^ 64)
    (hmax : ∀ n ∈ maxLength, n < 2 ^ 64) (hsome : ¬ (minLength = none ∧ maxLength = none)) :
    alpha? ("faker.string.alpha(\x7b".toList ++ ' ' :: ("length:".toList ++ ' ' :: ("\x7b".toList ++
      ' ' :: boundsText minLength maxLength))) = some (.alpha minLength maxLength) := by
  have hlength : ∀ rest, ∀ c ∈ ("length:".toList ++ rest).head?, Text.isBlank c = false := by
    rintro rest c ⟨⟩
    rfl
  have hbrace : ∀ rest, ∀ c ∈ ("\x7b".toList ++ rest).head?, Text.isBlank c = false := by
    rintro rest c ⟨⟩
    rfl
  have hhead : ∀ c ∈ (boundsText minLength maxLength).head?, Text.isBlank c = false := by
    cases minLength <;> cases maxLength
    · exact absurd ⟨rfl, rfl⟩ hsome
    all_goals
      rintro c ⟨⟩
      rfl
  have hclose : afterWord? "\x7d" ((" \x7d \x7d)".toList).dropWhile Text.isBlank) =
      some ['\x7d', ')'] := rfl
  simp only [alpha?, afterWord?_space (hlength _), afterWord?_space (hbrace _),
    afterWord?_space hhead, Option.bind_eq_bind, Option.bind_some]
  have hend : ∀ c ∈ (" \x7d \x7d)".toList).head?, Text.isAnyDigit c = false := by
    rintro c ⟨⟩
    rfl
  cases minLength with
  | none =>
      cases maxLength with
      | none => exact absurd ⟨rfl, rfl⟩ hsome
      | some high =>
          have hlow : bound? "min:" (boundsText none (some high)) =
              some (none, boundsText none (some high)) := bound?_of_apart (by decide)
          rw [hlow, Option.bind_some]
          change Option.bind (bound? "max:" ("max:".toList ++ _)) _ = _
          rw [bound?_text (hmax high rfl) hend, Option.bind_some, hclose]
          rfl
  | some low =>
      cases maxLength with
      | none =>
          have hlow : bound? "min:" (boundsText (some low) none) =
              some (some low, " \x7d \x7d)".toList) := bound?_text (hmin low rfl) hend
          have hnone : bound? "max:" ['\x7d', ' ', '\x7d', ')'] =
              some (none, ['\x7d', ' ', '\x7d', ')']) := rfl
          rw [hlow, Option.bind_some]
          change Option.bind (bound? "max:" ['\x7d', ' ', '\x7d', ')']) _ = _
          rw [hnone, Option.bind_some]
          rfl
      | some high =>
          have hlow : bound? "min:" (boundsText (some low) (some high)) =
              some (some low, ",".toList ++
                ' ' :: ("max:".toList ++ ' ' :: (Nat.toDigits 10 high ++ " \x7d \x7d)".toList))) :=
            bound?_text (hmin low rfl) (by rintro c ⟨⟩; rfl)
          rw [hlow, Option.bind_some]
          -- the comma and the blank behind it are passed over
          change Option.bind (bound? "max:" ("max:".toList ++ _)) _ = _
          rw [bound?_text (hmax high rfl) hend, Option.bind_some, hclose]
          rfl

end Call

/-! ## Calls -/

/-- Neither an id of a key nor a pattern: numbers between finite bounds with a positive step, and
counts that machine integers hold. -/
def IsPlain : Capability → Prop
  | .number min max step => min.isFinite = true ∧ max.isFinite = true ∧ 0 < step
  | .float digits => digits < 2 ^ 32
  | .alpha minLength maxLength => (∀ n ∈ minLength, n < 2 ^ 64) ∧ ∀ n ∈ maxLength, n < 2 ^ 64
  | .seededId .. | .fromRegex _ => False
  | _ => True

open Call

theorem toList_call_float (digits : ℕ) : (call (.float digits)).toList =
    "faker.number.float(\x7b".toList ++ ' ' :: ("fractionDigits:".toList ++ ' ' ::
      (Nat.toDigits 10 digits ++ " \x7d)".toList)) := by
  have hopening : "faker.number.float(\x7b fractionDigits: ".toList =
      "faker.number.float(\x7b".toList ++ ' ' :: ("fractionDigits:".toList ++ [' ']) := by simp
  have hcall : call (.float digits) =
      "faker.number.float(\x7b fractionDigits: " ++ Nat.repr digits ++ " \x7d)" := rfl
  rw [hcall, String.toList_append, String.toList_append, Nat.toList_repr, hopening]
  simp only [List.append_assoc, List.cons_append, List.nil_append]

theorem toList_call_number (min max step : Float) : (call (.number min max step)).toList =
    "faker.number.int(\x7b".toList ++ ' ' :: ("min:".toList ++ ' ' :: ((argument min).toList ++
      (",".toList ++ ' ' :: ("max:".toList ++ ' ' :: ((argument max).toList ++
      (",".toList ++ ' ' :: ("multipleOf:".toList ++ ' ' ::
        ((argument step).toList ++ " \x7d)".toList)))))))) := by
  have hopening : "faker.number.int(\x7b min: ".toList =
      "faker.number.int(\x7b".toList ++ ' ' :: ("min:".toList ++ [' ']) := by simp
  have hmax : ", max: ".toList = ",".toList ++ ' ' :: ("max:".toList ++ [' ']) := by simp
  have hstep : ", multipleOf: ".toList = ",".toList ++ ' ' :: ("multipleOf:".toList ++ [' ']) := by
    simp
  have hcall : call (.number min max step) =
      "faker.number.int(\x7b min: " ++ argument min ++ ", max: " ++ argument max ++
        ", multipleOf: " ++ argument step ++ " \x7d)" := rfl
  rw [hcall]
  simp only [String.toList_append]
  rw [hopening, hmax, hstep]
  simp only [List.append_assoc, List.cons_append, List.nil_append]

theorem toList_call_alpha {minLength maxLength : Option ℕ}
    (hsome : ¬ (minLength = none ∧ maxLength = none)) :
    (call (.alpha minLength maxLength)).toList =
      "faker.string.alpha(\x7b".toList ++ ' ' :: ("length:".toList ++ ' ' :: ("\x7b".toList ++
        ' ' :: boundsText minLength maxLength)) := by
  have hopening : "faker.string.alpha(\x7b length: \x7b ".toList =
      "faker.string.alpha(\x7b".toList ++ ' ' :: ("length:".toList ++ ' ' :: ("\x7b".toList ++
        [' '])) := by simp
  have hmin : "min: ".toList = "min:".toList ++ [' '] := by simp
  have hmax : "max: ".toList = "max:".toList ++ [' '] := by simp
  have hcomma : ", ".toList = ",".toList ++ [' '] := by simp
  cases minLength with
  | none =>
      cases maxLength with
      | none => exact absurd ⟨rfl, rfl⟩ hsome
      | some high =>
          have hcall : call (.alpha none (some high)) =
              "faker.string.alpha(\x7b length: \x7b " ++ ("max: " ++ Nat.repr high) ++
                " \x7d \x7d)" := rfl
          rw [hcall]
          simp only [String.toList_append, Nat.toList_repr, boundsText]
          rw [hopening, hmax]
          simp only [List.append_assoc, List.cons_append, List.nil_append]
  | some low =>
      cases maxLength with
      | none =>
          have hcall : call (.alpha (some low) none) =
              "faker.string.alpha(\x7b length: \x7b " ++ ("min: " ++ Nat.repr low) ++
                " \x7d \x7d)" := rfl
          rw [hcall]
          simp only [String.toList_append, Nat.toList_repr, boundsText]
          rw [hopening, hmin]
          simp only [List.append_assoc, List.cons_append, List.nil_append]
      | some high =>
          have hcall : call (.alpha (some low) (some high)) =
              "faker.string.alpha(\x7b length: \x7b " ++ ("min: " ++ Nat.repr low) ++ ", " ++
                ("max: " ++ Nat.repr high) ++ " \x7d \x7d)" := rfl
          rw [hcall]
          simp only [String.toList_append, Nat.toList_repr, boundsText]
          rw [hopening, hmin, hmax, hcomma]
          simp only [List.append_assoc, List.cons_append, List.nil_append]

theorem unsignedText_of_spells {cs : List Char} {q : ℚ} (h : Decimal.Text.Spells cs q) :
    UnsignedText cs := by
  cases h with
  | whole hne hdigits => exact ⟨hne, fun c hc => .inl (hdigits c hc)⟩
  | point hne hdigits hplaces =>
      refine ⟨List.append_ne_nil_of_left_ne_nil hne _, fun c hc => ?_⟩
      rcases List.mem_append.mp hc with hc | hc
      · exact .inl (hdigits c hc)
      · rcases List.mem_cons.mp hc with rfl | hc
        · exact .inr rfl
        · exact .inl (hplaces c hc)

theorem signedText_argument {x : Float} (hx : x.isFinite = true) :
    SignedText (argument x).toList := by
  obtain ⟨negative, cs, q, htext, hcs, -⟩ := exists_text_argument hx
  rw [htext]
  exact .mk negative (unsignedText_of_spells hcs)

theorem unsignedText_argument {x : Float} (hx : x.isFinite = true) (hpos : 0 < x) :
    UnsignedText (argument x).toList := by
  obtain ⟨negative, cs, q, htext, hcs, hnegative⟩ := exists_text_argument hx
  cases negative with
  | false =>
      rw [htext]
      exact unsignedText_of_spells hcs
  | true => exact absurd hpos (hnegative rfl)

theorem numberOr_argument {fallback x : Float} (hx : x.isFinite = true) :
    numberOr fallback (argument x).toList = plainZero x := by
  rw [numberOr, toFloat?_argument hx]
  rfl

/-! ## Blanks around calls -/

theorem trimmed_of_fixed {c : Capability} {s : String} (h : c.fixedCall? = some s) : Trimmed s := by
  unfold Trimmed
  cases c <;> cases h <;> rw [Text.toList_of_eq_ofList rfl] <;> decide

theorem call_of_fixed {c : Capability} {s : String} (h : c.fixedCall? = some s) : c.call = s := by
  unfold call
  split
  case h_6 =>
    rw [h]
    rfl
  all_goals cases h

theorem trimmed_call_number (min max step : Float) : Trimmed (call (.number min max step)) := by
  have hcall : call (.number min max step) = "faker.number.int(\x7b min: " ++ (argument min ++
      ", max: " ++ argument max ++ ", multipleOf: " ++ argument step) ++ " \x7d)" := by
    unfold call
    simp only [String.append_assoc]
  rw [hcall]
  exact .of_append (by simp) (by simp) (by decide +kernel)

theorem trimmed_call_float (digits : ℕ) : Trimmed (call (.float digits)) := by
  have hcall : call (.float digits) =
      "faker.number.float(\x7b fractionDigits: " ++ Nat.repr digits ++ " \x7d)" := rfl
  rw [hcall]
  exact .of_append (by simp) (by simp) (by decide +kernel)

theorem trimmed_call_alpha (minLength maxLength : Option ℕ) :
    Trimmed (call (.alpha minLength maxLength)) := by
  change Trimmed (alphaCall minLength maxLength)
  unfold alphaCall
  split
  next => decide +kernel
  next => exact .of_append (by simp) (by simp) (by decide +kernel)
  next first second _ _ =>
    have hcall : "faker.string.alpha(\x7b length: \x7b " ++ first ++ ", " ++ second ++
        " \x7d \x7d)" = "faker.string.alpha(\x7b length: \x7b " ++ (first ++ ", " ++ second) ++
          " \x7d \x7d)" := by
      simp only [String.append_assoc]
    rw [hcall]
    exact .of_append (by simp) (by simp) (by decide +kernel)

/-- Every call stands without blanks around it. -/
theorem trimmed_call {c : Capability} (h : c.IsPlain) : Trimmed c.call := by
  cases hfixed : c.fixedCall? with
  | some s => exact (call_of_fixed hfixed).symm ▸ trimmed_of_fixed hfixed
  | none =>
      cases c with
      | number min max step => exact trimmed_call_number min max step
      | float digits => exact trimmed_call_float digits
      | alpha minLength maxLength => exact trimmed_call_alpha minLength maxLength
      | seededId => exact h.elim
      | fromRegex => exact h.elim
      | _ => cases hfixed

/-! ## Reading -/

section

variable {text : String}

theorem ofCall?_fixed {c : Capability} {s : String} (h : c.fixedCall? = some s)
    (htrim : Text.trim text = s) : ofCall? text = some c := by
  simp only [ofCall?, htrim, find?_fixed h]
  rfl

section Number

variable {min max step : Float} (hmin : min.isFinite = true) (hmax : max.isFinite = true)
  (htrim : Text.trim text = call (.number min max step))

include hmin hmax htrim

theorem ofCall?_number (hstep : step.isFinite = true) (hpos : 0 < step) :
    ofCall? text = some (.number (plainZero min) (plainZero max) step) := by
  have hlist := toList_call_number min max step
  have htable := find?_fixed_eq_none (.inl (by rw [hlist]; simp))
  have hnumber := number?_text (signedText_argument hmin) (signedText_argument hmax)
    (unsignedText_argument hstep hpos)
  rw [numberOr_argument hmin, numberOr_argument hmax, numberOr_argument hstep,
    plainZero_of_pos hstep hpos, ← hlist] at hnumber
  simp only [ofCall?, htrim, htable, hnumber]
  rfl

/-- A word is no number argument. -/
theorem ofCall?_number_infinite (hstep : step.isFinite = false) (hpos : 0 < step) :
    ofCall? text = none := by
  have hlist := toList_call_number min max step
  have htable := find?_fixed_eq_none (.inl (by rw [hlist]; simp))
  rw [argument_of_infinite hstep hpos] at hlist
  have hnumber := number?_bounds (signedText_argument hmin) (signedText_argument hmax)
    (show ∀ c ∈ ("inf".toList ++ " \x7d)".toList).head?, _ by rintro c ⟨⟩; rfl)
  rw [← hlist] at hnumber
  have hfloat := float?_of_apart hlist (by decide)
  have halpha := alpha?_of_apart hlist (by decide)
  have hpattern := pattern?_of_apart hlist (by decide)
  simp only [ofCall?, htrim, htable, hnumber, hfloat, halpha, hpattern]
  rfl

end Number

theorem ofCall?_float {digits : ℕ} (h : digits < 2 ^ 32)
    (htrim : Text.trim text = call (.float digits)) : ofCall? text = some (.float digits) := by
  have hlist := toList_call_float digits
  have htable := find?_fixed_eq_none (.inl (by rw [hlist]; simp))
  have hfloat := float?_text h
  rw [← hlist] at hfloat
  have hnumber := number?_of_apart hlist (by decide)
  simp only [ofCall?, htrim, htable, hnumber, hfloat]
  rfl

theorem ofCall?_alpha {minLength maxLength : Option ℕ} (hmin : ∀ n ∈ minLength, n < 2 ^ 64)
    (hmax : ∀ n ∈ maxLength, n < 2 ^ 64) (hsome : ¬ (minLength = none ∧ maxLength = none))
    (htrim : Text.trim text = call (.alpha minLength maxLength)) :
    ofCall? text = some (.alpha minLength maxLength) := by
  have hlist := toList_call_alpha hsome
  have htable := find?_fixed_eq_none (.inl (by rw [hlist]; simp))
  have halpha := alpha?_text hmin hmax hsome
  rw [← hlist] at halpha
  have hnumber := number?_of_apart hlist (by decide)
  have hfloat := float?_of_apart hlist (by decide)
  simp only [ofCall?, htrim, htable, hnumber, hfloat, halpha]
  rfl

/-- Letters without bounds are written in a form that is not read. -/
theorem ofCall?_alpha_none (htrim : Text.trim text = call (.alpha none none)) :
    ofCall? text = none := by
  have hlist : (call (.alpha none none)).toList = "faker.string.alpha()".toList ++ [] := by
    rw [List.append_nil]
    rfl
  have htable : fixed.find? (fun d => d.fixedCall? == some (call (.alpha none none))) = none := by
    refine List.find?_eq_none.mpr fun c _ h => ?_
    have hcall : c.fixedCall? = some "faker.string.alpha()" := beq_iff_eq.mp h
    cases c <;> simp [fixedCall?] at hcall
  have hnumber := number?_of_apart hlist (by decide)
  have hfloat := float?_of_apart hlist (by decide)
  have halpha := alpha?_of_apart hlist (by decide)
  have hpattern := pattern?_of_apart hlist (by decide)
  simp only [ofCall?, htrim, htable, hnumber, hfloat, halpha, hpattern]
  rfl

end

/-! ## What comes back -/

/-- The call of the capability is in a form that is not read: letters without bounds, and steps
that are infinite. -/
def IsUnread : Capability → Prop
  | .number _ _ step => step.isFinite = false
  | .alpha minLength maxLength => minLength = none ∧ maxLength = none
  | _ => False

theorem beq_self_of_fixed {c : Capability} {s : String} (h : c.fixedCall? = some s) :
    (c == c) = true := by
  cases c with
  | number | float | seededId | alpha | fromRegex => cases h
  | _ => rfl

/-- What is written for a capability is read as the capability, with blanks around it as well. -/
theorem call_reads_back {c : Capability} (h : c.IsPlain) {before after : String}
    (hbefore : before.toList.all Text.isBlank = true)
    (hafter : after.toList.all Text.isBlank = true) :
    (¬ c.IsUnread → ∃ d, ofCall? (before ++ c.call ++ after) = some d ∧ (d == c) = true) ∧
      (c.IsUnread → ofCall? (before ++ c.call ++ after) = none) := by
  have htrim := (trimmed_call h).trim hbefore hafter
  cases hfixed : c.fixedCall? with
  | some s =>
      refine ⟨fun _ => ⟨c, ofCall?_fixed hfixed (htrim.trans (call_of_fixed hfixed)),
        beq_self_of_fixed hfixed⟩, fun hunread => ?_⟩
      cases c with
      | number | alpha => cases hfixed
      | _ => exact hunread.elim
  | none =>
      cases c with
      | number min max step =>
          obtain ⟨hmin, hmax, hpos⟩ := h
          refine ⟨fun hread => ?_,
            fun hunread => ofCall?_number_infinite hmin hmax htrim hunread hpos⟩
          have hstep : step.isFinite = true := Bool.eq_true_of_not_eq_false hread
          refine ⟨_, ofCall?_number hmin hmax htrim hstep hpos, ?_⟩
          have hsame := plainZero_beq hstep
          rw [plainZero_of_pos hstep hpos] at hsame
          change (plainZero min == min && (plainZero max == max && step == step)) = true
          rw [plainZero_beq hmin, plainZero_beq hmax, hsame]
          rfl
      | float digits =>
          exact ⟨fun _ => ⟨_, ofCall?_float h htrim, beq_self_eq_true digits⟩, False.elim⟩
      | alpha minLength maxLength =>
          refine ⟨fun hsome => ⟨_, ofCall?_alpha h.1 h.2 hsome htrim, ?_⟩, ?_⟩
          · change (minLength == minLength && maxLength == maxLength) = true
            rw [beq_self_eq_true, beq_self_eq_true]
            rfl
          · rintro ⟨rfl, rfl⟩
            exact ofCall?_alpha_none htrim
      | seededId => exact h.elim
      | fromRegex => exact h.elim
      | _ => cases hfixed

/-- Between a negative zero and two and a half. -/
theorem call_reads_back_negative_zero :
    IsPlain (.number (-0) 2.5 0.5) ∧
      ∃ d, ofCall? (" " ++ call (.number (-0) 2.5 0.5) ++ "\n") = some d ∧
        (d == .number (-0) 2.5 0.5) = true := by
  have hplain : IsPlain (.number (-0) 2.5 0.5) := by
    refine ⟨?_, ?_, ?_⟩ <;> decide
  have hfinite : (0.5 : Float).isFinite = true := by decide
  refine ⟨hplain, (call_reads_back hplain (by decide) (by decide)).1 fun hunread => ?_⟩
  have hinfinite : (0.5 : Float).isFinite = false := hunread
  rw [hfinite] at hinfinite
  cases hinfinite

/-- Letters without bounds are written and are not read. -/
theorem call_alpha_none_unread :
    IsPlain (.alpha none none) ∧ ofCall? (call (.alpha none none)) = none :=
  ⟨⟨nofun, nofun⟩, by decide +kernel⟩

end MockApi.Capability
