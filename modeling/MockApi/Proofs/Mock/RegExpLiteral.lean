import MockApi.Pattern.Matcher
import MockApi.Proofs.Mock.PatternCall
import MockApi.Proofs.Mock.StringNodes

/-! # Patterns as literals

The call of a pattern has it between slashes. JavaScript reads that as one literal when something
stands between them, all on one line, with no star in front, no backslash left over and no class
left open; slashes need no care, since writing escapes them. A pattern that is the keyword of a
string is looked at by the engine first, the pattern of a string whose format is that of patterns is
not.
-/

namespace MockApi

namespace RegExpLiteral

open Capability

/-- The characters that end a line of a script. -/
def endsLine (c : Char) : Bool :=
  c = '\n' || c = '\r' || c = '\u2028' || c = '\u2029'

/-- Whether a class is open behind a piece. -/
def classAfter (inClass : Bool) : List Char → Bool
  | ['['] => true
  | [']'] => false
  | _ => inClass

/-- Puts characters before what has been read. -/
def onto (front : List Char) (read : List Char × List Char) : List Char × List Char :=
  (front ++ read.1, read.2)

/-- Reads up to the slash that ends a literal: its body, and what stands behind the slash. A
backslash takes the character after it along, and no slash of a class ends the literal. -/
def closed? : Bool → List Char → Option (List Char × List Char)
  | _, [] => none
  | _, ['\\'] => none
  | inClass, '\\' :: c :: rest =>
    if endsLine c then none else (closed? inClass rest).map (onto ['\\', c])
  | inClass, c :: rest =>
    if endsLine c then none
    else if c = '/' && !inClass then some ([], rest)
    else (closed? (classAfter inClass [c]) rest).map (onto [c])

/-- Reads a literal: its body, and what stands behind it. Two slashes begin a comment, as does a
slash with a star. -/
def literal? : List Char → Option (List Char × List Char)
  | '/' :: rest =>
    if rest.head? = some '/' ∨ rest.head? = some '*' then none else closed? false rest
  | _ => none

/-- The text can stand between the slashes of a literal once its slashes are escaped. -/
structure IsBody (cs : List Char) : Prop where
  nonempty : cs ≠ []
  star : cs.head? ≠ some '*'
  line : ∀ c ∈ cs, endsLine c = false
  whole : ['\\'] ∉ pieces cs
  classes : (pieces cs).foldl classAfter false = false

theorem isBody_iff (cs : List Char) : IsBody cs ↔ cs ≠ [] ∧ cs.head? ≠ some '*' ∧
    cs.any endsLine = false ∧ ['\\'] ∉ pieces cs ∧ (pieces cs).foldl classAfter false = false := by
  have hline : cs.any endsLine = false ↔ ∀ c ∈ cs, endsLine c = false := by simp
  rw [hline]
  constructor
  · rintro ⟨nonempty, star, line, whole, classes⟩
    exact ⟨nonempty, star, line, whole, classes⟩
  · rintro ⟨nonempty, star, line, whole, classes⟩
    exact ⟨nonempty, star, line, whole, classes⟩

instance (cs : List Char) : Decidable (IsBody cs) :=
  decidable_of_iff _ (isBody_iff cs).symm

/-! ## Reading -/

theorem map_onto_eq_some_iff {front body after : List Char}
    {read : Option (List Char × List Char)} :
    read.map (onto front) = some (front ++ body, after) ↔ read = some (body, after) := by
  rw [Option.map_eq_some_iff]
  constructor
  · rintro ⟨⟨body', after'⟩, rfl, h⟩
    rw [onto, Prod.mk.injEq, List.append_cancel_left_eq] at h
    exact congrArg some (Prod.ext h.1 h.2)
  · rintro rfl
    exact ⟨_, rfl, rfl⟩

theorem read_onto_iff (c : Char) (front : List Char) {body after : List Char}
    {read : Option (List Char × List Char)} :
    (if endsLine c then none else read.map (onto front)) = some (front ++ body, after) ↔
      endsLine c = false ∧ read = some (body, after) := by
  cases endsLine c with
  | true => simp
  | false =>
      rw [if_neg Bool.false_ne_true, map_onto_eq_some_iff]
      simp

theorem closed?_cons {c : Char} (inClass : Bool) (rest : List Char) (h : c ≠ '\\') :
    closed? inClass (c :: rest) =
      if endsLine c then none
      else if c = '/' && !inClass then some ([], rest)
      else (closed? (classAfter inClass [c]) rest).map (onto [c]) :=
  closed?.eq_4 inClass c rest (fun hc _ => h hc) fun _ _ hc _ => h hc

/-- What is read makes up the text. -/
theorem eq_append_of_closed? {inClass : Bool} {text body after : List Char}
    (h : closed? inClass text = some (body, after)) : text = body ++ '/' :: after := by
  induction text using pieces_induction generalizing inClass body after with
  | nil => cases h
  | lone => cases h
  | pair c rest ih =>
      rw [closed?] at h
      split at h
      next => cases h
      next =>
        obtain ⟨read, hread, honto⟩ := Option.map_eq_some_iff.mp h
        cases honto
        rw [ih hread]
        rfl
  | single c rest hback ih =>
      rw [closed?_cons inClass rest hback] at h
      split at h
      next => cases h
      next =>
        split at h
        next hslash =>
          obtain ⟨rfl, -⟩ : c = '/' ∧ (!inClass) = true := by simpa using hslash
          cases h
          rfl
        next =>
          obtain ⟨read, hread, honto⟩ := Option.map_eq_some_iff.mp h
          cases honto
          rw [ih hread]
          rfl

/-- An escaped text is read up to the slash behind it just when it stays on its line, leaves no
backslash over and closes its classes. -/
theorem closed?_escapeSlashes_iff (inClass : Bool) (cs after : List Char) :
    closed? inClass (escapeSlashes cs ++ '/' :: after) = some (escapeSlashes cs, after) ↔
      (∀ c ∈ cs, endsLine c = false) ∧ ['\\'] ∉ pieces cs ∧
        (pieces cs).foldl classAfter inClass = false := by
  induction cs using pieces_induction generalizing inClass with
  | nil =>
      have hslash : endsLine '/' = false := rfl
      rw [escapeSlashes, List.nil_append, closed?_cons inClass after (by decide), hslash]
      cases inClass with
      | false => simp [pieces]
      | true => simp [pieces, onto]
  | lone =>
      -- the backslash takes the slash that should end the literal
      simp [escapeSlashes, closed?, pieces, endsLine, onto]
  | pair c rest ih =>
      have hback : endsLine '\\' = false := rfl
      rw [escapeSlashes, List.cons_append, List.cons_append, closed?]
      refine (read_onto_iff c ['\\', c]).trans ?_
      rw [ih, pieces]
      simp [classAfter, hback, and_assoc]
  | single c rest hback ih =>
      by_cases hslash : c = '/'
      · subst hslash
        rw [escapeSlashes, List.cons_append, List.cons_append, closed?]
        refine (read_onto_iff '/' ['\\', '/']).trans ?_
        rw [ih, pieces_cons hback]
        simp [classAfter, and_assoc]
      · rw [escapeSlashes_cons hback hslash, List.cons_append, closed?_cons inClass _ hback]
        simp only [hslash]
        refine (read_onto_iff c [c]).trans ?_
        rw [ih, pieces_cons hback]
        simp [hback.symm, and_assoc]

theorem head?_escapeSlashes_append (c : Char) (rest after : List Char) :
    (escapeSlashes (c :: rest) ++ after).head? = some (if c = '/' then '\\' else c) := by
  by_cases hback : c = '\\'
  · subst hback
    cases rest <;> rfl
  · by_cases hslash : c = '/'
    · subst hslash
      rfl
    · rw [escapeSlashes_cons hback hslash, if_neg hslash]
      rfl

/-- An escaped text between slashes is a literal just when it can be its body. -/
theorem literal?_escapeSlashes_iff (cs after : List Char) :
    literal? ('/' :: (escapeSlashes cs ++ '/' :: after)) = some (escapeSlashes cs, after) ↔
      IsBody cs := by
  rw [literal?]
  cases cs with
  | nil => exact iff_of_false nofun fun h => h.nonempty rfl
  | cons c rest =>
      rw [head?_escapeSlashes_append]
      by_cases hstar : c = '*'
      · subst hstar
        exact iff_of_false nofun fun h => h.star rfl
      · have hneither : ¬ (some (if c = '/' then '\\' else c) = some '/' ∨
            some (if c = '/' then '\\' else c) = some '*') := by
          split <;> simp [*]
        rw [if_neg hneither, closed?_escapeSlashes_iff]
        constructor
        · rintro ⟨line, whole, classes⟩
          exact ⟨List.cons_ne_nil _ _, fun h => hstar (Option.some.inj h), line, whole, classes⟩
        · rintro ⟨-, -, line, whole, classes⟩
          exact ⟨line, whole, classes⟩

theorem eq_append_of_literal? {text body after : List Char}
    (h : literal? text = some (body, after)) : text = '/' :: (body ++ '/' :: after) := by
  unfold literal? at h
  split at h
  next rest =>
    split at h
    next => cases h
    next => rw [eq_append_of_closed? h]
  next => cases h

/-! ## Calls -/

/-- The text is a call for the texts of a pattern, which is a literal with a body: something on one
line in which slashes are escaped. -/
structure IsCall (text body : List Char) : Prop where
  nonempty : body ≠ []
  line : ∀ c ∈ body, endsLine c = false
  slash : ∀ piece ∈ pieces body, '/' ∈ piece → piece = ['\\', '/']
  reads : ∀ after, ∃ rest, text ++ after = "faker.helpers.fromRegExp(".toList ++ rest ∧
    literal? rest = some (body, ')' :: after)

theorem toList_call_append (pattern : String) (after : List Char) :
    (call (.fromRegex pattern)).toList ++ after = "faker.helpers.fromRegExp(".toList ++
      '/' :: (escapeSlashes pattern.toList ++ '/' :: ')' :: after) := by
  have hlead : "faker.helpers.fromRegExp(/".toList = "faker.helpers.fromRegExp(".toList ++ ['/'] :=
    Text.toList_of_eq_ofList rfl
  rw [toList_call_fromRegex, hlead]
  simp only [List.append_assoc, List.cons_append, List.nil_append]

theorem escapeSlashes_ne_nil {cs : List Char} (h : cs ≠ []) : escapeSlashes cs ≠ [] := by
  obtain ⟨c, rest, rfl⟩ := List.exists_cons_of_ne_nil h
  have hhead := head?_escapeSlashes_append c rest []
  rintro hnil
  rw [hnil] at hhead
  cases hhead

theorem endsLine_of_mem_escapeSlashes {cs : List Char} (h : ∀ c ∈ cs, endsLine c = false) {c : Char}
    (hc : c ∈ escapeSlashes cs) : endsLine c = false := by
  by_cases hback : c = '\\'
  · rw [hback]
    rfl
  · exact h c ((mem_escapeSlashes hback cs).mp hc)

/-- A pattern is called for just when it can be the body of a literal. -/
theorem exists_isCall_iff (pattern : String) :
    (∃ body, IsCall (call (.fromRegex pattern)).toList body) ↔ IsBody pattern.toList := by
  constructor
  · rintro ⟨body, h⟩
    obtain ⟨rest, hrest, hread⟩ := h.reads []
    rw [toList_call_append, List.append_cancel_left_eq] at hrest
    subst hrest
    have hbody : escapeSlashes pattern.toList = body := by
      simpa using eq_append_of_literal? hread
    subst hbody
    exact (literal?_escapeSlashes_iff _ _).mp hread
  · intro h
    exact ⟨escapeSlashes pattern.toList, escapeSlashes_ne_nil h.nonempty,
      fun _ => endsLine_of_mem_escapeSlashes h.line, fun _ => eq_pair_of_mem_pieces, fun after =>
        ⟨_, toList_call_append pattern after, (literal?_escapeSlashes_iff _ _).mpr h⟩⟩

end RegExpLiteral

open RegExpLiteral

/-- The engine accepts the pattern, and the call for its texts has it as a literal. -/
structure PatternEngine.Usable (engine : PatternEngine) (pattern : String) : Prop where
  accepted : engine.accepts pattern = true
  call : ∃ body, IsCall (Capability.call (.fromRegex pattern)).toList body

theorem PatternEngine.usable_iff (engine : PatternEngine) (pattern : String) :
    engine.Usable pattern ↔ engine.accepts pattern = true ∧ IsBody pattern.toList := by
  rw [← exists_isCall_iff]
  exact ⟨fun h => ⟨h.accepted, h.call⟩, fun h => ⟨h.1, h.2⟩⟩

/-! ## Compiling -/

namespace Compiler

theorem stringCapability_eq_fromRegex_iff {c : Compiler} {k : Keywords} {key : Option String}
    {pattern : String} :
    (c.stringCapability k key).1 = .fromRegex pattern ↔ c.AsksFor k pattern := by
  constructor
  · intro h
    rcases c.stringCapability_cases k key with hfixed | ⟨asked, hasked, heq⟩ | hletters
    · exact absurd (h ▸ hfixed) (Capability.fromRegex_notMem_fixed pattern)
    · cases heq.symm.trans h
      exact hasked
    · exact absurd (hletters.symm.trans h) (lettersFor_ne_fromRegex _ _ _)
  · rintro (h | ⟨h, accepted⟩)
    · rw [stringCapability_of_format h]
    · rw [stringCapability_of_pattern h, if_pos accepted]

/-- Texts of a pattern are compiled for just the schemas whose keywords ask for them. The pattern is
usable just when the engine accepts it and it can be the body of a literal. A pattern of its own
that the engine does not accept is warned of, and words stand for it. -/
theorem compile_fromRegex_iff (c : Compiler) (s : Schema) (site : Site)
    (pattern : String) :
    ((c.compile (some s) site).expression = .call (.fromRegex pattern) ↔
        ∃ t, c.BecomesString site s t ∧ c.AsksFor t.keywords pattern) ∧
      (c.engine.Usable pattern ↔
        c.engine.accepts pattern = true ∧ IsBody pattern.toList) ∧
      ∀ t, c.BecomesString site s t → t.keywords.HasPattern pattern →
        c.engine.accepts pattern = false →
          (c.compile (some s) site).expression = .call .words ∧
            (c.compile (some s) site).warnings = [.keyword pattern] := by
  refine ⟨?_, c.engine.usable_iff pattern, fun t ht hpattern hrejected => ?_⟩
  · rw [compile_eq_call_iff rfl]
    simp only [stringCapability_eq_fromRegex_iff]
  · obtain ⟨hexpression, hwarnings⟩ := ht.compile
    rw [hexpression, hwarnings, stringCapability_of_pattern hpattern, hrejected]
    exact ⟨rfl, rfl⟩

/-- A pattern with a slash is usable; a class that is left open is not, and words stand for it. -/
theorem compile_fromRegex_slash :
    let c : Compiler := ⟨⟨"/users", .get, 5, true, false, []⟩, Pattern.searchEngine, 2024⟩
    let text (pattern : String) : Schema :=
      { keywords := { type := some .string, pattern := some pattern } }
    ((c.compile (some (text "^[a-z]/x")) {}).expression = .call (.fromRegex "^[a-z]/x") ∧
        c.engine.Usable "^[a-z]/x") ∧
      (c.compile (some (text "[")) {}).expression = .call .words ∧
        (c.compile (some (text "[")) {}).warnings = [.keyword "["] := by
  intro c text
  have hstring (pattern : String) : c.BecomesString {} (text pattern) (text pattern) :=
    .itself rfl rfl rfl rfl
  have hpattern (pattern : String) : (text pattern).keywords.HasPattern pattern := ⟨rfl, rfl⟩
  have haccepted : c.engine.accepts "^[a-z]/x" = true := by decide +kernel
  have hbody : IsBody "^[a-z]/x".toList := by decide
  obtain ⟨hcompiled, husable, -⟩ := compile_fromRegex_iff c (text "^[a-z]/x") {} "^[a-z]/x"
  obtain ⟨-, -, hrejected⟩ := compile_fromRegex_iff c (text "[") {} "["
  exact ⟨⟨hcompiled.mpr ⟨_, hstring _, .keyword (hpattern _) haccepted⟩,
      husable.mpr ⟨haccepted, hbody⟩⟩,
    hrejected _ (hstring _) (hpattern _) (by decide +kernel)⟩

/-- The format of patterns lets a class that is left open through, and on either way a pattern may
be empty or go over lines. -/
theorem compile_fromRegex_not_usable :
    let c : Compiler := ⟨⟨"/users", .get, 5, true, false, []⟩, Pattern.searchEngine, 2024⟩
    ∀ e ∈ [(some "regex", "["), (some "regex", ""), (none, ""), (none, "a\nb")],
      let s : Schema := { keywords := { type := some .string, format := e.1, pattern := some e.2 } }
      (c.compile (some s) {}).expression = .call (.fromRegex e.2) ∧ ¬ c.engine.Usable e.2 := by
  intro c
  have hcompiled (format : Option String) (pattern : String)
      (h : c.AsksFor { type := some .string, format, pattern := some pattern } pattern) :
      (c.compile (some { keywords := { type := some .string, format, pattern := some pattern } })
        {}).expression = .call (.fromRegex pattern) :=
    (compile_eq_call_iff rfl).mpr
      ⟨_, .itself rfl rfl rfl rfl, stringCapability_eq_fromRegex_iff.mpr h⟩
  have hempty : ¬ c.engine.Usable "" := fun h =>
    absurd ((c.engine.usable_iff "").mp h).2 (by decide)
  have hlines : ¬ c.engine.Usable "a\nb" := fun h =>
    absurd ((c.engine.usable_iff "a\nb").mp h).2 (by decide)
  have hopen : ¬ c.engine.Usable "[" := fun h => absurd h.accepted (by decide +kernel)
  simp only [List.forall_mem_cons]
  exact ⟨⟨hcompiled _ _ (.format rfl), hopen⟩, ⟨hcompiled _ _ (.format rfl), hempty⟩,
    ⟨hcompiled _ _ (.keyword ⟨rfl, rfl⟩ (by decide +kernel)), hempty⟩,
    ⟨hcompiled _ _ (.keyword ⟨rfl, rfl⟩ (by decide +kernel)), hlines⟩, nofun⟩

end Compiler

end MockApi
