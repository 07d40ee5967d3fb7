import MockApi.Proofs.Text.Replace
import MockApi.Proofs.Text.Run
import MockApi.Proofs.Text.Split
import MockApi.Reference.Basic

/-! # Names in references

A reference is the front of all references into the components, the word for a section, a slash and
a segment that holds no slash. The name is read off the segment in one pass from left to right, so
that the two replacements never meet each other's work, and a name that is escaped comes back.
-/

namespace MockApi.Reference

/-! ## Decoding -/

/-- Reads a segment from left to right: `~1` is a slash and `~0` a tilde, and any other tilde is
itself. -/
def decodeSegment : List Char → List Char
  | '~' :: '1' :: rest => '/' :: decodeSegment rest
  | '~' :: '0' :: rest => '~' :: decodeSegment rest
  | c :: rest => c :: decodeSegment rest
  | [] => []

/-- Replaces tildes and then slashes by their escapes. -/
def escapeSegment (cs : List Char) : List Char :=
  Text.replace ['/'] ['~', '1'] (Text.replace ['~'] ['~', '0'] cs)

/-- The reference to the item of a section with a name. -/
def toName (part : Section) (name : String) : String :=
  "#/components/" ++ part.name ++ "/" ++ String.ofList (escapeSegment name.toList)

theorem decodeSegment_cons {c : Char} {rest : List Char}
    (h : c = '~' → rest.head? ≠ some '1' ∧ rest.head? ≠ some '0') :
    decodeSegment (c :: rest) = c :: decodeSegment rest := by
  refine decodeSegment.eq_3 c rest ?_ ?_
  · rintro later rfl rfl
    exact (h rfl).1 rfl
  · rintro later rfl rfl
    exact (h rfl).2 rfl

theorem not_prefix_of_head? {c d : Char} {rest : List Char} (h : c = '~' → rest.head? ≠ some d) :
    ¬ ['~', d] <+: c :: rest := by
  rw [List.cons_prefix_cons]
  rintro ⟨rfl, later, rfl⟩
  exact h rfl rfl

/-- Replacing the escapes of slashes puts no zero in front. -/
theorem head?_replace_slash {rest : List Char} (h : rest.head? ≠ some '0') :
    (Text.replace ['~', '1'] ['/'] rest).head? ≠ some '0' := by
  cases rest with
  | nil => nofun
  | cons c rest =>
      by_cases hword : ['~', '1'] <+: c :: rest
      · obtain ⟨later, hlater⟩ := hword
        rw [← hlater, Text.replace_word_append (by decide)]
        nofun
      · rw [Text.replace_cons hword]
        exact h

/-- The two replacements read a segment in one pass: a slash that was written is never a part of an
escape, and a tilde is replaced with what stood behind it at first. -/
theorem unescapeSegment_eq_decodeSegment (cs : List Char) :
    unescapeSegment cs = decodeSegment cs := by
  induction cs using decodeSegment.induct with
  | case1 rest ih =>
      have hslash : ¬ ['~', '0'] <+: '/' :: Text.replace ['~', '1'] ['/'] rest :=
        not_prefix_of_head? nofun
      have hone : Text.replace ['~', '1'] ['/'] ('~' :: '1' :: rest) =
          '/' :: Text.replace ['~', '1'] ['/'] rest :=
        Text.replace_word_append (List.cons_ne_nil '~' ['1'])
      rw [decodeSegment, ← ih, unescapeSegment, hone, Text.replace_cons hslash, unescapeSegment]
  | case2 rest ih =>
      have htilde : ¬ ['~', '1'] <+: '~' :: '0' :: rest := not_prefix_of_head? nofun
      have hzero : ¬ ['~', '1'] <+: '0' :: rest := not_prefix_of_head? nofun
      rw [decodeSegment, ← ih, unescapeSegment, Text.replace_cons htilde, Text.replace_cons hzero]
      exact Text.replace_word_append (List.cons_ne_nil '~' ['0'])
  | case3 c rest hone hzero ih =>
      have hnext : c = '~' → rest.head? ≠ some '1' ∧ rest.head? ≠ some '0' := by
        rintro rfl
        cases rest with
        | nil => exact ⟨nofun, nofun⟩
        | cons d later =>
            exact ⟨fun h => hone later rfl (Option.some.inj h ▸ rfl),
              fun h => hzero later rfl (Option.some.inj h ▸ rfl)⟩
      have hfirst : ¬ ['~', '1'] <+: c :: rest := not_prefix_of_head? fun h => (hnext h).1
      have hsecond : ¬ ['~', '0'] <+: c :: Text.replace ['~', '1'] ['/'] rest :=
        not_prefix_of_head? fun h => head?_replace_slash (hnext h).2
      rw [decodeSegment_cons hnext, ← ih, unescapeSegment, Text.replace_cons hfirst,
        Text.replace_cons hsecond, unescapeSegment]
  | case4 => rfl

/-! ## Escaping -/

/-- What stands for a character in an escaped name. -/
def escapeChar (c : Char) : List Char :=
  if c = '~' then ['~', '0'] else if c = '/' then ['~', '1'] else [c]

/-- Escaping works character by character, since no slash comes from a tilde. -/
theorem escapeSegment_eq_flatMap (cs : List Char) : escapeSegment cs = cs.flatMap escapeChar := by
  rw [escapeSegment, Text.replace_singleton, Text.replace_singleton, List.flatMap_assoc]
  refine List.flatMap_congr fun c _ => ?_
  by_cases htilde : c = '~'
  · subst htilde
    rfl
  · rw [if_neg htilde, escapeChar, if_neg htilde, List.flatMap_singleton]

theorem slash_notMem_escapeSegment (cs : List Char) : '/' ∉ escapeSegment cs := by
  rw [escapeSegment_eq_flatMap, List.mem_flatMap]
  rintro ⟨c, -, hc⟩
  rw [escapeChar] at hc
  split at hc
  next => simp at hc
  next =>
    split at hc
    next => simp at hc
    next hslash => exact hslash (List.mem_singleton.mp hc).symm

theorem escapeSegment_ne_nil {cs : List Char} (h : cs ≠ []) : escapeSegment cs ≠ [] := by
  obtain ⟨c, rest, rfl⟩ := List.exists_cons_of_ne_nil h
  rw [escapeSegment_eq_flatMap, List.flatMap_cons, escapeChar]
  split
  next => exact List.cons_ne_nil _ _
  next => split <;> exact List.cons_ne_nil _ _

/-- An escaped name is read as the name. -/
theorem decodeSegment_escapeSegment (cs : List Char) : decodeSegment (escapeSegment cs) = cs := by
  rw [escapeSegment_eq_flatMap]
  induction cs with
  | nil => rfl
  | cons c rest ih =>
      rw [List.flatMap_cons, escapeChar]
      by_cases htilde : c = '~'
      · subst htilde
        exact congrArg ('~' :: ·) ih
      · rw [if_neg htilde]
        by_cases hslash : c = '/'
        · subst hslash
          exact congrArg ('/' :: ·) ih
        · rw [if_neg hslash, List.singleton_append,
            decodeSegment_cons fun h => absurd h htilde, ih]

/-! ## Reading references -/

theorem slash_notMem_name (part : Section) : '/' ∉ part.name.toList := by
  cases part <;> decide +kernel

/-- The characters of a reference that is put together from its parts. -/
theorem toList_reference (part : Section) (segment : String) :
    ("#/components/" ++ part.name ++ "/" ++ segment).toList =
      lead ++ (part.name.toList ++ '/' :: segment.toList) := by
  have hslash : "/".toList = ['/'] := Text.toList_of_eq_ofList rfl
  simp only [String.toList_append, hslash, List.append_assoc, List.singleton_append]
  rfl

/-- A text names an item of a section just when it is put together from its parts; the name is
decoded from its segment. -/
theorem name?_eq_some_iff {part : Section} {reference name : String} :
    name? part reference = some name ↔
      ∃ segment : String, reference = "#/components/" ++ part.name ++ "/" ++ segment ∧
        segment ≠ "" ∧ '/' ∉ segment.toList ∧
          name = String.ofList (decodeSegment segment.toList) := by
  constructor
  · intro h
    obtain ⟨rest, hlead, h⟩ := Option.bind_eq_some_iff.mp h
    split at h
    next kind segment hpieces =>
      rw [Option.ite_none_right_eq_some, Bool.and_eq_true, beq_iff_eq, Bool.not_eq_true',
        List.isEmpty_eq_false_iff] at h
      obtain ⟨⟨rfl, hsegment⟩, hname⟩ := h
      obtain ⟨rfl, -, hslash⟩ := Text.splitAt_eq_pair_iff.mp hpieces
      refine ⟨String.ofList segment, ?_, by simpa using hsegment, ?_, ?_⟩
      · rw [← String.toList_inj, toList_reference, String.toList_ofList,
          Text.after?_eq_some_iff.mp hlead]
      · rwa [String.toList_ofList]
      · rw [String.toList_ofList, ← unescapeSegment_eq_decodeSegment, Option.some.inj hname]
    next => cases h
  · rintro ⟨segment, rfl, hsegment, hslash, rfl⟩
    have hpieces : Text.splitAt '/' (part.name.toList ++ '/' :: segment.toList) =
        [part.name.toList, segment.toList] :=
      Text.splitAt_eq_pair_iff.mpr ⟨rfl, slash_notMem_name part, hslash⟩
    have hnonempty : segment.toList.isEmpty = false := by simpa using hsegment
    rw [name?, toList_reference, Text.after?_append, Option.bind_eq_bind, Option.bind_some]
    simp only [hpieces, hnonempty, beq_self_eq_true, Bool.not_false, Bool.and_self, if_true,
      unescapeSegment_eq_decodeSegment]

/-- References are read exactly: a text names an item of a section just when it is the front, the
word for the section, a slash and a segment without slashes, and its name is what the segment is
decoded to. So every name comes back from the reference that escapes it. -/
theorem name?_exact_and_reversible (part : Section) :
    (∀ reference name : String, name? part reference = some name ↔
      ∃ segment : String, reference = "#/components/" ++ part.name ++ "/" ++ segment ∧
        segment ≠ "" ∧ '/' ∉ segment.toList ∧
          name = String.ofList (decodeSegment segment.toList)) ∧
      ∀ name : String, name ≠ "" → name? part (toName part name) = some name := by
  refine ⟨fun reference name => name?_eq_some_iff, fun name hname => ?_⟩
  refine name?_eq_some_iff.mpr ⟨String.ofList (escapeSegment name.toList), rfl, ?_, ?_, ?_⟩
  · have hcharacters : name.toList ≠ [] := by simpa using hname
    simpa using escapeSegment_ne_nil hcharacters
  · rw [String.toList_ofList]
    exact slash_notMem_escapeSegment _
  · rw [String.toList_ofList, decodeSegment_escapeSegment, String.ofList_toList]

/-- A name with tildes and slashes among digits; the escape of its slash is read as a slash, and the
digit behind its tilde stays. -/
theorem name?_exact_and_reversible_tilde :
    "a/b~1" ≠ "" ∧ toName .schemas "a/b~1" = "#/components/schemas/a~1b~01" ∧
      name? .schemas "#/components/schemas/a~1b~01" = some "a/b~1" := by
  have hname : "a/b~1" ≠ "" := by decide
  have htext : toName .schemas "a/b~1" = "#/components/schemas/a~1b~01" := by decide +kernel
  exact ⟨hname, htext, htext ▸ (name?_exact_and_reversible .schemas).2 "a/b~1" hname⟩

end MockApi.Reference
