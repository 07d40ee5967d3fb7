import MockApi.Output.Module
import MockApi.Proofs.Mock.PatternCall
import MockApi.Proofs.Output.Run
import MockApi.Proofs.Text.Replace
import MockApi.Proofs.Text.Split

/-! # The keys of a module

A module has an entry for each response code, and the code stands between single quotes as it is.
JavaScript reads it back just when it holds no single quote and no backslash: a quote ends the key
early, and a run of backslashes is read as half as many. The keys of objects are escaped, and always
come back.
-/

namespace MockApi

namespace MockModule

/-- Reads on to the single quote that ends a key: the key, and what stands behind the quote. A
backslash stands for nothing itself and takes the character after it along. -/
def keyBody? : List Char → Option (List Char × List Char)
  | [] => none
  | ['\\'] => none
  | '\\' :: c :: rest => (keyBody? rest).map (Prod.map (c :: ·) id)
  | c :: rest =>
    if c = '\'' then some ([], rest) else (keyBody? rest).map (Prod.map (c :: ·) id)

/-- Reads a key between single quotes: the key, and what stands behind it. -/
def key? : List Char → Option (List Char × List Char)
  | '\'' :: rest => keyBody? rest
  | _ => none

/-- A text without the characters that mean something between single quotes. -/
def IsPlainKey (cs : List Char) : Prop := '\'' ∉ cs ∧ '\\' ∉ cs

/-- The text holds entries with codes and sources, in order and with a comma and a line break
between them, and then what closes it. Each code is a key, and its source stands behind a colon. -/
inductive HoldsEntries (closing : List Char) : List (String × String) → List Char → Prop
  | nil : HoldsEntries closing [] closing
  | last {code source : String} {text : List Char}
      (key : key? text = some (code.toList, ": ".toList ++ (source.toList ++ closing))) :
      HoldsEntries closing [(code, source)] text
  | cons {code source : String} {text rest : List Char} {next : String × String}
      {later : List (String × String)}
      (key : key? text =
        some (code.toList, ": ".toList ++ (source.toList ++ (",\n".toList ++ rest))))
      (more : HoldsEntries closing (next :: later) rest) :
      HoldsEntries closing ((code, source) :: next :: later) text

/-! ## Reading keys -/

section

variable {code rest key after : List Char}

theorem keyBody?_pair (c : Char) (rest : List Char) :
    keyBody? ('\\' :: c :: rest) = (keyBody? rest).map (Prod.map (c :: ·) id) := by
  rw [keyBody?]

theorem keyBody?_quote (rest : List Char) : keyBody? ('\'' :: rest) = some ([], rest) := by
  cases rest <;> rfl

theorem keyBody?_cons {c : Char} (hback : c ≠ '\\') (hquote : c ≠ '\'') (rest : List Char) :
    keyBody? (c :: rest) = (keyBody? rest).map (Prod.map (c :: ·) id) := by
  rw [keyBody?.eq_4 c rest (fun h _ => hback h) fun _ _ h _ => hback h, if_neg hquote]

/-- How many backslashes a text begins with. -/
def backslashesAtStart (cs : List Char) : ℕ := (cs.takeWhile (· = '\\')).length

theorem backslashesAtStart_cons (c : Char) (cs : List Char) :
    backslashesAtStart (c :: cs) = if c = '\\' then backslashesAtStart cs + 1 else 0 := by
  by_cases hc : c = '\\' <;> simp [backslashesAtStart, hc]

theorem backslashesAtStart_append_quote (code rest : List Char) :
    backslashesAtStart (code ++ '\'' :: rest) = backslashesAtStart code := by
  induction code with
  | nil => simp [backslashesAtStart]
  | cons c code ih => rw [List.cons_append, backslashesAtStart_cons, backslashesAtStart_cons, ih]

/-- A run of backslashes is read as half as many. -/
theorem backslashesAtStart_of_keyBody? {text : List Char}
    (h : keyBody? text = some (key, after)) :
    backslashesAtStart key = backslashesAtStart text / 2 := by
  induction text using Capability.pieces_induction generalizing key with
  | nil => cases h
  | lone => cases h
  | pair c rest ih =>
      rw [keyBody?_pair] at h
      obtain ⟨⟨inner, after'⟩, hinner, hkey⟩ := Option.map_eq_some_iff.mp h
      cases hkey
      have hhalf := ih hinner
      rw [backslashesAtStart_cons, backslashesAtStart_cons '\\', backslashesAtStart_cons]
      split
      next => simp only [if_true]; omega
      next => rfl
  | single c rest hback ih =>
      rw [backslashesAtStart_cons, if_neg hback]
      by_cases hquote : c = '\''
      · subst hquote
        rw [keyBody?_quote] at h
        cases h
        rfl
      · rw [keyBody?_cons hback hquote] at h
        obtain ⟨⟨inner, after'⟩, -, hkey⟩ := Option.map_eq_some_iff.mp h
        cases hkey
        exact (backslashesAtStart_cons c inner).trans (if_neg hback)

/-- What stands before a quote is read as itself just when it is plain: from its first backslash on
it would be read as fewer backslashes than there are. -/
theorem keyBody?_append_quote_iff :
    keyBody? (code ++ '\'' :: rest) = some (code, after) ↔ IsPlainKey code ∧ after = rest := by
  induction code with
  | nil => simp [keyBody?_quote, IsPlainKey, eq_comm]
  | cons c code ih =>
      by_cases hback : c = '\\'
      · subst hback
        refine iff_of_false (fun h => ?_) fun h => h.1.2 List.mem_cons_self
        have hhalf := backslashesAtStart_of_keyBody? h
        rw [backslashesAtStart_append_quote, backslashesAtStart_cons, if_pos rfl] at hhalf
        omega
      · by_cases hquote : c = '\''
        · subst hquote
          refine iff_of_false (fun h => ?_) fun h => h.1.1 List.mem_cons_self
          rw [List.cons_append, keyBody?_quote] at h
          cases h
        · have hplain : IsPlainKey (c :: code) ↔ IsPlainKey code := by
            simp [IsPlainKey, Ne.symm hback, Ne.symm hquote]
          rw [hplain, ← ih, List.cons_append, keyBody?_cons hback hquote]
          simp [Option.map_eq_some_iff, Prod.ext_iff]

end

/-! ## Escaped keys -/

/-- Escaping works character by character, since no quote comes from a backslash. -/
theorem escapeKey_eq_flatMap (cs : List Char) :
    Expression.escapeKey cs = cs.flatMap fun c =>
      if c = '\\' ∨ c = '\'' then ['\\', c] else [c] := by
  rw [Expression.escapeKey, Text.replace_singleton, Text.replace_singleton, List.flatMap_assoc]
  refine List.flatMap_congr fun c _ => ?_
  by_cases hback : c = '\\'
  · subst hback
    rfl
  · by_cases hquote : c = '\''
    · subst hquote
      rfl
    · simp [hback, hquote]

/-- The keys of objects are read back, whatever they hold. -/
theorem key?_escapeKey (cs rest : List Char) :
    key? ('\'' :: (Expression.escapeKey cs ++ '\'' :: rest)) = some (cs, rest) := by
  rw [key?, escapeKey_eq_flatMap]
  induction cs with
  | nil => exact keyBody?_quote rest
  | cons c cs ih =>
      rw [List.flatMap_cons]
      split
      next => simp [keyBody?_pair, ih]
      next h =>
        obtain ⟨hback, hquote⟩ := not_or.mp h
        simp [keyBody?_cons hback hquote, ih]

/-! ## Reading entries -/

theorem toList_quoted_append (name source : String) (rest : List Char) :
    ("'" ++ name ++ "': " ++ source).toList ++ rest =
      '\'' :: (name.toList ++ '\'' :: (": ".toList ++ (source.toList ++ rest))) := by
  have hopen : "'".toList = ['\''] := Text.toList_of_eq_ofList rfl
  have hclose : "': ".toList = '\'' :: ": ".toList := Text.toList_of_eq_ofList rfl
  simp only [String.toList_append, hopen, hclose, List.append_assoc, List.cons_append,
    List.nil_append]

/-- An entry is read as its code and its source just when the code is plain. -/
theorem key?_entry_iff {r : ResponseMock} {rest after : List Char} :
    key? ((entry r).toList ++ rest) =
        some (r.code.toList, ": ".toList ++ (r.evaluation.source.toList ++ after)) ↔
      IsPlainKey r.code.toList ∧ after = rest := by
  rw [entry, toList_quoted_append, key?, keyBody?_append_quote_iff, List.append_cancel_left_eq,
    List.append_cancel_left_eq]

/-- The code and the source of a response. -/
def labelled (r : ResponseMock) : String × String := (r.code, r.evaluation.source)

/-- Entries are read one after another just when all their codes are plain. -/
theorem holdsEntries_iff (closing : List Char) (rs : List ResponseMock) :
    HoldsEntries closing (rs.map labelled)
        ((Json.joinWith ",\n" (rs.map entry)).toList ++ closing) ↔
      ∀ r ∈ rs, IsPlainKey r.code.toList := by
  induction rs with
  | nil => exact iff_of_true .nil nofun
  | cons r rs ih =>
      cases rs with
      | nil =>
          rw [List.forall_mem_singleton]
          constructor
          · intro h
            cases h with
            | last key => exact (key?_entry_iff.mp key).1
          · intro h
            exact .last (key?_entry_iff.mpr ⟨h, rfl⟩)
      | cons next later =>
          have htext : (Json.joinWith ",\n" ((r :: next :: later).map entry)).toList ++ closing =
              (entry r).toList ++ (",\n".toList ++
                ((Json.joinWith ",\n" ((next :: later).map entry)).toList ++ closing)) := by
            simp only [List.map_cons, Json.joinWith, String.toList_append, List.append_assoc]
          rw [htext, List.forall_mem_cons, ← ih]
          constructor
          · intro h
            cases h with
            | cons key more =>
                obtain ⟨hplain, hafter⟩ := key?_entry_iff.mp key
                exact ⟨hplain, List.append_cancel_left hafter ▸ more⟩
          · rintro ⟨hplain, hmore⟩
            exact .cons (key?_entry_iff.mpr ⟨hplain, rfl⟩) hmore

/-! ## Reading modules -/

/-- What stands before the entries of a module. -/
def opening (m : EndpointMock) : String :=
  marker ++ "\n" ++ (if m.usesFaker then preamble else "") ++ "\nexport default \x7b\n"

/-- What stands behind the entries of a module. -/
def closing : String := "\n\x7d;\n"

/-- The text is a module whose entries have the codes and sources of the responses, in order. -/
def HoldsResponses (m : EndpointMock) (text : String) : Prop :=
  ∃ body, text.toList = (opening m).toList ++ body ∧
    HoldsEntries closing.toList (m.responses.map labelled) body

theorem toList_render (m : EndpointMock) :
    (render m).toList = (opening m).toList ++
      ((Json.joinWith ",\n" (m.responses.map entry)).toList ++ closing.toList) := by
  simp only [render, opening, closing, String.toList_append, List.append_assoc]

theorem isPlainKey_of_holdsResponses {m : EndpointMock} (h : HoldsResponses m (render m)) :
    ∀ r ∈ m.responses, IsPlainKey r.code.toList := by
  obtain ⟨body, hbody, hentries⟩ := h
  rw [toList_render, List.append_cancel_left_eq] at hbody
  exact (holdsEntries_iff closing.toList m.responses).mp (hbody ▸ hentries)

/-- The entries of a written module are read as the codes and the sources of the responses just when
no code holds a single quote or a backslash. -/
theorem holdsResponses_render_iff (m : EndpointMock) :
    HoldsResponses m (render m) ↔
      ∀ r ∈ m.responses, '\'' ∉ r.code.toList ∧ '\\' ∉ r.code.toList :=
  ⟨isPlainKey_of_holdsResponses,
    fun h => ⟨_, toList_render m, (holdsEntries_iff closing.toList m.responses).mpr h⟩⟩

/-- The usual codes are read back. -/
theorem holdsResponses_render_usual :
    let mock (code : String) : ResponseMock := ⟨code, .null, .static (.string "it's \\ here")⟩
    let m : EndpointMock := ⟨⟨.get, "/users", "", "", none, []⟩, [mock "200", mock "4XX"]⟩
    (∀ r ∈ m.responses, '\'' ∉ r.code.toList ∧ '\\' ∉ r.code.toList) ∧
      HoldsResponses m (render m) := by
  intro mock m
  have hplain : ∀ r ∈ m.responses, '\'' ∉ r.code.toList ∧ '\\' ∉ r.code.toList := by
    simp only [m, List.forall_mem_cons]
    exact ⟨by decide +kernel, by decide +kernel, nofun⟩
  exact ⟨hplain, (holdsResponses_render_iff m).mpr hplain⟩

/-- A document whose only response code has a quote in it. -/
def quotedCodeCharacters : List Char :=
  "\x7b\"openapi\":\"3.0.0\",\"info\":\x7b\"title\":\"Users\",\"version\":\"1\"\x7d,".toList ++
    "\"paths\":\x7b\"/users\":\x7b\"get\":\x7b".toList ++
    "\"responses\":\x7b\"it's\":\x7b\"description\":\"\",".toList ++
    "\"content\":\x7b\"application/json\":\x7b".toList ++
    "\"schema\":\x7b\"example\":\"a user\"\x7d\x7d\x7d\x7d\x7d\x7d\x7d\x7d\x7d".toList

/-- The quote of a response code of the document ends its key, and the rest of the code becomes a
part of the script. -/
theorem exists_render_not_holdsResponses :
    ∃ d m r, Spec.parse (some .json) (String.ofList quotedCodeCharacters) = .ok d ∧
      (Generation.run ⟨d, {}, {}, ⟨0⟩⟩).endpoints = [m] ∧ m.responses = [r] ∧ r.code = "it's" ∧
        key? (entry r).toList = some ("it".toList, "s': \"a user\"".toList) ∧
        ¬ HoldsResponses m (render m) := by
  have hread : (Spec.parseCharacters quotedCodeCharacters).toOption.map (fun d =>
      (Generation.run ⟨d, {}, {}, ⟨0⟩⟩).endpoints.map fun m =>
        m.responses.map fun r => (r.code, entry r)) =
      some [[("it's", "'it's': \"a user\"")]] := by
    decide +kernel
  obtain ⟨d, hparse, hrun⟩ := Spec.exists_of_parseCharacters hread
  obtain ⟨m, rest, hendpoints, hresponses, hrest⟩ := List.map_eq_cons_iff.mp hrun
  obtain rfl := List.map_eq_nil_iff.mp hrest
  obtain ⟨r, others, hr, hpair, hothers⟩ := List.map_eq_cons_iff.mp hresponses
  obtain rfl := List.map_eq_nil_iff.mp hothers
  obtain ⟨hcode, hentry⟩ := Prod.mk.inj hpair
  refine ⟨d, m, r, hparse, hendpoints, hr, hcode, hentry ▸ by decide +kernel, fun h => ?_⟩
  have hplain := isPlainKey_of_holdsResponses h r (hr ▸ List.mem_singleton_self r)
  rw [hcode] at hplain
  exact hplain.1 (by decide +kernel)

end MockModule

end MockApi
