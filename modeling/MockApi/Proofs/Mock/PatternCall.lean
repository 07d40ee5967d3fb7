import MockApi.Proofs.Mock.CallText
import MockApi.Proofs.Text.Replace

/-! # Patterns in generator calls

A pattern is read in pieces: a backslash takes the character after it along. Writing puts a
backslash before the slashes that are pieces by themselves, and reading drops the backslash of every
pair that ends in a slash, so that only pairs of the pattern itself are lost.
-/

namespace MockApi.Capability

/-- A text in pieces: escape pairs, other characters, and a backslash that nothing follows. -/
def pieces : List Char → List (List Char)
  | [] => []
  | ['\\'] => [['\\']]
  | '\\' :: c :: rest => ['\\', c] :: pieces rest
  | c :: rest => [c] :: pieces rest

/-- A slash that stands alone gets a backslash. -/
def escapePiece : List Char → List Char
  | ['/'] => ['\\', '/']
  | piece => piece

/-- An escape pair that ends in a slash loses its backslash. -/
def barePiece : List Char → List Char
  | ['\\', '/'] => ['/']
  | piece => piece

/-- The text with a slash for every escape pair that ends in one. -/
def bareSlashes (cs : List Char) : List Char := ((pieces cs).map barePiece).flatten

/-! ## Pieces -/

/-- Induction over the pieces of a text. -/
@[elab_as_elim]
theorem pieces_induction {motive : List Char → Prop} (cs : List Char) (nil : motive [])
    (lone : motive ['\\']) (pair : ∀ c rest, motive rest → motive ('\\' :: c :: rest))
    (single : ∀ c rest, c ≠ '\\' → motive rest → motive (c :: rest)) : motive cs := by
  induction cs using pieces.induct with
  | case1 => exact nil
  | case2 => exact lone
  | case3 c rest ih => exact pair c rest ih
  | case4 c rest hlone hpair ih =>
      refine single c rest ?_ ih
      rintro rfl
      cases rest with
      | nil => exact hlone rfl rfl
      | cons d later => exact hpair d later rfl rfl

section

variable {c : Char} {rest : List Char}

theorem pieces_cons (h : c ≠ '\\') : pieces (c :: rest) = [c] :: pieces rest :=
  pieces.eq_4 c rest (fun hc _ => h hc) fun _ _ hc _ => h hc

theorem escapeSlashes_cons (h : c ≠ '\\') (hslash : c ≠ '/') :
    escapeSlashes (c :: rest) = c :: escapeSlashes rest :=
  escapeSlashes.eq_5 c rest (fun hc _ => h hc) (fun _ _ hc _ => h hc) hslash

theorem escapePiece_singleton (h : c ≠ '/') : escapePiece [c] = [c] := by
  rw [escapePiece]
  rintro ⟨⟩
  exact h rfl

theorem escapePiece_pair : escapePiece ['\\', c] = ['\\', c] := rfl

theorem barePiece_singleton : barePiece [c] = [c] :=
  barePiece.eq_2 [c] nofun

theorem barePiece_pair (h : c ≠ '/') : barePiece ['\\', c] = ['\\', c] := by
  rw [barePiece]
  rintro ⟨⟩
  exact h rfl

end

/-- The pieces make up the text. -/
theorem flatten_pieces (cs : List Char) : (pieces cs).flatten = cs := by
  induction cs using pieces_induction with
  | nil => rfl
  | lone => rfl
  | pair c rest ih => rw [pieces, List.flatten_cons, ih]; rfl
  | single c rest h ih => rw [pieces_cons h, List.flatten_cons, ih]; rfl

/-- A piece is a character or an escape pair. -/
theorem mem_pieces {cs piece : List Char} (h : piece ∈ pieces cs) :
    (∃ c, piece = [c]) ∨ ∃ c, piece = ['\\', c] := by
  induction cs using pieces_induction with
  | nil => cases h
  | lone => exact .inl ⟨'\\', List.mem_singleton.mp h⟩
  | pair c rest ih =>
      rw [pieces] at h
      rcases List.mem_cons.mp h with rfl | h
      · exact .inr ⟨c, rfl⟩
      · exact ih h
  | single c rest hc ih =>
      rw [pieces_cons hc] at h
      rcases List.mem_cons.mp h with rfl | h
      · exact .inl ⟨c, rfl⟩
      · exact ih h

/-! ## Escaping -/

/-- Escaping works piece by piece, and what it makes of a piece is a piece. -/
theorem pieces_escapeSlashes (cs : List Char) :
    pieces (escapeSlashes cs) = (pieces cs).map escapePiece := by
  induction cs using pieces_induction with
  | nil => rfl
  | lone => rfl
  | pair c rest ih => rw [escapeSlashes, pieces, pieces, List.map_cons, ih, escapePiece_pair]
  | single c rest h ih =>
      rw [pieces_cons h, List.map_cons, ← ih]
      by_cases hslash : c = '/'
      · subst hslash
        rw [escapeSlashes, pieces]
        rfl
      · rw [escapeSlashes_cons h hslash, pieces_cons h, escapePiece_singleton hslash]

theorem escapePiece_idem (piece : List Char) :
    escapePiece (escapePiece piece) = escapePiece piece := by
  by_cases h : piece = ['/']
  · rw [h]
    rfl
  · have hsame : escapePiece piece = piece := escapePiece.eq_2 piece h
    rw [hsame, hsame]

theorem escapeSlashes_eq_flatten (cs : List Char) :
    escapeSlashes cs = ((pieces cs).map escapePiece).flatten := by
  rw [← pieces_escapeSlashes, flatten_pieces]

theorem escapeSlashes_idem (cs : List Char) :
    escapeSlashes (escapeSlashes cs) = escapeSlashes cs := by
  rw [escapeSlashes_eq_flatten (escapeSlashes cs), pieces_escapeSlashes, List.map_map,
    escapeSlashes_eq_flatten cs]
  congr 2
  exact funext escapePiece_idem

/-- In an escaped text a slash ends an escape pair. -/
theorem eq_pair_of_mem_pieces {cs piece : List Char} (h : piece ∈ pieces (escapeSlashes cs))
    (hslash : '/' ∈ piece) : piece = ['\\', '/'] := by
  rw [pieces_escapeSlashes] at h
  obtain ⟨original, horiginal, rfl⟩ := List.mem_map.mp h
  rcases mem_pieces horiginal with ⟨c, rfl⟩ | ⟨c, rfl⟩
  · by_cases hc : c = '/'
    · rw [hc]
      rfl
    · rw [escapePiece_singleton hc] at hslash
      exact absurd (List.mem_singleton.mp hslash).symm hc
  · rw [escapePiece_pair] at hslash ⊢
    rcases List.mem_cons.mp hslash with hback | hslash
    · cases hback
    · rw [List.mem_singleton.mp hslash]

/-! ## Replacing -/

theorem head?_escapeSlashes (cs : List Char) : (escapeSlashes cs).head? ≠ some '/' := by
  induction cs using pieces_induction with
  | nil => nofun
  | lone => nofun
  | pair c rest ih => nofun
  | single c rest h ih =>
      by_cases hslash : c = '/'
      · subst hslash
        nofun
      · rw [escapeSlashes_cons h hslash]
        exact fun heq => hslash (Option.some.inj heq)

theorem replace_pair (rest : List Char) :
    Text.replace ['\\', '/'] ['/'] ('\\' :: '/' :: rest) =
      '/' :: Text.replace ['\\', '/'] ['/'] rest := rfl

/-- A character that begins no escaped slash stays. -/
theorem replace_cons {c : Char} {rest : List Char} (h : c = '\\' → rest.head? ≠ some '/') :
    Text.replace ['\\', '/'] ['/'] (c :: rest) = c :: Text.replace ['\\', '/'] ['/'] rest := by
  refine Text.replace_cons fun hprefix => ?_
  obtain ⟨rfl, later, rfl⟩ := List.cons_prefix_cons.mp hprefix
  exact h rfl rfl

/-- Replacing meets exactly the escape pairs that end in a slash: the character of another pair is
never a backslash before a slash, since what follows the pair has been escaped. -/
theorem replace_escapeSlashes (cs : List Char) :
    Text.replace ['\\', '/'] ['/'] (escapeSlashes cs) = bareSlashes cs := by
  induction cs using pieces_induction with
  | nil => rfl
  | lone => rfl
  | pair c rest ih =>
      rw [escapeSlashes, bareSlashes, pieces, List.map_cons, List.flatten_cons, ← bareSlashes, ← ih]
      by_cases hslash : c = '/'
      · subst hslash
        exact replace_pair _
      · have hnext : (c :: escapeSlashes rest).head? ≠ some '/' :=
          fun heq => hslash (Option.some.inj heq)
        rw [barePiece_pair hslash, replace_cons fun _ => hnext,
          replace_cons fun _ => head?_escapeSlashes rest]
        rfl
  | single c rest h ih =>
      rw [bareSlashes, pieces_cons h, List.map_cons, List.flatten_cons, ← bareSlashes, ← ih,
        barePiece_singleton]
      by_cases hslash : c = '/'
      · subst hslash
        rw [escapeSlashes]
        exact replace_pair _
      · rw [escapeSlashes_cons h hslash, replace_cons fun hback => absurd hback h]
        rfl

/-- Without escape pairs that end in a slash nothing is lost. -/
theorem bareSlashes_of_not_mem {cs : List Char} (h : ['\\', '/'] ∉ pieces cs) :
    bareSlashes cs = cs := by
  have hsame : ∀ piece ∈ pieces cs, barePiece piece = piece := by
    intro piece hpiece
    refine barePiece.eq_2 piece ?_
    rintro rfl
    exact h hpiece
  rw [bareSlashes, List.map_congr_left hsame, List.map_id', flatten_pieces]

/-! ## Calls -/

theorem mem_escapeSlashes {c : Char} (hback : c ≠ '\\') (cs : List Char) :
    c ∈ escapeSlashes cs ↔ c ∈ cs := by
  induction cs using pieces_induction with
  | nil => rfl
  | lone => rfl
  | pair d rest ih => simp only [escapeSlashes, List.mem_cons, ih]
  | single d rest h ih =>
      by_cases hslash : d = '/'
      · subst hslash
        simp only [escapeSlashes, List.mem_cons, ih, hback, false_or]
      · rw [escapeSlashes_cons h hslash, List.mem_cons, List.mem_cons, ih]

theorem call_fromRegex (pattern : String) : call (.fromRegex pattern) =
    "faker.helpers.fromRegExp(/" ++ String.ofList (escapeSlashes pattern.toList) ++ "/)" := rfl

theorem before?_append (closing cs : List Char) :
    Call.before? closing (cs ++ closing) = some cs := by
  rw [Call.before?, if_pos (List.isSuffixOf_iff_suffix.mpr (List.suffix_append cs closing)),
    List.length_append, Nat.add_sub_cancel, List.take_left]

/-- The body of a pattern call is what stands between its slashes, on one line. -/
theorem pattern?_append (body : List Char) :
    Call.pattern? ("faker.helpers.fromRegExp(/".toList ++ (body ++ ['/', ')'])) =
      if '\n' ∈ body then none
      else some (.fromRegex (String.ofList (Text.replace ['\\', '/'] ['/'] body))) := by
  rw [Call.pattern?, Text.after?_append, Option.bind_eq_bind, Option.bind_some, before?_append,
    Option.bind_some]
  by_cases h : '\n' ∈ body
  · rw [if_pos h, if_pos (List.contains_iff_mem.mpr h)]
  · rw [if_neg h, if_neg fun hcontains => h (List.contains_iff_mem.mp hcontains)]
    rfl

theorem toList_call_fromRegex (pattern : String) : (call (.fromRegex pattern)).toList =
    "faker.helpers.fromRegExp(/".toList ++ (escapeSlashes pattern.toList ++ ['/', ')']) := by
  have hbody : (String.ofList (escapeSlashes pattern.toList)).toList =
      escapeSlashes pattern.toList := String.toList_ofList
  have hclose : "/)".toList = ['/', ')'] := Text.toList_of_eq_ofList rfl
  rw [call_fromRegex, String.toList_append, String.toList_append, hbody, hclose,
    List.append_assoc]

theorem trimmed_call_fromRegex (pattern : String) : Trimmed (call (.fromRegex pattern)) := by
  rw [call_fromRegex]
  exact .of_append (by simp) (by simp) (by decide +kernel)

theorem ofCall?_fromRegex (pattern : String) :
    ofCall? (call (.fromRegex pattern)) =
      if '\n' ∈ pattern.toList then none
      else some (.fromRegex (String.ofList (bareSlashes pattern.toList))) := by
  have hlist := toList_call_fromRegex pattern
  have htable := find?_fixed_eq_none (s := call (.fromRegex pattern)) (.inr (by rw [hlist]; simp))
  have hnumber := Call.number?_of_apart hlist (by decide)
  have hfloat := Call.float?_of_apart hlist (by decide)
  have halpha := Call.alpha?_of_apart hlist (by decide)
  have hpattern := pattern?_append (escapeSlashes pattern.toList)
  rw [← hlist, replace_escapeSlashes] at hpattern
  have hline : '\n' ∈ escapeSlashes pattern.toList ↔ '\n' ∈ pattern.toList :=
    mem_escapeSlashes (by decide) _
  simp only [ofCall?, (trimmed_call_fromRegex pattern).trim_self, htable, hnumber, hfloat, halpha,
    hpattern, hline]
  rfl

/-- A pattern on one line comes back from its call with a slash for every escaped slash; nothing
else of it changes, and the slashes of the call are escaped. -/
theorem call_fromRegex_reads_back (pattern : String) :
    ofCall? (call (.fromRegex pattern)) =
        (if '\n' ∈ pattern.toList then none
        else some (.fromRegex (String.ofList (bareSlashes pattern.toList)))) ∧
      (['\\', '/'] ∉ pieces pattern.toList →
        String.ofList (bareSlashes pattern.toList) = pattern) ∧
      call (.fromRegex pattern) =
        "faker.helpers.fromRegExp(/" ++ String.ofList (escapeSlashes pattern.toList) ++ "/)" ∧
      (∀ piece ∈ pieces (escapeSlashes pattern.toList), '/' ∈ piece → piece = ['\\', '/']) ∧
      escapeSlashes (escapeSlashes pattern.toList) = escapeSlashes pattern.toList := by
  refine ⟨ofCall?_fromRegex pattern, fun h => ?_, call_fromRegex pattern,
    fun _ => eq_pair_of_mem_pieces, escapeSlashes_idem _⟩
  rw [bareSlashes_of_not_mem h, String.ofList_toList]

-- a slash behind an escaped backslash keeps it, a slash behind a backslash does not
example : bareSlashes ['\\', '\\', '/', '\\', '/'] = ['\\', '\\', '/', '/'] := by decide

end MockApi.Capability
