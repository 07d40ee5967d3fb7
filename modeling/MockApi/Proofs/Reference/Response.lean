import MockApi.Proofs.Reference.Trail

/-! # What a resolved response holds

Where the references of a response land at one, every media type of it gives one entry, in document
order: the schema without its references, the nullable paths of that schema, and the example. The
example is the one where the references of the first named example land, else the plain one. The
problems are those of the entries, in the same order. Where the references land nowhere, there is no
entry and one problem.

The relations below say this without the functions that resolve, apart from that for schemas. These
functions give what stands in the relations, and nothing else does.
-/

namespace MockApi.Reference

/-- The example for a landing: its value, else its address, else none. -/
def Landing.named : Landing Example → Resolution ResolvedExample
  | .item e =>
    ⟨((e.value.or (e.externalValue.map .string)).map .value).getD .unavailable, []⟩
  | .repeated reference => ⟨.unavailable, [⟨.circular reference, .warning⟩]⟩
  | .lost problem => ⟨.unavailable, [⟨problem, .warning⟩]⟩

variable (components : Components)

/-- The schema of a media type without its references; where there is none, the empty one. -/
def bodySchema (m : MediaType) : Resolution Schema :=
  match m.schema with
  | some s => expand components.schemas s
  | none => ⟨Schema.empty, []⟩

/-- The example that a media type has, and the problems on the way to it. -/
inductive Exemplifies (m : MediaType) : Option ResolvedExample → List Finding → Prop
  | named {name : String} {start : Linked Example} {rest : Entries (Linked Example)}
      {landing : Landing Example} (hexamples : m.examples = some ((name, start) :: rest))
      (h : Lands .examples components.examples start landing) :
      Exemplifies m (some landing.named.value) landing.named.findings
  | plain (hexamples : ∀ first rest, m.examples ≠ some (first :: rest)) :
      Exemplifies m (m.exampleValue.map .value) []

/-- The entry that a media type gives, and the problems about it: those of its schema come before
those of its example. -/
structure ResolvesTo (m : MediaType) (entry : ResolvedMedia) (findings : List Finding) : Prop where
  schema : entry.schema = (bodySchema components m).value
  nullablePaths : entry.nullablePaths = entry.schema.nullablePaths
  exampleObject : ∃ later, Exemplifies components m entry.exampleObject later ∧
    findings = (bodySchema components m).findings ++ later

/-- The entries that media types give under their names, one after another. -/
inductive EachResolvesTo : Entries MediaType → Entries ResolvedMedia → List Finding → Prop
  | nil : EachResolvesTo [] [] []
  | cons {name : String} {m : MediaType} {entry : ResolvedMedia} {ms : Entries MediaType}
      {entries : Entries ResolvedMedia} {findings later : List Finding}
      (h : ResolvesTo components m entry findings) (hrest : EachResolvesTo ms entries later) :
      EachResolvesTo ((name, m) :: ms) ((name, entry) :: entries) (findings ++ later)

/-- What a response gives for a landing. -/
def Landing.Content : Landing Response → Resolution (Entries ResolvedMedia) → Prop
  | .item response, found =>
    EachResolvesTo components (response.content.getD []) found.value found.findings
  | .repeated reference, found => found = ⟨[], [⟨.circular reference, .warning⟩]⟩
  | .lost problem, found => found = ⟨[], [⟨problem, .error⟩]⟩

/-! ## Examples -/

variable {components}

theorem mediaExample_of_lands {m : MediaType} {name : String} {start : Linked Example}
    {rest : Entries (Linked Example)} (hexamples : m.examples = some ((name, start) :: rest))
    {landing : Landing Example} (h : Lands .examples components.examples start landing) :
    mediaExample components m = landing.named.map some := by
  unfold mediaExample
  simp only [hexamples]
  rw [chase_of_lands h]
  cases landing with
  | item e =>
      rcases e with ⟨_, value, externalValue⟩
      cases value <;> cases externalValue <;> rfl
  | repeated reference => rfl
  | lost problem => rfl

theorem mediaExample_of_plain {m : MediaType}
    (hexamples : ∀ first rest, m.examples ≠ some (first :: rest)) :
    mediaExample components m = ⟨m.exampleValue.map .value, []⟩ := by
  unfold mediaExample
  split
  next name start rest h => exact absurd h (hexamples (name, start) rest)
  next => rfl

theorem exemplifies_iff {m : MediaType} {e : Option ResolvedExample} {findings : List Finding} :
    Exemplifies components m e findings ↔ mediaExample components m = ⟨e, findings⟩ := by
  constructor
  · intro h
    cases h with
    | named hexamples h => exact mediaExample_of_lands hexamples h
    | plain hexamples => exact mediaExample_of_plain hexamples
  · intro h
    by_cases hexamples : ∃ first rest, m.examples = some (first :: rest)
    · obtain ⟨⟨name, start⟩, rest, hexamples⟩ := hexamples
      obtain ⟨landing, hlands⟩ := exists_lands .examples components.examples start
      rw [mediaExample_of_lands hexamples hlands] at h
      cases h
      exact .named hexamples hlands
    · have hplain : ∀ first rest, m.examples ≠ some (first :: rest) :=
        fun first rest heq => hexamples ⟨first, rest, heq⟩
      rw [mediaExample_of_plain hplain] at h
      cases h
      exact .plain hplain

/-! ## Media types -/

theorem media_eq (m : MediaType) :
    media components m = (bodySchema components m).zip (fun s e => ⟨s, s.nullablePaths, e⟩)
      (mediaExample components m) := rfl

theorem resolvesTo_iff {m : MediaType} {entry : ResolvedMedia} {findings : List Finding} :
    ResolvesTo components m entry findings ↔ media components m = ⟨entry, findings⟩ := by
  rw [media_eq]
  constructor
  · rintro ⟨hschema, hpaths, later, hexample, rfl⟩
    obtain ⟨schema, nullablePaths, exampleObject⟩ := entry
    dsimp only at hschema hpaths hexample
    subst hpaths hschema
    rw [exemplifies_iff.mp hexample]
    rfl
  · intro h
    cases h
    exact ⟨rfl, rfl, _, exemplifies_iff.mpr rfl, rfl⟩

theorem eachResolvesTo_iff {ms : Entries MediaType} {entries : Entries ResolvedMedia}
    {findings : List Finding} :
    EachResolvesTo components ms entries findings ↔
      Resolution.forEntries (media components) ms = ⟨entries, findings⟩ := by
  constructor
  · intro h
    induction h with
    | nil => rfl
    | cons h _ ih =>
        rw [Resolution.forEntries, Resolution.forEach, resolvesTo_iff.mp h,
          ← Resolution.forEntries, ih]
        rfl
  · intro h
    induction ms generalizing entries findings with
    | nil =>
        cases h
        exact .nil
    | cons m ms ih =>
        cases h
        exact .cons (resolvesTo_iff.mpr rfl) (ih rfl)

/-! ## Responses -/

theorem content_iff_of_lands {start : Linked Response} {landing : Landing Response}
    (h : Lands .responses components.responses start landing)
    (found : Resolution (Entries ResolvedMedia)) :
    landing.Content components found ↔ found = content components start := by
  unfold content
  rw [chase_of_lands h]
  cases landing with
  | item response =>
      simp only [Landing.Content, Landing.outcome, Option.bind_some, eachResolvesTo_iff]
      cases response.content <;> exact eq_comm
  | repeated reference => rfl
  | lost problem => rfl

/-- The references of a response, and those of the first named example of a media type, have one
landing, which says what is found there and which single problem the references contribute, if any.
What is found at a response is each media type with its schema, nullable paths and example, and
nothing else is. Without a named example the plain one is used. -/
theorem content_and_mediaExample_of_landing (components : Components) :
    (∀ start : Linked Response,
      (∃! landing, Lands .responses components.responses start landing) ∧
        ∀ landing, Lands .responses components.responses start landing →
          ∀ found, landing.Content components found ↔ found = content components start) ∧
    ∀ m : MediaType,
      match m.examples with
      | some ((_, start) :: _) =>
        (∃! landing, Lands .examples components.examples start landing) ∧
          ∀ landing, Lands .examples components.examples start landing →
            mediaExample components m = landing.named.map some
      | _ => mediaExample components m = ⟨m.exampleValue.map .value, []⟩ := by
  refine ⟨fun start => ⟨existsUnique_lands _ _ start, fun _ => content_iff_of_lands⟩,
    fun m => ?_⟩
  split
  next name start rest hexamples =>
    exact ⟨existsUnique_lands _ _ start, fun _ => mediaExample_of_lands hexamples⟩
  next hexamples =>
    exact mediaExample_of_plain fun first rest => hexamples first.1 first.2 rest

end MockApi.Reference
