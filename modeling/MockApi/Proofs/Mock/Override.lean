import MockApi.Pattern.Matcher
import MockApi.Proofs.Mock.Compile
import MockApi.Proofs.Node.Reader

/-! # Which rule overrides a property

The rules of an endpoint are laid over the global ones. A property is governed by the rule of its
own name or else by the rule of the first key, in the order of the layers, that is a pattern and
finds a match in the name. The rule that governs a property is all that the property compiles to.
-/

namespace MockApi

open Entries

/-! ## Layers -/

namespace Json

/-- What a member becomes when another value is laid over it. -/
def overlayMember (below : Option Json) (above : Json) : Json :=
  match below with
  | some value => value.overlay above
  | none => above

theorem overlayMembers_eq_foldl (lower upper : List (String × Json)) :
    overlayMembers lower upper =
      upper.foldl (fun acc x => alter x.1 (overlayMember · x.2) acc) lower := by
  induction upper generalizing lower with
  | nil => rw [overlayMembers]; rfl
  | cons x rest ih =>
      rcases x with ⟨key, value⟩
      rw [overlayMembers, List.foldl_cons, ih, alter_eq_insert]
      rfl

/-- Objects are merged member by member. -/
theorem find?_overlayMembers {lower upper : Entries Json} (h : upper.keys.Nodup) (key : String) :
    Entries.find? (overlayMembers lower upper) key =
      match upper.find? key with
      | some above => some (overlayMember (lower.find? key) above)
      | none => lower.find? key := by
  have hfold : overlayMembers lower upper = _ := overlayMembers_eq_foldl lower upper
  rw [hfold, find?_foldl_alter overlayMember lower h key]
  cases upper.find? key <;> rfl

end Json

namespace Rules

/-- The keys of two layers: those of the lower one, then those that only the upper one has. -/
def layeredKeys (lower upper : Rules) : List String :=
  lower.keys ++ upper.keys.filter (· ∉ lower.keys)

/-- The rule of a key in two layers. Where both have one, two literals are merged and otherwise the
upper rule is taken. -/
def layered (lower upper : Rules) (key : String) : Option Rule :=
  match lower.find? key, upper.find? key with
  | none, none => none
  | some below, none => some below
  | none, some above => some above
  | some (.literal below), some (.literal above) => some (.literal (below.overlay above))
  | some _, some above => some above

variable {lower upper : Rules}

theorem keys_merged (h : upper.keys.Nodup) :
    (lower.merged upper).keys = lower.layeredKeys upper :=
  keys_foldl_alter combine lower h

theorem find?_merged (h : upper.keys.Nodup) (key : String) :
    (lower.merged upper).find? key = lower.layered upper key := by
  have hfold : (lower.merged upper).find? key = _ := find?_foldl_alter combine lower h key
  rw [hfold, layered]
  rcases lower.find? key with _ | ⟨_ | _ | _⟩ <;>
    rcases upper.find? key with _ | ⟨_ | _ | _⟩ <;> rfl

end Rules

/-! ## The rule of a name -/

namespace PatternEngine

variable (engine : PatternEngine)

/-- The key that governs a name: the name itself if it is one of the keys, else the first key that
is a pattern and finds a match in the name. -/
def governing? (keys : List String) (name : String) : Option String :=
  if name ∈ keys then some name
  else keys.find? fun key => engine.accepts key && engine.finds key name

theorem accepts_and_finds (pattern text : String) :
    (engine.accepts pattern && engine.finds pattern text) = engine.finds pattern text := by
  unfold accepts finds
  cases engine.test? pattern <;> rfl

theorem mem_of_governing? {keys : List String} {name key : String}
    (h : engine.governing? keys name = some key) : key ∈ keys := by
  unfold governing? at h
  split at h
  next hname =>
    obtain rfl := Option.some.inj h
    exact hname
  next => exact List.mem_of_find?_eq_some h

end PatternEngine

namespace Compiler

variable (c : Compiler)

/-- A name has the rule of the key that governs it. -/
theorem rule?_eq (name : String) :
    c.rule? name =
      (c.engine.governing? c.context.rules.keys name).bind c.context.rules.find? := by
  rw [rule?, map_snd_find? fun key => c.engine.finds key name, PatternEngine.governing?]
  simp only [PatternEngine.accepts_and_finds]
  by_cases hname : name ∈ c.context.rules.keys
  · obtain ⟨rule, hrule⟩ := exists_find?_of_mem hname
    rw [if_pos hname, hrule, Option.bind_some, hrule]
    rfl
  · rw [if_neg hname, find?_eq_none_iff.mpr hname]
    rfl

/-- Where a rule governs the name, a node compiles to the rule alone. -/
theorem compileWith_of_rule {s : Schema} {site : Site} {name : String} {rule : Rule}
    (hmarker : s.isMarker = false) (hname : site.key = some name) (hrule : c.rule? name = some rule)
    (again : Schema → Site → Compiled) :
    c.compileWith again s site = ⟨rule.expression, [], []⟩ := by
  have hdecided : c.decided? s site = some ⟨rule.expression, [], []⟩ := by
    rw [decided?, if_neg (by simp [hmarker]), hname, Option.bind_some, hrule]
  exact compileWith_of_decided? hdecided

/-- The compiler without rules. -/
def withoutRules : Compiler := { c with context := { c.context with rules := [] } }

theorem decided?_withoutRules {s : Schema} {site : Site}
    (hrule : site.key.bind c.rule? = none) :
    c.withoutRules.decided? s site = c.decided? s site := by
  have hnone : site.key.bind c.withoutRules.rule? = none := by
    cases site.key <;> rfl
  rw [decided?, decided?, hrule, hnone]
  rfl

end Compiler

namespace Settings

/-- The rules of one endpoint. -/
def endpointRules (s : Settings) (path : String) (method : Method) : Rules :=
  ((s.endpoint path method).getD {}).rules

open Node

theorem nodup_keys_of_rules {anchors : Anchors} {depth : Nat} {t : Option Node} {rules : Rules}
    (h : defaulted? [] (rules? anchors depth) t = some rules) : rules.keys.Nodup := by
  cases t with
  | none =>
      obtain rfl := Option.some.inj h
      exact List.nodup_nil
  | some t =>
      have hread : rules? anchors depth t = some rules := h
      exact (nodup_keys_of_entries hread).1

theorem nodup_keys_of_endpoint {anchors : Anchors} {depth : Nat} {t : Node} {e : EndpointSettings}
    (h : endpoint? anchors depth t = some e) : e.rules.keys.Nodup := by
  unfold endpoint? at h
  obtain ⟨⟨depth, found⟩, -, h⟩ := Option.bind_eq_some_iff.mp h
  dsimp only at h
  split at h
  next =>
    simp only [Option.bind_eq_bind, Option.bind_eq_some_iff, Option.pure_def] at h
    obtain ⟨_, -, _, -, _, -, rules, hrules, h⟩ := h
    obtain rfl := Option.some.inj h
    exact nodup_keys_of_rules hrules
  next => cases h

theorem nodup_keys_of_methods {anchors : Anchors} {depth : Nat} {t : Node}
    {methods : List (Method × EndpointSettings)} (h : methods? anchors depth t = some methods) :
    ∀ m ∈ methods, m.2.rules.keys.Nodup := by
  unfold methods? at h
  obtain ⟨entries, hentries, h⟩ := Option.bind_eq_some_iff.mp h
  intro m hm
  obtain ⟨entry, hentry, hmethod⟩ := exists_of_mapM h m hm
  obtain ⟨method, -, rfl⟩ := Option.map_eq_some_iff.mp hmethod
  obtain ⟨_, _, -, hread⟩ := (nodup_keys_of_entries hentries).2 entry hentry
  exact nodup_keys_of_endpoint hread

theorem nodup_keys_of_endpoints {anchors : Anchors} {depth : Nat} {t : Option Node}
    {endpoints : Entries (List (Method × EndpointSettings))}
    (h : defaulted? [] (entries? anchors depth (methods? anchors)) t = some endpoints) :
    ∀ e ∈ endpoints, ∀ m ∈ e.2, m.2.rules.keys.Nodup := by
  cases t with
  | none =>
      obtain rfl := Option.some.inj h
      simp
  | some t =>
      have hread : entries? anchors depth (methods? anchors) t = some endpoints := h
      intro e he
      obtain ⟨_, _, -, hmethods⟩ := (nodup_keys_of_entries hread).2 e he
      exact nodup_keys_of_methods hmethods

theorem exists_of_read {d : Document} {s : Settings} (h : ofDocument? d = some s) :
    ∃ depth t, defaulted? [] (entries? d.anchors depth (methods? d.anchors)) t =
      some s.endpoints := by
  unfold ofDocument? at h
  obtain ⟨⟨depth, found⟩, -, h⟩ := Option.bind_eq_some_iff.mp h
  dsimp only at h
  split at h
  next =>
    simp only [Option.bind_eq_bind, Option.bind_eq_some_iff, Option.pure_def] at h
    obtain ⟨_, -, _, -, _, -, _, -, _, -, _, -, _, -, endpoints, hendpoints, h⟩ := h
    obtain rfl := Option.some.inj h
    exact ⟨depth, _, hendpoints⟩
  next => cases h

/-- What is read from a configuration has every key once in the rules of an endpoint. -/
theorem nodup_keys_endpointRules {d : Document} {s : Settings} (h : ofDocument? d = some s)
    (path : String) (method : Method) : (s.endpointRules path method).keys.Nodup := by
  obtain ⟨depth, t, hendpoints⟩ := exists_of_read h
  unfold endpointRules
  cases hown : s.endpoint path method with
  | none => exact List.nodup_nil
  | some own =>
      obtain ⟨methods, hmethods, hlookup⟩ := Option.bind_eq_some_iff.mp hown
      obtain ⟨before, after, rfl, -⟩ := List.lookup_eq_some_iff.mp hlookup
      exact nodup_keys_of_endpoints hendpoints _ (mem_of_find?_eq_some hmethods) (method, own)
        (by simp)

/-- In two layers a name is governed by the rule of its own key or else of the first key that is a
pattern and finds a match in it. The node then compiles to that rule alone; where no key governs the
name, the node is decided as without rules. -/
theorem compile_override (s : Settings) (path : String) (method : Method) (engine : PatternEngine)
    (year : Nat) (hkeys : (s.endpointRules path method).keys.Nodup) (schema : Schema)
    (hmarker : schema.isMarker = false) (site : Compiler.Site) (name : String)
    (hname : site.key = some name) :
    let c : Compiler := ⟨s.contextFor path method, engine, year⟩
    let own := s.endpointRules path method
    match engine.governing? (s.rules.layeredKeys own) name with
    | some key => ∃ rule, s.rules.layered own key = some rule ∧
        c.compile (some schema) site = ⟨rule.expression, [], []⟩ ∧
        ∀ again, c.compileWith again schema site = ⟨rule.expression, [], []⟩
    | none => c.rule? name = none ∧
        c.decided? schema site = c.withoutRules.decided? schema site := by
  intro c own
  have hrules : c.context.rules = s.rules.merged own := rfl
  have hrule := c.rule?_eq name
  rw [hrules, Rules.keys_merged hkeys] at hrule
  split
  next key hgoverning =>
    rw [hgoverning, Option.bind_some, Rules.find?_merged hkeys] at hrule
    have hmem := engine.mem_of_governing? hgoverning
    rw [← Rules.keys_merged hkeys] at hmem
    obtain ⟨rule, hlayered⟩ := exists_find?_of_mem hmem
    rw [Rules.find?_merged hkeys] at hlayered
    rw [hlayered] at hrule
    have hcompiled := c.compileWith_of_rule hmarker hname hrule
    exact ⟨rule, hlayered, hcompiled _, hcompiled⟩
  next hgoverning =>
    -- Nothing else reads the rules, so the node is decided as if there were none.
    rw [hgoverning, Option.bind_none] at hrule
    refine ⟨hrule, (c.decided?_withoutRules ?_).symm⟩
    rw [hname, Option.bind_some, hrule]

/-- Settings with rules for identifiers, for users and, in both layers, for an owner. -/
def identifiers : Settings where
  rules := [("(", .literal .null), ("Id$", .generator "faker.datatype.uuid()"),
    ("owner", .literal (.object [("name", .string "Ada"), ("city", .string "Rome")]))]
  endpoints := [("/users", [(.get, { rules := [("^user", .generator "faker.random.word()"),
    ("Id$", .generator "faker.datatype.number()"),
    ("owner", .literal (.object [("name", .string "Bo")]))] })])]

/-- The key with the rule for identifiers comes before that with the rule for users, and the key
that is no pattern is passed over. The two owners are merged. -/
theorem compile_override_identifiers :
    Compiler.compile ⟨identifiers.contextFor "/users" .get, Pattern.searchEngine, 2024⟩
      (some { keywords := { type := some .string } }) { key := some "userId" } =
        ⟨.generator "faker.datatype.number()", [], []⟩ ∧
    Compiler.compile ⟨identifiers.contextFor "/users" .get, Pattern.searchEngine, 2024⟩
      (some { keywords := { type := some .string } }) { key := some "owner" } =
        ⟨.literal (.object [("name", .string "Bo"), ("city", .string "Rome")]), [], []⟩ := by
  have hcompiled {name : String} (key : String) {rule : Rule}
      (hgoverning : Pattern.searchEngine.governing?
        (identifiers.rules.layeredKeys (identifiers.endpointRules "/users" .get)) name = some key)
      (hlayered : identifiers.rules.layered (identifiers.endpointRules "/users" .get) key =
        some rule) :
      Compiler.compile ⟨identifiers.contextFor "/users" .get, Pattern.searchEngine, 2024⟩
        (some { keywords := { type := some .string } }) { key := some name } =
          ⟨rule.expression, [], []⟩ := by
    have hoverride := compile_override identifiers "/users" .get Pattern.searchEngine 2024
      (by decide +kernel) { keywords := { type := some .string } } rfl { key := some name } name rfl
    dsimp only at hoverride
    rw [hgoverning] at hoverride
    obtain ⟨_, hrule, hcompiled, -⟩ := hoverride
    obtain rfl := Option.some.inj (hlayered.symm.trans hrule)
    exact hcompiled
  exact ⟨hcompiled "Id$" (by decide +kernel) rfl,
    hcompiled "owner" (by decide +kernel) rfl⟩

end Settings

end MockApi
