import MockApi.Mock.Settings
import MockApi.Proofs.Node.Written

/-! # Saving and reloading a configuration

Saving leaves out what is absent and writes every rule as a plain JSON value; loading fills in
defaults and takes a text that starts like a generator call for one. What was loaded once comes
back as it was. In any other configuration only the rules change, since producers, generator calls
and texts are all saved as texts.
-/

namespace MockApi

namespace Method

theorem ofLower?_lower (m : Method) : ofLower? m.lower = some m := by
  cases m <;> decide

theorem lower_of_ofLower? {s : String} {m : Method} (h : ofLower? s = some m) : m.lower = s := by
  simpa using List.find?_some h

end Method

namespace Rule

/-- The rule of a text: a generator call when it starts like one, else the text itself. -/
def ofText (text : String) : Rule :=
  if callLead.isPrefixOf text.toList then .generator text else .literal (.string text)

/-- What becomes of a rule that is saved and reloaded. -/
def reloaded : Rule → Rule
  | .custom producer => ofText producer.source
  | .generator source => ofText source
  | .literal (.string text) => ofText text
  | .literal value => .literal value

theorem ofJson_toJson (r : Rule) : ofJson r.toJson = r.reloaded := by
  rcases r with v | _ | _
  · cases v <;> rfl
  · rfl
  · rfl

theorem toJson_ofJson (v : Json) : (ofJson v).toJson = v := by
  unfold ofJson
  split
  next => split <;> rfl
  next => rfl

/-- A rule that was read is not changed by reading it again. -/
theorem reloaded_ofJson (v : Json) : (ofJson v).reloaded = ofJson v := by
  rw [← ofJson_toJson, toJson_ofJson]

/-- A rule whose value can be written as JSON. -/
def Proper (r : Rule) : Prop := ∃ depth, r.toJson.Fits depth

end Rule

/-- Rules with every key once, of which something holds. -/
structure Rules.Each (holds : Rule → Prop) (rules : Rules) : Prop where
  keys : rules.keys.Nodup
  rules : ∀ r ∈ rules, holds r.2

theorem Rules.Each.mono {holds holds' : Rule → Prop} {rules : Rules} (h : rules.Each holds)
    (himp : ∀ r, holds r → holds' r) : rules.Each holds' :=
  ⟨h.keys, fun r hr => himp r.2 (h.rules r hr)⟩

/-- Changes every rule of an endpoint. -/
def EndpointSettings.mapRules (f : Rule → Rule) (e : EndpointSettings) : EndpointSettings :=
  { e with rules := e.rules.mapValues f }

namespace Settings

/-- Changes every rule, both the global ones and those of endpoints. -/
def mapRules (f : Rule → Rule) (s : Settings) : Settings :=
  { s with
    rules := s.rules.mapValues f
    endpoints := s.endpoints.mapValues fun methods => methods.map fun m => (m.1, m.2.mapRules f) }

/-- Settings with every key, path and method once, and what holds of the global rules and of those
of endpoints. -/
structure Keeps (global own : Rule → Prop) (s : Settings) : Prop where
  rules : s.rules.Each global
  paths : s.endpoints.keys.Nodup
  methods : ∀ e ∈ s.endpoints, (e.2.map Prod.fst).Nodup
  own : ∀ e ∈ s.endpoints, ∀ m ∈ e.2, m.2.rules.Each own

/-- Settings as a program can build them. -/
def WellFormed (s : Settings) : Prop := s.Keeps Rule.Proper Rule.Proper

/-- What is loaded from saved settings by a reader that permits a nesting. -/
def reload (depth : Nat) (s : Settings) : Option Settings :=
  ofDocument? ⟨Node.ofJson s.toJson, #[], depth⟩

open Node

/-! ## Reading what was saved -/

variable {anchors : Anchors} {depth : Nat}

theorem nat64?_ofJson (n : Nat) : nat64? anchors (ofJson (.nat n)) = some n := by
  simp [nat64?, view, ofJson, Json.nat]

theorem rules?_toJson {rules : Rules} (h : rules.Each (·.toJson.Fits depth)) :
    rules? anchors (depth + 1) (ofJson rules.toJson) = some (rules.mapValues Rule.reloaded) := by
  refine entries?_ofJson h.keys fun r hr => ?_
  rw [json?_ofJson (h.rules r hr)]
  exact congrArg some (Rule.ofJson_toJson r.2)

theorem rules?_optional {rules : Rules} (h : rules.Each (·.toJson.Fits depth)) :
    defaulted? [] (rules? anchors (depth + 1))
      ((if rules.isEmpty then none else some rules.toJson).map ofJson) =
        some (rules.mapValues Rule.reloaded) := by
  split
  next hempty =>
    obtain rfl := List.isEmpty_iff.mp hempty
    rfl
  next => exact rules?_toJson h

/-- The members of the overrides of an endpoint. -/
def endpointMembers (e : EndpointSettings) : Entries Json :=
  Json.optionalMember "arrayLength" Json.nat e.arrayLength ++
    (Json.optionalMember "useExample" Json.bool e.useExample ++
      (Json.optionalMember "dynamic" Json.bool e.dynamic ++
        Json.optionalMember "fakerMap" id (if e.rules.isEmpty then none else some e.rules.toJson)))

theorem endpoint_toJson_eq (e : EndpointSettings) : e.toJson = .object (endpointMembers e) := by
  unfold EndpointSettings.toJson endpointMembers
  split <;> simp [Json.optionalMember]

theorem nodup_keys_endpointMembers (e : EndpointSettings) :
    (Entries.keys (endpointMembers e)).Nodup := by
  have hsublist : (Entries.keys (endpointMembers e)).Sublist
      ["arrayLength", "useExample", "dynamic", "fakerMap"] := by
    repeat apply Json.keys_optionalMember_append_sublist
    apply Json.keys_optionalMember_sublist
  exact (by decide : List.Nodup _).sublist hsublist

theorem maybe?_nat64 (n : Option Nat) :
    maybe? anchors (nat64? anchors) ((n.map Json.nat).map ofJson) = some n :=
  maybe?_map Json.nat (fun _ => rfl) nat64?_ofJson n

theorem maybe?_bool (b : Option Bool) :
    maybe? anchors (bool? anchors) ((b.map Json.bool).map ofJson) = some b :=
  maybe?_map Json.bool (fun _ => rfl) (fun _ => rfl) b

theorem maybe?_text (s : Option String) :
    maybe? anchors (text? anchors) ((s.map Json.string).map ofJson) = some s :=
  maybe?_map Json.string (fun _ => rfl) (fun _ => rfl) s

theorem endpoint?_toJson {e : EndpointSettings} (h : e.rules.Each (·.toJson.Fits depth)) :
    endpoint? anchors (depth + 2) (ofJson e.toJson) = some (e.mapRules Rule.reloaded) := by
  rw [endpoint_toJson_eq, endpoint?, record?_ofJson (by decide) (nodup_keys_endpointMembers e)]
  simp only [foundIn, endpointMembers, List.map_cons, List.map_nil,
    Json.find?_optionalMember_append, Json.find?_optionalMember, String.reduceEq, if_true, if_false,
    Option.or_none, Option.map_id, id, Option.bind_eq_bind, Option.bind_some, maybe?_nat64,
    maybe?_bool, rules?_optional h]
  rfl

/-! ## The paths and methods -/

/-- The overrides of a path under the names of their methods. -/
def named (methods : List (Method × EndpointSettings)) : Entries EndpointSettings :=
  methods.map fun m => (m.1.lower, m.2)

theorem methodsToJson_eq (methods : List (Method × EndpointSettings)) :
    methodsToJson methods = .object ((named methods).mapValues EndpointSettings.toJson) := by
  simp [methodsToJson, named, Entries.mapValues]

theorem nodup_keys_named {methods : List (Method × EndpointSettings)}
    (h : (methods.map Prod.fst).Nodup) : (named methods).keys.Nodup := by
  have hinjective : Function.Injective Method.lower := fun m m' hlower => by
    simpa [Method.ofLower?_lower] using congrArg Method.ofLower? hlower
  simpa [named, Entries.keys, Function.comp_def] using h.map hinjective

theorem methods?_toJson {methods : List (Method × EndpointSettings)}
    (hmethods : (methods.map Prod.fst).Nodup)
    (h : ∀ m ∈ methods, m.2.rules.Each (·.toJson.Fits depth)) :
    methods? anchors (depth + 3) (ofJson (methodsToJson methods)) =
      some (methods.map fun m => (m.1, m.2.mapRules Rule.reloaded)) := by
  have hread : ∀ m ∈ named methods, endpoint? anchors (depth + 2) (ofJson m.2.toJson) =
      some (m.2.mapRules Rule.reloaded) := by
    intro m hm
    obtain ⟨m, hmem, rfl⟩ := List.mem_map.mp hm
    exact endpoint?_toJson (h m hmem)
  have hentries : (named methods).mapValues (·.mapRules Rule.reloaded) =
      methods.map fun m => (m.1.lower, m.2.mapRules Rule.reloaded) := by
    simp [named, Entries.mapValues]
  rw [methods?, methodsToJson_eq, entries?_ofJson (nodup_keys_named hmethods) hread, hentries]
  exact mapM_map_eq_some _ fun m _ => by rw [Method.ofLower?_lower]; rfl

/-- What the entries of settings are read back to. -/
theorem endpoints?_toJson {endpoints : Entries (List (Method × EndpointSettings))}
    (hpaths : endpoints.keys.Nodup) (hmethods : ∀ e ∈ endpoints, (e.2.map Prod.fst).Nodup)
    (h : ∀ e ∈ endpoints, ∀ m ∈ e.2, m.2.rules.Each (·.toJson.Fits depth)) :
    entries? anchors (depth + 4) (methods? anchors)
      (ofJson (.object (endpoints.mapValues methodsToJson))) =
        some (endpoints.mapValues fun methods =>
          methods.map fun m => (m.1, m.2.mapRules Rule.reloaded)) :=
  entries?_ofJson hpaths fun e he => methods?_toJson (hmethods e he) (h e he)

/-! ## The whole configuration -/

/-- The members of a configuration. -/
def members (s : Settings) : Entries Json :=
  ("specPath", .string s.specPath) :: ("outputDir", .string s.outputDir) ::
    (Json.optionalMember "baseUrl" Json.string s.baseUrl ++
      [("arrayLength", Json.nat s.arrayLength), ("useExample", .bool s.useExample),
        ("dynamic", .bool s.dynamic), ("fakerMap", s.rules.toJson),
        ("endpoints", .object (s.endpoints.mapValues methodsToJson))])

theorem toJson_eq (s : Settings) : s.toJson = .object s.members := by
  simp [toJson, members]

theorem nodup_names_fields : (fields.map Field.name).Nodup := by
  decide

theorem nodup_keys_members (s : Settings) : s.members.keys.Nodup := by
  have hsublist : s.members.keys.Sublist (fields.map Field.name) := by
    refine .cons_cons _ (.cons_cons _ ?_)
    exact Json.keys_optionalMember_append_sublist (List.Sublist.refl _)
  exact nodup_names_fields.sublist hsublist

theorem foundIn_members (s : Settings) :
    foundIn fields s.members =
      [some (ofJson (.string s.specPath)), some (ofJson (.string s.outputDir)),
        (s.baseUrl.map Json.string).map ofJson, some (ofJson (.nat s.arrayLength)),
        some (ofJson (.bool s.useExample)), some (ofJson (.bool s.dynamic)),
        some (ofJson s.rules.toJson),
        some (ofJson (.object (s.endpoints.mapValues methodsToJson)))] := by
  simp [foundIn, fields, members, Entries.find?_nil, Entries.find?_cons,
    Json.find?_optionalMember_append]

/-- Saved settings are read back with their rules as reading leaves them. -/
theorem ofDocument?_toJson {s : Settings}
    (h : s.Keeps (·.toJson.Fits (depth + 3)) (·.toJson.Fits depth)) :
    ofDocument? ⟨ofJson s.toJson, anchors, depth + 5⟩ = some (s.mapRules Rule.reloaded) := by
  have hrecord : record? anchors fields (depth + 5) (ofJson s.toJson) =
      some (depth + 4, foundIn fields s.members) :=
    s.toJson_eq ▸ record?_ofJson nodup_names_fields s.nodup_keys_members (depth + 4)
  have hrules : rules? anchors (depth + 4) (ofJson s.rules.toJson) = _ := rules?_toJson h.rules
  have hendpoints : entries? anchors (depth + 4) (methods? anchors) _ = _ :=
    endpoints?_toJson h.paths h.methods h.own
  rw [foundIn_members] at hrecord
  simp only [ofDocument?, hrecord, Option.bind_eq_bind, Option.bind_some, defaulted?, maybe?_text,
    nat64?_ofJson, hrules, hendpoints]
  rfl

/-! ## What was read before -/

/-- A rule read from a value that fits a nesting. -/
def ReadWithin (depth : Nat) (r : Rule) : Prop := ∃ v : Json, v.Fits depth ∧ r = Rule.ofJson v

theorem each_of_rules? {t : Node} {rules : Rules} (h : rules? anchors depth t = some rules) :
    rules.Each (ReadWithin (depth - 1)) := by
  obtain ⟨hkeys, hrules⟩ := nodup_keys_of_entries h
  refine ⟨hkeys, fun r hr => ?_⟩
  obtain ⟨below, u, rfl, hu⟩ := hrules r hr
  obtain ⟨v, hv, hr⟩ := Option.map_eq_some_iff.mp hu
  exact ⟨v, fits_of_json? hv, hr.symm⟩

/-- The rules in a field of a record are two levels below it. -/
theorem each_of_field {fs : List Field} {below : Nat} {t : Node} {found : List (Option Node)}
    (hrecord : record? anchors fs depth t = some (below, found)) {u : Option Node} (hu : u ∈ found)
    {rules : Rules} (h : defaulted? [] (rules? anchors below) u = some rules) :
    rules.Each (ReadWithin (depth - 2)) := by
  cases u with
  | none =>
      obtain rfl := Option.some.inj h
      exact ⟨List.nodup_nil, by simp⟩
  | some u =>
      obtain rfl := depth_of_record hrecord hu
      exact each_of_rules? h

theorem each_of_endpoint? {t : Node} {e : EndpointSettings}
    (h : endpoint? anchors depth t = some e) : e.rules.Each (ReadWithin (depth - 2)) := by
  unfold endpoint? at h
  obtain ⟨⟨below, found⟩, hrecord, h⟩ := Option.bind_eq_some_iff.mp h
  dsimp only at h
  split at h
  next =>
    simp only [Option.bind_eq_bind, Option.bind_eq_some_iff, Option.pure_def] at h
    obtain ⟨_, -, _, -, _, -, rules, hrules, h⟩ := h
    obtain rfl := Option.some.inj h
    exact each_of_field hrecord (by simp) hrules
  next => cases h

/-- The methods of a path are read once each, and their rules three levels below it. -/
theorem each_of_methods? {t : Node} {methods : List (Method × EndpointSettings)}
    (h : methods? anchors depth t = some methods) :
    (methods.map Prod.fst).Nodup ∧ ∀ m ∈ methods, m.2.rules.Each (ReadWithin (depth - 3)) := by
  unfold methods? at h
  obtain ⟨entries, hentries, h⟩ := Option.bind_eq_some_iff.mp h
  obtain ⟨hkeys, hread⟩ := nodup_keys_of_entries hentries
  constructor
  · have hnames : methods.map (fun m => m.1.lower) = entries.map Prod.fst := by
      refine map_eq_of_mapM (fun e m hm => ?_) h
      obtain ⟨method, hmethod, rfl⟩ := Option.map_eq_some_iff.mp hm
      exact Method.lower_of_ofLower? hmethod
    have hlower : ((methods.map Prod.fst).map Method.lower).Nodup := by
      rw [List.map_map]
      exact hnames ▸ hkeys
    exact hlower.of_map _
  · intro m hm
    obtain ⟨entry, hentry, hmethod⟩ := exists_of_mapM h m hm
    obtain ⟨method, -, rfl⟩ := Option.map_eq_some_iff.mp hmethod
    obtain ⟨below, u, rfl, hendpoint⟩ := hread entry hentry
    exact each_of_endpoint? hendpoint

/-- Settings that were read have every key once, and their rules come from values as deep as the
document permits. -/
theorem keeps_of_ofDocument? {d : Document} {s : Settings} (h : ofDocument? d = some s) :
    s.Keeps (ReadWithin (d.depth - 2)) (ReadWithin (d.depth - 5)) := by
  unfold ofDocument? at h
  obtain ⟨⟨below, found⟩, hrecord, h⟩ := Option.bind_eq_some_iff.mp h
  dsimp only at h
  split at h
  next specPath outputDir baseUrl arrayLength useExample dynamic rules endpoints =>
    simp only [Option.bind_eq_bind, Option.bind_eq_some_iff, Option.pure_def] at h
    obtain ⟨_, -, _, -, _, -, _, -, _, -, _, -, globalRules, hrules, made, hmade, h⟩ := h
    obtain rfl := Option.some.inj h
    have hglobal : Rules.Each (ReadWithin (d.depth - 2)) globalRules :=
      each_of_field hrecord (by simp) hrules
    cases endpoints with
    | none =>
        obtain rfl := Option.some.inj hmade
        exact ⟨hglobal, List.nodup_nil, by simp, by simp⟩
    | some u =>
        have hdepth := depth_of_record (u := u) hrecord (by simp)
        obtain ⟨hkeys, hread⟩ := nodup_keys_of_entries hmade
        have hmethods : ∀ e ∈ made, (e.2.map Prod.fst).Nodup ∧
            ∀ m ∈ e.2, m.2.rules.Each (ReadWithin (d.depth - 5)) := by
          intro e he
          obtain ⟨lower, u, rfl, hu⟩ := hread e he
          rw [hdepth]
          exact each_of_methods? hu
        exact ⟨hglobal, hkeys, fun e he => (hmethods e he).1, fun e he => (hmethods e he).2⟩
  next => cases h

/-! ## Reloading -/

variable {f : Rule → Rule} {global own global' own' : Rule → Prop}

theorem Keeps.mono {s : Settings} (h : s.Keeps global own) (hglobal : ∀ r, global r → global' r)
    (hown : ∀ r, own r → own' r) : s.Keeps global' own' :=
  ⟨h.rules.mono hglobal, h.paths, h.methods, fun e he m hm => (h.own e he m hm).mono hown⟩

theorem mapValues_eq_self {rules : Rules} (h : ∀ r ∈ rules, f r.2 = r.2) :
    rules.mapValues f = rules :=
  (List.map_congr_left fun r hr => by rw [h r hr]; rfl).trans (List.map_id rules)

theorem Keeps.mapRules_eq_self {s : Settings} (h : s.Keeps global own)
    (hglobal : ∀ r, global r → f r = r) (hown : ∀ r, own r → f r = r) : s.mapRules f = s := by
  have hrules : s.rules.mapValues f = s.rules :=
    mapValues_eq_self fun r hr => hglobal r.2 (h.rules.rules r hr)
  have hendpoints : s.endpoints.mapValues (fun methods =>
      methods.map fun m => (m.1, m.2.mapRules f)) = s.endpoints := by
    refine (List.map_congr_left fun e he => ?_).trans (List.map_id s.endpoints)
    refine congrArg (e.1, ·) ((List.map_congr_left fun m hm => ?_).trans (List.map_id e.2))
    have hm : m.2.rules.mapValues f = m.2.rules :=
      mapValues_eq_self fun r hr => hown r.2 ((h.own e he m hm).rules r hr)
    rw [EndpointSettings.mapRules, hm]
    rfl
  rw [mapRules, hrules, hendpoints]

/-- Every rule of settings. -/
def allRules (s : Settings) : List Rule :=
  s.rules.values ++ s.endpoints.flatMap fun e => e.2.flatMap fun m => m.2.rules.values

theorem exists_fits {rules : List Rule} (h : ∀ r ∈ rules, r.Proper) :
    ∃ depth, ∀ r ∈ rules, r.toJson.Fits depth := by
  induction rules with
  | nil => exact ⟨0, by simp⟩
  | cons r rest ih =>
      obtain ⟨first, hfirst⟩ := h r List.mem_cons_self
      obtain ⟨others, hothers⟩ := ih fun r hr => h r (List.mem_cons_of_mem _ hr)
      refine ⟨max first others, fun r hr => ?_⟩
      rcases List.mem_cons.mp hr with rfl | hr
      · exact hfirst.mono (Nat.le_max_left _ _)
      · exact (hothers r hr).mono (Nat.le_max_right _ _)

theorem WellFormed.exists_keeps {s : Settings} (h : s.WellFormed) :
    ∃ depth, s.Keeps (·.toJson.Fits depth) (·.toJson.Fits depth) := by
  have hglobal {r} (hr : r ∈ s.rules) : r.2 ∈ s.allRules :=
    List.mem_append_left _ (List.mem_map_of_mem hr)
  have hown {e m r} (he : e ∈ s.endpoints) (hm : m ∈ e.2) (hr : r ∈ m.2.rules) :
      r.2 ∈ s.allRules :=
    List.mem_append_right _ (List.mem_flatMap.mpr
      ⟨e, he, List.mem_flatMap.mpr ⟨m, hm, List.mem_map_of_mem hr⟩⟩)
  have hproper : ∀ r ∈ s.allRules, r.Proper := by
    intro r hr
    rcases List.mem_append.mp hr with hr | hr
    · obtain ⟨x, hx, rfl⟩ := List.mem_map.mp hr
      exact h.rules.rules x hx
    · obtain ⟨e, he, hr⟩ := List.mem_flatMap.mp hr
      obtain ⟨m, hm, hr⟩ := List.mem_flatMap.mp hr
      obtain ⟨x, hx, rfl⟩ := List.mem_map.mp hr
      exact (h.own e he m hm).rules x hx
  obtain ⟨depth, hfits⟩ := exists_fits hproper
  exact ⟨depth, ⟨h.rules.keys, fun r hr => hfits _ (hglobal hr)⟩, h.paths, h.methods,
    fun e he m hm => ⟨(h.own e he m hm).keys, fun r hr => hfits _ (hown he hm hr)⟩⟩

/-- What was read from a document comes back from saving as it was, and so it means the same for
every endpoint. In any settings that a program can build, saving and reloading changes nothing but
the rules that are saved as texts. -/
theorem reload_eq :
    (∀ (d : Document) (s : Settings), ofDocument? d = some s →
      ∀ depth, 5 ≤ depth → d.depth ≤ depth →
        reload depth s = some s ∧
        ∀ path method, (reload depth s).map (·.contextFor path method) =
          some (s.contextFor path method)) ∧
    (∀ s : Settings, s.WellFormed →
      ∃ needed, ∀ depth, needed ≤ depth → reload depth s = some (s.mapRules Rule.reloaded)) := by
  constructor
  · intro d s h depth hfive hle
    obtain ⟨k, rfl⟩ := Nat.exists_eq_add_of_le' hfive
    have hread := keeps_of_ofDocument? h
    have hfits {n n' : Nat} (hn : n ≤ n') (r : Rule) : ReadWithin n r → r.toJson.Fits n' := by
      rintro ⟨v, hv, rfl⟩
      rw [Rule.toJson_ofJson]
      exact hv.mono hn
    have hsame (n : Nat) (r : Rule) : ReadWithin n r → r.reloaded = r := by
      rintro ⟨v, -, rfl⟩
      exact Rule.reloaded_ofJson v
    have hreload : reload (k + 5) s = some s := by
      rw [reload, ofDocument?_toJson (hread.mono (hfits (by omega)) (hfits (by omega))),
        hread.mapRules_eq_self (hsame _) (hsame _)]
    exact ⟨hreload, fun path method => by rw [hreload]; rfl⟩
  · intro s h
    obtain ⟨k, hkeeps⟩ := h.exists_keeps
    refine ⟨k + 5, fun depth hle => ?_⟩
    obtain ⟨n, rfl⟩ := Nat.exists_eq_add_of_le' (Nat.le_of_add_left_le hle)
    exact ofDocument?_toJson (hkeeps.mono (fun r hr => hr.mono (by omega))
      fun r hr => hr.mono (by omega))

/-- A saved configuration with global rules and with overrides, some of them empty. -/
def visitsJson : Json :=
  .object [("specPath", .string "visits.yaml"),
    ("fakerMap", .object [("Id$", .string "faker.string.uuid()"),
      ("guest", .object [("name", .string "Ada")])]),
    ("endpoints", .object [("/visits", .object [("post", .object []),
      ("get", .object [("dynamic", .bool true),
        ("fakerMap", .object [("day", .string "Monday")])])])])]

/-- The configuration that it holds. -/
def visits : Settings where
  specPath := "visits.yaml"
  rules := [("Id$", .generator "faker.string.uuid()"),
    ("guest", .literal (.object [("name", .string "Ada")]))]
  endpoints := [("/visits", [(.post, {}),
    (.get, { dynamic := some true, rules := [("day", .literal (.string "Monday"))] })])]

/-- Rules that a program has added: two producers, a generator and a text. -/
def added : Settings where
  rules := [("at", .custom ⟨"() => Date.now()", .error "no clock"⟩),
    ("id", .custom ⟨"faker.string.uuid", .ok .null⟩), ("roll", .generator "dice()")]
  endpoints := [("/visits", [(.get, { rules := [("day", .literal (.string "faker.day()"))] })])]

theorem wellFormed_added : added.WellFormed where
  rules := by
    refine ⟨by decide, ?_⟩
    simpa [added] using ⟨⟨0, .string _⟩, ⟨0, .string _⟩, ⟨0, .string _⟩⟩
  paths := by decide
  methods := by decide
  own := by
    simp only [added, List.forall_mem_singleton]
    exact ⟨by decide, by simpa using ⟨0, .string _⟩⟩

theorem reload_eq_visits :
    ofJson? visitsJson = some visits ∧ reload jsonDepth visits = some visits ∧
    added.WellFormed ∧
    ∃ needed, ∀ depth, needed ≤ depth → reload depth added = some { added with
      rules := [("at", .literal (.string "() => Date.now()")),
        ("id", .generator "faker.string.uuid"), ("roll", .literal (.string "dice()"))]
      endpoints := [("/visits", [(.get, { rules := [("day", .generator "faker.day()")] })])] } := by
  have hread : ofDocument? (Node.document visitsJson) = some visits := by rfl
  exact ⟨hread, (reload_eq.1 _ visits hread jsonDepth (by decide) (by decide)).1,
    wellFormed_added, reload_eq.2 added wellFormed_added⟩

/-- A generator that a program has added and that no document holds. -/
def luck : Settings where
  rules := [("luck", .generator "Math.random()")]

/-- A generator whose text does not start like a call is neither a producer nor a text, and still is
not what it was when it is reloaded: it has become a text. -/
theorem reload_luck_ne :
    luck.WellFormed ∧
    reload jsonDepth luck =
      some { luck with rules := [("luck", .literal (.string "Math.random()"))] } ∧
    reload jsonDepth luck ≠ some luck := by
  have hreload : reload jsonDepth luck =
      some { luck with rules := [("luck", .literal (.string "Math.random()"))] } := by
    rfl
  refine ⟨⟨⟨by decide, ?_⟩, List.nodup_nil, by simp [luck], by simp [luck]⟩, hreload, ?_⟩
  · simpa [luck] using ⟨0, .string _⟩
  · rw [hreload]
    simp [luck]

end Settings

end MockApi
