import Mathlib.Data.List.Nodup
import MockApi.Proofs.Node.Reader
import MockApi.Schema.Encode

/-! # Reading what was written

A JSON value that is written down and read again is the same value, as long as it nests no deeper
than its reader permits, repeats no key and holds no double that JSON cannot write. What a reader
gives is always such a value. So a map or a record that was written from parts is read back when
its parts are.
-/

namespace MockApi

/-- A value that nests no deeper than a bound, has every key of an object once and only finite
doubles. -/
inductive Json.Fits : Nat → Json → Prop
  | null {depth : Nat} : Fits depth .null
  | bool {depth : Nat} (b : Bool) : Fits depth (.bool b)
  | integer {depth : Nat} (i : Int) : Fits depth (.number (.integer i))
  | double {depth : Nat} {x : Float} (hx : x.isFinite = true) : Fits depth (.number (.double x))
  | string {depth : Nat} (s : String) : Fits depth (.string s)
  | array {depth : Nat} {items : List Json} (h : ∀ v ∈ items, Fits depth v) :
      Fits (depth + 1) (.array items)
  | object {depth : Nat} {members : Entries Json} (hkeys : members.keys.Nodup)
      (h : ∀ e ∈ members, Fits depth e.2) : Fits (depth + 1) (.object members)

namespace Json

theorem Fits.mono {depth depth' : Nat} {v : Json} (h : v.Fits depth) (hle : depth ≤ depth') :
    v.Fits depth' := by
  induction h generalizing depth' with
  | null => exact .null
  | bool b => exact .bool b
  | integer i => exact .integer i
  | double hx => exact .double hx
  | string s => exact .string s
  | array _ ih =>
      obtain ⟨below, rfl⟩ := Nat.exists_eq_add_one.mpr (Nat.zero_lt_of_lt hle)
      exact .array fun v hv => ih v hv (Nat.le_of_succ_le_succ hle)
  | object hkeys _ ih =>
      obtain ⟨below, rfl⟩ := Nat.exists_eq_add_one.mpr (Nat.zero_lt_of_lt hle)
      exact .object hkeys fun e he => ih e he (Nat.le_of_succ_le_succ hle)

theorem fits_ofFloat (depth : Nat) (x : Float) : (ofFloat x).Fits depth := by
  unfold ofFloat
  split
  next hx => exact .double hx
  next => exact .null

theorem find?_optionalMember_append {α : Type} (name : String) (encode : α → Json)
    (value : Option α) (rest : Entries Json) (key : String) :
    Entries.find? (optionalMember name encode value ++ rest) key =
      if key = name then (value.map encode).or (rest.find? key) else rest.find? key := by
  cases value with
  | none => simp [optionalMember]
  | some x =>
      rw [optionalMember, List.singleton_append, Entries.find?_cons]
      split <;> rfl

theorem find?_optionalMember {α : Type} (name : String) (encode : α → Json) (value : Option α)
    (key : String) :
    Entries.find? (optionalMember name encode value) key =
      if key = name then value.map encode else none := by
  simpa [Entries.find?] using find?_optionalMember_append name encode value [] key

theorem keys_optionalMember_append_sublist {α : Type} {name : String} {encode : α → Json}
    {value : Option α} {rest : Entries Json} {names : List String}
    (h : rest.keys.Sublist names) :
    (Entries.keys (optionalMember name encode value ++ rest)).Sublist (name :: names) := by
  cases value with
  | none => exact h.cons name
  | some x => exact h.cons_cons name

theorem keys_optionalMember_sublist {α : Type} (name : String) (encode : α → Json)
    (value : Option α) : (Entries.keys (optionalMember name encode value)).Sublist [name] := by
  cases value with
  | none => exact List.nil_sublist _
  | some x => exact List.Sublist.refl _

end Json

namespace Node

variable {anchors : Anchors}

/-! ## Values -/

theorem fits_of_json? {depth : Nat} {t : Node} {v : Json} (h : json? anchors depth t = some v) :
    v.Fits depth := by
  induction depth using Nat.strongRecOn generalizing t v with
  | ind depth ih =>
      unfold json? at h
      split at h
      next => exact Option.some.inj h ▸ .null
      next => exact Option.some.inj h ▸ .bool _
      next => exact Option.some.inj h ▸ .integer _
      next => exact Option.some.inj h ▸ Json.fits_ofFloat _ _
      next => exact Option.some.inj h ▸ .string _
      next =>
        -- a scalar gives what it resolves to
        split at h
        next => exact Option.some.inj h ▸ .null
        next => exact Option.some.inj h ▸ .bool _
        next => exact Option.some.inj h ▸ .integer _
        next => exact Option.some.inj h ▸ Json.fits_ofFloat _ _
        next => exact Option.some.inj h ▸ .string _
        next => cases h
      next depth _ =>
        have h := (Option.ite_none_left_eq_some.mp h).2
        obtain ⟨items, hitems, rfl⟩ := Option.map_eq_some_iff.mp h
        refine .array fun v hv => ?_
        obtain ⟨u, -, hu⟩ := exists_of_mapM hitems v hv
        exact ih depth (Nat.lt_succ_self depth) hu
      next depth _ =>
        have h := (Option.ite_none_left_eq_some.mp h).2
        obtain ⟨members, hmembers, rfl⟩ := Option.map_eq_some_iff.mp h
        refine .object (Entries.nodup_keys_ofList members) fun e he => ?_
        obtain ⟨u, hu⟩ := exists_of_mapM_pairs hmembers e he
        exact ih depth (Nat.lt_succ_self depth) hu
      next => cases h

theorem ofItems_eq_map (items : List Json) : ofItems items = items.map ofJson := by
  induction items with
  | nil => rfl
  | cons v rest ih => rw [ofItems, ih, List.map_cons]

theorem ofPairs_eq_map (members : List (String × Json)) :
    ofPairs members = members.map fun e => (.text e.1, ofJson e.2) := by
  induction members with
  | nil => rfl
  | cons e rest ih => rw [ofPairs, ih, List.map_cons]

theorem mapM_map_eq_some {α β γ : Type} {read : β → Option γ} {encode : α → β} (made : α → γ)
    {xs : List α} (h : ∀ x ∈ xs, read (encode x) = some (made x)) :
    (xs.map encode).mapM read = some (xs.map made) := by
  induction xs with
  | nil => rfl
  | cons x rest ih =>
      rw [List.map_cons, List.mapM_cons, h x List.mem_cons_self,
        ih fun y hy => h y (List.mem_cons_of_mem _ hy)]
      rfl

theorem mapM_ofPairs (anchors : Anchors) {α β : Type} {read : Node → Option β}
    (encode : α → Json) (made : α → β) {xs : Entries α}
    (h : ∀ x ∈ xs, read (ofJson (encode x.2)) = some (made x.2)) :
    ((ofPairs (xs.mapValues encode)).mapM fun (e : Node × Node) => do
      return (← text? anchors e.1, ← read e.2)) = some (xs.mapValues made) := by
  rw [ofPairs_eq_map, Entries.mapValues, List.map_map]
  refine mapM_map_eq_some (fun x : String × α => (x.1, made x.2)) fun x hx => ?_
  simp [text?, view, h x hx]

/-- What fits the nesting that a reader permits is read as it was written. -/
theorem json?_ofJson {depth : Nat} {v : Json} (h : v.Fits depth) :
    json? anchors depth (ofJson v) = some v := by
  induction h with
  | null | bool | integer | string => unfold json?; rfl
  | double hx =>
      unfold json?
      exact congrArg some (if_pos hx)
  | array _ ih =>
      have hitems := mapM_map_eq_some id ih
      rw [List.map_id, ← ofItems_eq_map] at hitems
      unfold json?
      exact congrArg (Option.map Json.array) hitems
  | @object depth members hkeys _ ih =>
      have hid : Entries.mapValues id members = members := List.map_id members
      have hmembers := mapM_ofPairs anchors id id ih
      rw [hid] at hmembers
      unfold json?
      refine (congrArg (Option.map Json.ofMembers) hmembers).trans ?_
      rw [Option.map_some, Json.ofMembers, Entries.ofList_of_nodup hkeys]

/-- Entries are read back when each of their values is. -/
theorem entries?_ofJson {α β : Type} {depth : Nat} {read : Nat → Node → Option β}
    {encode : α → Json} {made : α → β} {xs : Entries α} (hkeys : xs.keys.Nodup)
    (h : ∀ x ∈ xs, read depth (ofJson (encode x.2)) = some (made x.2)) :
    entries? anchors (depth + 1) read (ofJson (.object (xs.mapValues encode))) =
      some (xs.mapValues made) := by
  have hmade : (Entries.keys (xs.mapValues made)).Nodup := by
    rwa [Entries.keys_mapValues]
  refine (congrArg (Option.map Entries.ofList) (mapM_ofPairs anchors encode made h)).trans ?_
  rw [Option.map_some, Entries.ofList_of_nodup hmade]

/-! ## Records -/

theorem maybe?_map {α : Type} {read : Node → Option α} (encode : α → Json)
    (habsent : ∀ x, isAbsent anchors (ofJson (encode x)) = false)
    (hread : ∀ x, read (ofJson (encode x)) = some x) (value : Option α) :
    maybe? anchors read ((value.map encode).map ofJson) = some value := by
  cases value with
  | none => rfl
  | some x => simp [maybe?, defaulted?, optional?, habsent, hread]

/-- What is found of the fields among members. -/
def foundIn (fields : List Field) (members : Entries Json) : List (Option Node) :=
  fields.map fun f => (members.find? f.name).map ofJson

theorem foundIn_of_unknown {fields : List Field} {members : Entries Json} {key : String} (v : Json)
    (h : ∀ f ∈ fields, f.name ≠ key) :
    foundIn fields (members ++ [(key, v)]) = foundIn fields members := by
  refine List.map_congr_left fun f hf => ?_
  rw [Entries.find?_append, Entries.find?_cons, if_neg (h f hf)]
  cases Entries.find? members f.name <;> rfl

theorem foundIn_of_known {fields : List Field} (hnames : (fields.map Field.name).Nodup)
    {members : Entries Json} {i : Nat} (hi : i < fields.length) (v : Json)
    (hnew : fields[i].name ∉ members.keys) :
    foundIn fields (members ++ [(fields[i].name, v)]) =
      (foundIn fields members).set i (some (ofJson v)) := by
  refine List.ext_getElem (by simp [foundIn]) fun j hj _ => ?_
  have hj : j < fields.length := by simpa [foundIn] using hj
  simp only [foundIn, List.getElem_map, List.getElem_set, Entries.find?_append, Entries.find?_cons]
  by_cases hij : i = j
  · subst hij
    simp [Entries.find?_eq_none_iff.mpr hnew]
  · -- two fields do not share a name
    have hne : fields[j].name ≠ fields[i].name := by
      intro hname
      have hsame : fields[j] = fields[i] :=
        List.inj_on_of_nodup_map hnames (List.getElem_mem hj) (List.getElem_mem hi) hname
      exact hij ((hnames.of_map _).getElem_inj_iff.mp hsame).symm
    rw [if_neg hij, if_neg hne]
    cases Entries.find? members fields[j].name <;> rfl

/-- Members are put where their fields are, one after another. -/
theorem collect_ofPairs {fields : List Field} (hnames : (fields.map Field.name).Nodup)
    (done rest : Entries Json) (hkeys : (done ++ rest).keys.Nodup) :
    collect anchors fields (ofPairs rest) (foundIn fields done) =
      some (foundIn fields (done ++ rest)) := by
  induction rest generalizing done with
  | nil => rw [ofPairs, collect, List.append_nil]
  | cons e rest ih =>
      rcases e with ⟨key, v⟩
      have hnew := Entries.notMem_keys_of_nodup_append hkeys
      have hnext := ih (done ++ [(key, v)]) (by simpa using hkeys)
      rw [List.append_assoc, List.singleton_append] at hnext
      have hfield : fieldOf? anchors fields (.text key) =
          some (fields.findIdx? fun f => f.name == key) := rfl
      rw [ofPairs, collect, hfield]
      cases hidx : fields.findIdx? fun f => f.name == key with
      | none =>
          rw [foundIn_of_unknown v fun f hf => by
            simpa using List.findIdx?_eq_none_iff.mp hidx f hf] at hnext
          exact hnext
      | some i =>
          obtain ⟨hi, hname, -⟩ := List.findIdx?_eq_some_iff_getElem.mp hidx
          obtain rfl := beq_iff_eq.mp hname
          rw [foundIn_of_known hnames hi v hnew] at hnext
          have hempty : ((foundIn fields done).getD i none).isSome = false := by
            simp [foundIn, hi, Entries.find?_eq_none_iff.mpr hnew]
          simp only [hempty]
          exact hnext

theorem record?_ofJson {fields : List Field} (hnames : (fields.map Field.name).Nodup)
    {members : Entries Json} (hkeys : members.keys.Nodup) (depth : Nat) :
    record? anchors fields (depth + 1) (ofJson (.object members)) =
      some (depth, foundIn fields members) := by
  -- nothing is found before the first member
  have hcollect : collect anchors fields (ofPairs members) (fields.map fun _ => none) =
      some (foundIn fields members) := collect_ofPairs hnames [] members hkeys
  simp only [ofJson, record?, view, hcollect]
  rfl

end Node

end MockApi
