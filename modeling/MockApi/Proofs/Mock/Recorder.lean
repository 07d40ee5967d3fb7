import MockApi.Output.Run
import MockApi.Proofs.Entries
import MockApi.Proofs.Mock.Steps
import MockApi.Proofs.Spec.Method

/-! # Recording mismatches on the way

Mismatches can be recorded while a schema is compiled: the record goes from node to node, and each
node adds its own mismatch before the nodes below it are compiled. Whatever the record held before,
this gives the same expression and adds the same mismatches to it, those that compiling collects.
They are all filed under the endpoint that is compiled for, after what was there.
-/

namespace MockApi

theorem endpointKey_inj {m m' : Method} {path path' : String} :
    endpointKey m path = endpointKey m' path' ↔ m = m' ∧ path = path' := by
  have htoList : ∀ (m : Method) (path : String),
      (endpointKey m path).toList = m.lower.toList ++ '-' :: path.toList := by
    simp [endpointKey]
  rw [← String.toList_inj, htoList, htoList, Method.lower_dash_inj, String.toList_inj]

/-! ## What recording changes -/

namespace Mismatches

variable {more : List Mismatch} {endpoint : String}

theorem pushAll_append (before : Mismatches) (first second : List Mismatch) :
    before.pushAll (first ++ second) = (before.pushAll first).pushAll second :=
  List.foldl_append

/-- Mismatches of one endpoint are added to what is filed under it. -/
theorem byEndpoint_pushAll (before : Mismatches) (h : ∀ m ∈ more, m.endpoint = endpoint)
    (hmore : more ≠ []) :
    (before.pushAll more).byEndpoint =
      before.byEndpoint.alter endpoint fun old => old.getD [] ++ more := by
  induction more generalizing before with
  | nil => exact absurd rfl hmore
  | cons m rest ih =>
      obtain ⟨rfl, hrest⟩ := List.forall_mem_cons.mp h
      have hpush : before.pushAll (m :: rest) = (before.push m).pushAll rest := rfl
      rw [hpush]
      cases rest with
      | nil => rfl
      | cons m' rest =>
          rw [ih _ hrest (by simp), push, Entries.alter_alter]
          simp

/-- One record comes from another by filing mismatches under an endpoint, after what was there. -/
structure Grows (before after : Mismatches) (method : Method) (path : String)
    (more : List Mismatch) : Prop where
  own : (after.get? (endpointKey method path)).getD [] =
    (before.get? (endpointKey method path)).getD [] ++ more
  others : ∀ method' path', ¬(method' = method ∧ path' = path) →
    after.get? (endpointKey method' path') = before.get? (endpointKey method' path')
  /-- Endpoints stay in order, and one that is new comes last. -/
  keys : after.byEndpoint.keys =
    if more = [] ∨ endpointKey method path ∈ before.byEndpoint.keys then before.byEndpoint.keys
    else before.byEndpoint.keys ++ [endpointKey method path]

theorem grows_pushAll {method : Method} {path : String}
    (h : ∀ m ∈ more, m.method = method ∧ m.path = path) (before : Mismatches) :
    before.Grows (before.pushAll more) method path more := by
  by_cases hmore : more = []
  · subst hmore
    exact ⟨(List.append_nil _).symm, fun _ _ _ => rfl, (if_pos (.inl rfl)).symm⟩
  · have hendpoint : ∀ m ∈ more, m.endpoint = endpointKey method path := fun m hm => by
      rw [Mismatch.endpoint, (h m hm).1, (h m hm).2]
    have hfiled := before.byEndpoint_pushAll hendpoint hmore
    refine ⟨?_, fun method' path' hother => ?_, ?_⟩
    · rw [get?, hfiled, Entries.find?_alter, if_pos rfl, Option.getD_some]
      rfl
    · have hkey : endpointKey method' path' ≠ endpointKey method path :=
        fun heq => hother (endpointKey_inj.mp heq)
      rw [get?, hfiled, Entries.find?_alter, if_neg hkey]
      rfl
    · rw [hfiled, Entries.keys_alter]
      simp only [hmore, false_or]

end Mismatches

/-! ## Programs that record -/

/-- A program has a result and records mismatches, whatever was recorded before. -/
def Records {α : Type} (program : StateM Mismatches α) (result : α) (more : List Mismatch) : Prop :=
  ∀ before, program.run before = (result, before.pushAll more)

namespace Records

variable {α β : Type}

theorem pure (x : α) : Records (Pure.pure x) x [] := fun _ => rfl

theorem modify (more : List Mismatch) :
    Records (modify fun before => before.pushAll more) PUnit.unit more := fun _ => rfl

theorem bind {program : StateM Mismatches α} {next : α → StateM Mismatches β} {x : α} {y : β}
    {first second : List Mismatch} (hprogram : Records program x first)
    (hnext : Records (next x) y second) : Records (program >>= next) y (first ++ second) := by
  intro before
  rw [StateT.run_bind, hprogram before, Mismatches.pushAll_append]
  exact hnext _

theorem map {program : StateM Mismatches α} {x : α} {more : List Mismatch} (f : α → β)
    (h : Records program x more) : Records (f <$> program) (f x) more := by
  intro before
  rw [StateT.run_map, h before]
  rfl

theorem mapM {program : α → StateM Mismatches β} {result : α → β} {more : α → List Mismatch}
    {xs : List α} (h : ∀ x ∈ xs, Records (program x) (result x) (more x)) :
    Records (xs.mapM program) (xs.map result) (xs.flatMap more) := by
  induction xs with
  | nil => exact .pure []
  | cons x rest ih =>
      obtain ⟨hx, hrest⟩ := List.forall_mem_cons.mp h
      rw [List.mapM_cons, List.map_cons, List.flatMap_cons, ← List.append_nil (rest.flatMap more)]
      exact .bind hx (.bind (ih hrest) (.pure _))

end Records

namespace Compiler

open Schema

/-! ## Compiling with a record -/

namespace Plan

/-- Compiles the description of undeclared properties for their entry. -/
def performExtra (below : Schema → StateM Mismatches Expression) :
    Option (Additional Schema) → StateM Mismatches (List (EntryKey Expression × Expression))
  | some (.schema s) => (fun value => [(.generated (.call .words), value)]) <$> below s
  | some (.flag true) => return [openEntry]
  | some (.flag false) | none => return []

/-- Compiles the nodes that are left, one after another, and puts the expression together. -/
def perform (arrayLength : Nat) (site : Site)
    (below : Schema → Site → StateM Mismatches Expression) : Plan → StateM Mismatches Expression
  | settled e _ => return e
  | flattened s => below s site
  | choice branches =>
    .choice <$> branches.mapM fun s => below s ⟨none, site.key, site.insideArray⟩
  | object properties additional => do
    let declared ← properties.mapM fun e =>
      (.fixed e.1, ·) <$> below e.2 ⟨none, some e.1, site.insideArray⟩
    let extra ← performExtra (fun s => below s ⟨none, none, site.insideArray⟩) additional
    return .object (declared ++ extra)
  | copies (some s) => .copies arrayLength <$> below s ⟨none, site.key, true⟩
  | copies none => return .copies arrayLength .null

end Plan

/-- Compiles a node and records the mismatches on the way. -/
def compileNodeInto (c : Compiler) (s : Schema) (site : Site) : StateM Mismatches Expression := do
  modify fun before => before.pushAll (c.noticed s site)
  (c.plan s site).perform c.context.arrayLength site fun t site' =>
    if _ : t.weight < s.weight then c.compileNodeInto t site' else return .null
termination_by s.weight

/-- Compiles a schema and records the mismatches on the way; without a schema there are none. -/
def compileInto (c : Compiler) : Option Schema → Site → StateM Mismatches Expression
  | none, _ => return .null
  | some s, site => c.compileNodeInto s site

namespace Plan

theorem records_performExtra {below : Schema → StateM Mismatches Expression}
    {result : Schema → Expression} {more : Schema → List Mismatch}
    {additional : Option (Additional Schema)}
    (h : ∀ s ∈ described additional, Records (below s) (result s) (more s)) :
    Records (performExtra below additional) (extra result additional)
      ((described additional).flatMap more) := by
  match additional with
  | some (.schema s) =>
      rw [described, List.flatMap_singleton]
      exact .map _ (h s List.mem_cons_self)
  | some (.flag true) | some (.flag false) | none => exact .pure _

theorem records_perform {arrayLength : Nat} {site : Site} {plan : Plan}
    {below : Schema → Site → StateM Mismatches Expression} (result : Schema → Site → Expression)
    (more : Schema → Site → List Mismatch)
    (h : ∀ call ∈ plan.calls site,
      Records (below call.1 call.2) (result call.1 call.2) (more call.1 call.2)) :
    Records (plan.perform arrayLength site below) (plan.expression arrayLength site result)
      ((plan.calls site).flatMap fun call => more call.1 call.2) := by
  cases plan with
  | settled e ws => exact .pure e
  | flattened s =>
      rw [calls, List.flatMap_singleton]
      exact h _ List.mem_cons_self
  | choice branches =>
      rw [calls, List.forall_mem_map] at h
      rw [calls, List.flatMap_map]
      exact .map _ (.mapM h)
  | object properties additional =>
      rw [calls, List.forall_mem_append, List.forall_mem_map, List.forall_mem_map] at h
      obtain ⟨hproperties, hadditional⟩ := h
      rw [calls, List.flatMap_append, List.flatMap_map, List.flatMap_map,
        ← List.append_nil (List.flatMap _ (described additional))]
      refine .bind (.mapM fun e he => .map _ (hproperties e he)) ?_
      exact .bind (records_performExtra hadditional) (.pure _)
  | copies items =>
      rw [calls, List.forall_mem_map] at h
      cases items with
      | none => exact .pure _
      | some s =>
          have hs := h s (by simp)
          rw [calls, Option.toList_some, List.map_singleton, List.flatMap_singleton]
          exact .map _ hs

end Plan

theorem records_compileNodeInto (c : Compiler) (s : Schema) (site : Site) :
    Records (c.compileNodeInto s site) (c.compile (some s) site).expression
      (c.compile (some s) site).mismatches := by
  induction s, site using c.callInduction with
  | step s site ih =>
      rw [compileNodeInto, expression_compile, mismatches_compile]
      refine .bind (.modify _) (Plan.records_perform
        (fun t site => (c.compile (some t) site).expression)
        (fun t site => (c.compile (some t) site).mismatches) fun call hcall => ?_)
      rw [dif_pos (weight_lt_of_mem_calls hcall)]
      exact ih call hcall

/-- What recording on the way gives and adds is what compiling gives. -/
theorem records_compileInto (c : Compiler) (schema : Option Schema) (site : Site) :
    Records (c.compileInto schema site) (c.compile schema site).expression
      (c.compile schema site).mismatches := by
  cases schema with
  | none => exact .pure _
  | some s => exact c.records_compileNodeInto s site

/-- Compiles a response body and records the mismatches on the way. -/
def compileResponseInto (c : Compiler) (body : Option ResolvedMedia) :
    StateM Mismatches Expression :=
  c.compileInto (body.map ResolvedMedia.schema)
    ⟨body.bind fun m => m.exampleObject.bind ResolvedExample.value?, none, false⟩

/-- A run over responses compiles each of them with the record of those before it. -/
theorem compileResponseInto_eq_mockResponse {σ : Type} (setup : Setup σ) (c : Compiler)
    (r : ResolvedResponse) (p : Setup.Progress σ) :
    (c.compileResponseInto r.body?).run p.mismatches =
      ((setup.mockResponse c r p).1.expression, (setup.mockResponse c r p).2.mismatches) := by
  have hcompiled : c.compileResponse r.body? = c.compile (r.body?.map ResolvedMedia.schema)
      ⟨r.body?.bind fun m => m.exampleObject.bind ResolvedExample.value?, none, false⟩ := by
    cases r.body? <;> rfl
  rw [compileResponseInto, records_compileInto c, ← hcompiled, Setup.mockResponse]
  split <;> rfl

/-! ## What is recorded -/

theorem own_of_mem_noticed {c : Compiler} {s : Schema} {site : Site} {m : Mismatch}
    (h : m ∈ c.noticed s site) : m.method = c.context.method ∧ m.path = c.context.path := by
  unfold noticed mismatch? Schema.mismatch? at h
  split at h
  next => cases h
  next =>
    split at h
    next =>
      obtain ⟨type, -, h⟩ := Option.bind_eq_some_iff.mp (Option.mem_toList.mp h)
      obtain ⟨value, -, h⟩ := Option.bind_eq_some_iff.mp h
      split at h
      next => cases h
      next =>
        obtain rfl := Option.some.inj h
        exact ⟨rfl, rfl⟩
    next => cases h

/-- Recording on the way gives one expression and adds one list of mismatches, whatever was recorded
before. They are all of the endpoint that is compiled for and follow what was filed under it, and
what is filed under other endpoints stays. Without examples there are none. -/
theorem compileInto_grows (c : Compiler) (schema : Option Schema) (site : Site) :
    let compiled := c.compile schema site
    (∀ m ∈ compiled.mismatches, m.method = c.context.method ∧ m.path = c.context.path) ∧
    (c.context.useExample = false → compiled.mismatches = []) ∧
    ∀ before : Mismatches,
      let after := before.pushAll compiled.mismatches
      (c.compileInto schema site).run before = (compiled.expression, after) ∧
      before.Grows after c.context.method c.context.path compiled.mismatches := by
  intro compiled
  have hown : ∀ m ∈ compiled.mismatches,
      m.method = c.context.method ∧ m.path = c.context.path := by
    cases schema with
    | none => exact fun m hm => by cases hm
    | some s => exact forall_mem_mismatches fun _ _ _ => own_of_mem_noticed
  refine ⟨hown, fun hexample => ?_, fun before => ?_⟩
  · cases schema with
    | none => rfl
    | some s => exact mismatches_eq_nil hexample
  · exact ⟨records_compileInto c schema site before, Mismatches.grows_pushAll hown before⟩

end Compiler

end MockApi
