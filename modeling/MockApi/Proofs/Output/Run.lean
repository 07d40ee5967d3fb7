import MockApi.Command.Generate
import MockApi.Proofs.Spec.Characters
import MockApi.Proofs.Spec.Endpoints

/-! # The endpoints of a run

Resolving and mocking keep the endpoints that were selected, in their order. So a run over a
document mocks no endpoint twice.
-/

namespace MockApi

/-- The method and the path of the endpoint. -/
def EndpointMock.key (m : EndpointMock) : Method × String := (m.endpoint.method, m.endpoint.path)

theorem find?_eq_some_of_unique {α : Type} {p : α → Bool} {xs : List α} {x : α} (hx : x ∈ xs)
    (hp : p x = true) (hunique : ∀ y ∈ xs, p y = true → y = x) : xs.find? p = some x := by
  have hsome : (xs.find? p).isSome := List.find?_isSome.mpr ⟨x, hx, hp⟩
  obtain ⟨y, hy⟩ := Option.isSome_iff_exists.mp hsome
  rw [hy, hunique y (List.mem_of_find?_eq_some hy) (List.find?_some hy)]

namespace Reference

theorem value_forEach {α β : Type} (f : α → Resolution β) (xs : List α) :
    (Resolution.forEach f xs).value = xs.map fun x => (f x).value := by
  induction xs with
  | nil => rfl
  | cons x rest ih =>
      rw [Resolution.forEach, List.map_cons, ← ih]
      rfl

theorem map_key_endpoints (components : Components) (es : List Endpoint) :
    ((endpoints components es).value.map fun e => (e.method, e.path)) = es.map Endpoint.key := by
  rw [endpoints, value_forEach, List.map_map]
  rfl

end Reference

namespace Setup

variable {σ : Type} (setup : Setup σ)

theorem map_endpoint_mockEndpoints (es : List ResolvedEndpoint) (p : Progress σ) :
    (setup.mockEndpoints es p).1.map EndpointMock.endpoint = es := by
  induction es generalizing p with
  | nil => rfl
  | cons e rest ih =>
      rw [mockEndpoints, List.map_cons, ih]
      rfl

theorem map_endpoint_run (es : List ResolvedEndpoint) (state : σ) :
    (setup.run es state).1.endpoints.map EndpointMock.endpoint = es :=
  setup.map_endpoint_mockEndpoints es _

end Setup

/-- One generation: the document, which of its endpoints are taken, and the circumstances. -/
structure Generation where
  document : ApiDocument
  selection : Spec.Selection
  settings : Settings
  now : Sample.Moment

namespace Generation

/-- The selected endpoints. -/
def endpoints (g : Generation) : List Endpoint := g.selection.apply g.document.endpoints

/-- The run over the selected endpoints. -/
def run (g : Generation) : Run :=
  (Run.at g.now g.settings (Reference.endpoints g.document.components g.endpoints).value).1

/-- The document was read from a text. -/
def IsRead (g : Generation) : Prop := ∃ format text, Spec.parse format text = .ok g.document

theorem map_key_run (g : Generation) :
    g.run.endpoints.map EndpointMock.key = g.endpoints.map Endpoint.key := by
  have hendpoints := Setup.map_endpoint_run
    ⟨g.settings, Pattern.searchEngine, g.now.date.year, Sample.generator g.now⟩
    (Reference.endpoints g.document.components g.endpoints).value ⟨Capability.defaultSeed⟩
  have hkeys := congrArg (List.map fun e : ResolvedEndpoint => (e.method, e.path)) hendpoints
  rw [List.map_map, Reference.map_key_endpoints] at hkeys
  exact hkeys

/-- What is made of method and path alone is the same before and after the run. -/
theorem map_key_run_comp {β : Type} (g : Generation) (f : Method × String → β) :
    (g.run.endpoints.map fun m => f m.key) = g.endpoints.map fun e => f e.key := by
  have hkeys := congrArg (List.map f) g.map_key_run
  rw [List.map_map, List.map_map] at hkeys
  exact hkeys

theorem nodup_keys_run {g : Generation} (h : g.IsRead) :
    (g.run.endpoints.map EndpointMock.key).Nodup := by
  obtain ⟨format, text, hparse⟩ := h
  rw [map_key_run]
  exact Spec.nodup_keys_apply (Spec.nodup_keys_of_parse hparse)

end Generation

/-- The text of a document with three endpoints on two paths. -/
def ordersText : String :=
  String.ofList ("\x7b\"openapi\":\"3.0.0\",\"info\":".toList ++
    "\x7b\"title\":\"Shop\",\"version\":\"1\"\x7d,".toList ++
    "\"paths\":\x7b\"/orders\":\x7b\"get\":\x7b\x7d,\"post\":\x7b\x7d\x7d,".toList ++
    "\"/users\":\x7b\"get\":\x7b\x7d\x7d\x7d\x7d".toList)

theorem parse_ordersText :
    ∃ d, Spec.parse (some .json) ordersText = .ok d ∧
      d.endpoints.map Endpoint.key = [(.get, "/orders"), (.post, "/orders"), (.get, "/users")] := by
  refine Spec.exists_of_parseCharacters ?_
  decide +kernel

end MockApi
