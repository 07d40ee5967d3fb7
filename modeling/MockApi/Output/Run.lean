import MockApi.Mock.Compile
import MockApi.Mock.Evaluate

/-! # A run over endpoints

Every response of every endpoint is compiled and, unless the endpoint is to stay dynamic, evaluated.
One generator serves the whole run. A response without a body is null.
-/

namespace MockApi

/-- The mock of one response code. -/
structure ResponseMock where
  code : String
  expression : Expression
  evaluation : Evaluation

/-- The mocks of one endpoint. -/
structure EndpointMock where
  endpoint : ResolvedEndpoint
  responses : List ResponseMock

/-- The outcome of a run. -/
structure Run where
  endpoints : List EndpointMock := []
  mismatches : Mismatches := {}

/-- The nullable paths of all bodies, each once. -/
def EndpointMock.nullablePaths (m : EndpointMock) : List String :=
  (m.endpoint.responses.flatMap fun r =>
    (r.body?.map ResolvedMedia.nullablePaths).getD []).eraseDups

/-- True when some response needs the faker library. -/
def EndpointMock.usesFaker (m : EndpointMock) : Bool :=
  m.responses.any fun r => r.evaluation.usesFaker

/-- What a run needs besides the endpoints. -/
structure Setup (σ : Type) where
  settings : Settings
  engine : PatternEngine
  /-- The current year. -/
  year : Nat
  generator : Generator σ

namespace Setup

variable {σ : Type}

/-- What a run carries from one response to the next. -/
structure Progress (σ : Type) where
  state : σ
  mismatches : Mismatches := {}
  log : List LogLine := []

/-- The compiler of an endpoint. -/
def compiler (setup : Setup σ) (path : String) (method : Method) : Compiler :=
  ⟨setup.settings.contextFor path method, setup.engine, setup.year⟩

/-- The mock of one response. -/
def mockResponse (setup : Setup σ) (c : Compiler) (r : ResolvedResponse) (p : Progress σ) :
    ResponseMock × Progress σ :=
  let compiled := c.compileResponse r.body?
  let p := { p with
    mismatches := p.mismatches.pushAll compiled.mismatches
    log := p.log ++ compiled.warnings.map PatternWarning.line }
  if c.context.dynamic then
    (⟨r.code, compiled.expression, .dynamic compiled.expression⟩, p)
  else
    let (evaluation, failure, state) := compiled.expression.evaluate setup.generator p.state
    (⟨r.code, compiled.expression, evaluation⟩,
      { p with state := state, log := p.log ++ (failure.map MockError.lines).getD [] })

/-- The mocks of responses in order. -/
def mockResponses (setup : Setup σ) (c : Compiler) :
    List ResolvedResponse → Progress σ → List ResponseMock × Progress σ
  | [], p => ([], p)
  | r :: rest, p =>
    let (mock, p) := setup.mockResponse c r p
    let (mocks, p) := mockResponses setup c rest p
    (mock :: mocks, p)

/-- The mocks of one endpoint. -/
def mockEndpoint (setup : Setup σ) (e : ResolvedEndpoint) (p : Progress σ) :
    EndpointMock × Progress σ :=
  let c := setup.compiler e.path e.method
  let (mocks, p) := setup.mockResponses c e.responses
    { p with log := p.log ++ c.keyWarnings.map PatternWarning.line }
  (⟨e, mocks⟩, p)

/-- The mocks of endpoints in order. -/
def mockEndpoints (setup : Setup σ) :
    List ResolvedEndpoint → Progress σ → List EndpointMock × Progress σ
  | [], p => ([], p)
  | e :: rest, p =>
    let (mock, p) := setup.mockEndpoint e p
    let (mocks, p) := mockEndpoints setup rest p
    (mock :: mocks, p)

/-- Runs over endpoints from a state of the generator. -/
def run (setup : Setup σ) (endpoints : List ResolvedEndpoint) (state : σ) :
    Run × List LogLine × σ :=
  let (mocks, p) := setup.mockEndpoints endpoints { state := state }
  (⟨mocks, p.mismatches⟩, p.log, p.state)

end Setup

end MockApi
