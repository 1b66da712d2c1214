import TemplateServico.Interaction.Phase
import TemplateServico.Routes

/-! One statement for each request.

A request sends at most one statement, and once it has done so it waits for nothing
but the answer.
-/

set_option autoImplicit false

namespace TemplateServico

open Http Interaction Postgres

variable {A B : Type}

def Sent (event : Event serviceInterface) : Prop := ∃ statement, event = ⟨.send statement, .ok ()⟩

def Received (event : Event serviceInterface) : Prop := ∃ statement answer, event = ⟨.receive statement, answer⟩

/-- All that is left is to wait for the answer. -/
def Awaiting (event : Event serviceInterface) (program : ServiceProgram A) : Prop :=
  ∃ (statement : Statement) (answered : Except SqlxError (List User) → A), event = ⟨.send statement, .ok ()⟩ ∧
    program = .call (.receive statement) fun answer => .done (answered answer)

/-- The same under a deadline. -/
def AwaitingTimed (event : Event serviceInterface) (program : ServiceProgram A) : Prop :=
  ∃ (statement : Statement) (expired : A) (answered : Except SqlxError (List User) → A),
    event = ⟨.send statement, .ok ()⟩ ∧ program = .call .deadline fun late =>
      if late then .done expired else .call (.receive statement) fun answer => .done (answered answer)

theorem op_cases (op : ServiceOp) : op = .deadline ∨ (∃ statement, op = .send statement) ∨
    (∃ statement, op = .receive statement) ∨ Handlers.Local op ∧ op ≠ .deadline := by
  cases op <;> simp [Handlers.Local]

def NotReceive (op : ServiceOp) : Prop := ∀ statement, op ≠ .receive statement

/-- Nothing is received before a statement was sent, and nothing else happens after. -/
abbrev SingleStatement (program : ServiceProgram A) : Prop := program.Phased NotReceive Sent Awaiting

theorem Awaiting.map {f : A → B} (event : Event serviceInterface) (program : ServiceProgram A)
    (awaiting : Awaiting event program) : Awaiting event (program.map f) := by
  obtain ⟨statement, answered, sent, same⟩ := awaiting
  exact ⟨statement, fun answer => f (answered answer), sent, same ▸ rfl⟩

theorem SingleStatement.map {f : A → B} {program : ServiceProgram A} (single : SingleStatement program) :
    SingleStatement (program.map f) :=
  Program.phased_map single Awaiting.map

theorem single_of_local {program : ServiceProgram A} (performs : program.Performs Handlers.Local) :
    program.Performs fun op : ServiceOp => NotReceive op ∧ ∀ reply, ¬ Sent ⟨op, reply⟩ := by
  apply performs.mono
  intro op isLocal
  refine ⟨fun statement => (isLocal statement).2, fun reply sent => ?_⟩
  obtain ⟨statement, same⟩ := sent
  exact (isLocal statement).1 (congrArg Sigma.fst same)

theorem SingleStatement.call {op : ServiceOp} {next : op.Reply → ServiceProgram A} (isLocal : Handlers.Local op)
    (rest : ∀ reply, SingleStatement (next reply)) :
    SingleStatement (.call (I := serviceInterface) op next) := by
  refine ⟨fun statement => (isLocal statement).2, fun reply => ⟨fun sent => ?_, fun _ => rest reply⟩⟩
  obtain ⟨statement, same⟩ := sent
  exact absurd (congrArg Sigma.fst same) (isLocal statement).1

namespace Handlers

theorem jwks_local (op : JwksOp String) : Local (.jwks op) := local_of nofun nofun

theorem query_single (statement : Statement) : SingleStatement (query statement) := by
  refine ⟨nofun, fun sent => ?_⟩
  cases sent with
  | error error =>
    refine ⟨?_, fun _ => trivial⟩
    intro ⟨other, same⟩
    cases same
  | ok done => exact ⟨fun _ => ⟨statement, _, rfl, rfl⟩, fun other => absurd ⟨statement, rfl⟩ other⟩

theorem onQuery_single {point : Point} {statement : Statement}
    {answered : Except SqlxError (List User) → AppResult (StatusCode × Json)} :
    SingleStatement (onQuery point statement answered) :=
  .call (local_of nofun nofun) fun _ => (query_single statement).map

theorem createUser_single (payload : CreateUserPayload) : SingleStatement (createUser payload) := by
  refine .call (local_of nofun nofun) fun _ => ?_
  cases checkPayload payload with
  | error error => trivial
  | ok values => exact .call (local_of nofun nofun) fun id => (query_single _).map

theorem postUsers_single (libs : Libraries) (request : Request) : SingleStatement (postUsers libs request) := by
  refine Program.phased_bind (single_of_local (appJson_local libs request)) fun result => ?_
  cases result with
  | error error => trivial
  | ok payload => exact createUser_single payload

theorem getUsersById_single (libs : Libraries) (segment : String) : SingleStatement (getUsersById libs segment) := by
  unfold getUsersById
  cases appPath libs segment with
  | error error => trivial
  | ok id => exact onQuery_single

end Handlers

section Router

variable {libs : Libraries} {state : AppState} {request : Request} {service : Request → ServiceProgram Response}

theorem Route.serve_single (route : Route) : SingleStatement (route.serve libs request) := by
  unfold Route.serve
  cases route.endpoint request.method with
  | none => trivial
  | some endpoint =>
  cases endpoint with
  | documentation => trivial
  | metrics => exact .call (Handlers.local_of nofun nofun) fun _ => trivial
  | healthCheck => exact Handlers.onQuery_single.map
  | listUsers => exact Handlers.onQuery_single.map
  | getUser segment => exact (Handlers.getUsersById_single libs segment).map
  | createUser => exact (Handlers.postUsers_single libs request).map

theorem runNext_single {next : Request → ServiceProgram Response} (inner : SingleStatement (next request)) :
    SingleStatement (runNext next request) :=
  .call (Handlers.local_of nofun nofun) fun _ => inner

theorem jwtAuthMiddleware_single {next : Request → ServiceProgram Response} (inner : SingleStatement (next request)) :
    SingleStatement (jwtAuthMiddleware libs.jwt state request next) := by
  unfold jwtAuthMiddleware
  cases state.jwksCache with
  | none => exact runNext_single inner
  | some cache =>
  dsimp only
  cases extractBearerToken request with
  | none => trivial
  | some token =>
  dsimp only
  cases libs.jwt.decodeHeader token with
  | error reason => trivial
  | ok header =>
  have asks : ((getDecodingKey libs.jwt cache header.kid).inject jwksEmbedding).Performs Handlers.Local :=
    Program.performs_inject (fun op => Handlers.jwks_local op) _
  refine Program.phased_bind (single_of_local asks) fun found => ?_
  cases found with
  | error reason => trivial
  | ok key =>
    refine SingleStatement.call (Handlers.local_of nofun nofun) fun now => ?_
    cases libs.jwt.decode token key (validation state.config header.alg) now with
    | ok claims => exact runNext_single inner
    | error reason => trivial

theorem routes_single : SingleStatement (routes libs state request) := by
  unfold routes
  cases Route.find request.uri.path with
  | none => trivial
  | some route =>
    dsimp only
    split
    · exact jwtAuthMiddleware_single route.serve_single
    · exact route.serve_single

theorem createRouter_single (built : createRouter libs state = some service) :
    (service request).Phased NotReceive Sent AwaitingTimed := by
  obtain ⟨cors, _, same⟩ := Option.map_eq_some_iff.mp built
  rw [← same]
  have layered : SingleStatement (securityHeadersMiddleware (cors.layer (routes libs state)) request) := by
    apply SingleStatement.map
    unfold CorsLayer.layer
    split
    · trivial
    · exact routes_single.map
  have timed : (timeoutLayer (securityHeadersMiddleware (cors.layer (routes libs state))) request).Phased
      NotReceive Sent AwaitingTimed := by
    refine Program.phased_deadline layered nofun nofun ?_
    intro event program ⟨statement, answered, sent, same⟩
    refine ⟨statement, requestTimeout, answered, sent, ?_⟩
    rw [same]
    rfl
  refine Program.phased_map timed fun event program ⟨statement, expired, answered, sent, same⟩ => ?_
  refine ⟨statement, finish request expired, fun answer => finish request (answered answer), sent, ?_⟩
  rw [same]
  unfold Program.map
  rw [Program.call_bind]
  refine congrArg (Program.call (I := serviceInterface) ServiceOp.deadline) (funext fun late => ?_)
  cases late <;> rfl

/-- A statement is under way. -/
structure Unanswered (history : List (Event serviceInterface)) : Prop where
  sent : ∃ event ∈ history, Sent event
  unreceived : ∀ event ∈ history, ¬ Received event
  onTime : ¬ TimedOut history

/-- What is next is the answer to the statement, or the end of the time, and either is the last thing. -/
def Expecting (statement : Statement) (rest : ServiceProgram A) : Prop :=
  (∃ (expired : A) (answered : Except SqlxError (List User) → A), rest = .call .deadline fun late =>
    if late then .done expired else .call (.receive statement) fun answer => .done (answered answer)) ∨
  ∃ answered : Except SqlxError (List User) → A, rest = .call (.receive statement) fun answer => .done (answered answer)

variable {history : List (Event serviceInterface)} {rest : ServiceProgram Response}

theorem onTime_of_waiting (built : createRouter libs state = some service) {op : ServiceOp}
    {next : op.Reply → ServiceProgram Response} (reached : (service request).Reaches history (.call op next)) :
    ¬ TimedOut history := by
  obtain ⟨cors, inner, _, _, outcome⟩ := createRouter_runs built reached
  rcases outcome with ⟨onTime, _⟩ | ⟨_, dropped, _⟩
  · exact onTime
  · cases dropped

theorem awaitingTimed_stages {event : Event serviceInterface} {program : ServiceProgram Response}
    (awaiting : AwaitingTimed event program) (reached : program.Reaches history rest) :
    ∃ statement, event = ⟨.send statement, .ok ()⟩ ∧
      ((∀ event ∈ history, ¬ Received event) ∧ Expecting statement rest ∨
        (TimedOut history ∨ ∃ event ∈ history, Received event) ∧ ∃ response, rest = .done response) := by
  obtain ⟨statement, expired, answered, sent, same⟩ := awaiting
  refine ⟨statement, sent, ?_⟩
  rw [same] at reached
  rcases Program.reaches_call.mp reached with ⟨empty, same⟩ | ⟨late, after, split, reached⟩
  · exact .inl ⟨by simp [empty], .inl ⟨_, _, same⟩⟩
  cases late with
  | true =>
    right
    obtain ⟨_, same⟩ := Program.reaches_done.mp reached
    exact ⟨.inl ⟨true, by simp [split], rfl⟩, _, same⟩
  | false =>
  rcases Program.reaches_call.mp reached with ⟨empty, same⟩ | ⟨answer, later, split', reached⟩
  · left
    refine ⟨?_, .inr ⟨_, same⟩⟩
    rw [split, empty, List.forall_mem_singleton]
    intro ⟨other, answer, same⟩
    cases same
  · right
    obtain ⟨_, same⟩ := Program.reaches_done.mp reached
    exact ⟨.inr ⟨⟨.receive statement, answer⟩, by simp [split, split'], statement, answer, rfl⟩, _, same⟩

/-- Where a request stands with its statement. -/
theorem statement_stages (built : createRouter libs state = some service)
    (reached : (service request).Reaches history rest) :
    ((∀ event ∈ history, ¬ Sent event ∧ ¬ Received event) ∧
      ∀ statement next, rest ≠ .call (.receive statement) next) ∨
    ∃ statement, ⟨.send statement, .ok ()⟩ ∈ history ∧
      (Unanswered history ∧ Expecting statement rest ∨ ¬ Unanswered history ∧ ∃ response, rest = .done response) := by
  rcases reached.phased (createRouter_single built) with ⟨phased, quiet⟩ | ⟨before, event, after, middle, split, quiet, _, awaiting, later⟩
  · left
    constructor
    · intro event member
      obtain ⟨notReceive, notSent⟩ := quiet event member
      refine ⟨notSent, ?_⟩
      intro ⟨statement, answer, same⟩
      exact notReceive statement (congrArg Sigma.fst same)
    · intro statement next same
      rw [same] at phased
      exact phased.1 statement rfl
  right
  obtain ⟨statement, sent, stage⟩ := awaitingTimed_stages awaiting later
  have member : ⟨.send statement, .ok ()⟩ ∈ history := by simp [split, sent]
  refine ⟨statement, member, ?_⟩
  rcases stage with ⟨unreceived, expecting⟩ | ⟨settled, finished⟩
  · left
    refine ⟨⟨⟨_, member, statement, rfl⟩, ?_, ?_⟩, expecting⟩
    · rw [split, List.forall_mem_append, List.forall_mem_cons]
      refine ⟨fun event member => ?_, ?_, unreceived⟩
      · intro ⟨other, answer, same⟩
        exact (quiet event member).1 other (congrArg Sigma.fst same)
      · intro ⟨other, answer, same⟩
        rw [sent] at same
        cases same
    · rcases expecting with ⟨_, _, same⟩ | ⟨_, same⟩
      · exact onTime_of_waiting built (same ▸ reached)
      · exact onTime_of_waiting built (same ▸ reached)
  · refine .inr ⟨fun unanswered => ?_, finished⟩
    have within {event : Event serviceInterface} (member : event ∈ after) : event ∈ history := by
      rw [split]
      exact List.mem_append_right _ (List.mem_cons_of_mem _ member)
    rcases settled with ⟨late, member, same⟩ | ⟨received, member, same⟩
    · exact unanswered.onTime ⟨late, within member, same⟩
    · exact unanswered.unreceived received (within member) same

/-- Who is about to send a statement has not sent any. -/
theorem quiet_of_sending (built : createRouter libs state = some service) {statement : Statement}
    {next : Except SqlxError Unit → ServiceProgram Response}
    (reached : (service request).Reaches history (.call (.send statement) next)) :
    ∀ event ∈ history, ¬ Sent event ∧ ¬ Received event := by
  rcases statement_stages built reached with ⟨quiet, _⟩ | ⟨_, _, ⟨_, ⟨_, _, same⟩ | ⟨_, same⟩⟩ | ⟨_, _, same⟩⟩
  · exact quiet
  · cases same
  · cases same
  · cases same

end Router

end TemplateServico
