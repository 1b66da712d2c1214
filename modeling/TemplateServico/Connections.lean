import TemplateServico.Interaction.Refine
import TemplateServico.Service
import TemplateServico.SingleStatement
import Mathlib.Data.List.Perm.Subperm

/-! The pool of connections to the database, and who has one of them. -/

set_option autoImplicit false

namespace TemplateServico

open Http Interaction Postgres

/-- As `create_pool` sets it. -/
def maxConnections : Nat := 10

/-- The connections in use, by the position of the request: with it, or dropped by it
and on the way back to the pool. -/
structure Leases where
  held : List Nat
  returning : List Nat
  distinct : (held ++ returning).Nodup
  bounded : (held ++ returning).length ≤ maxConnections

namespace Leases

def empty : Leases := ⟨[], [], List.nodup_nil, Nat.zero_le _⟩

def HasRoom (leases : Leases) : Prop := (leases.held ++ leases.returning).length < maxConnections

instance (leases : Leases) : Decidable leases.HasRoom := inferInstanceAs (Decidable (_ < _))

def acquire (leases : Leases) (position : Nat) (free : position ∉ leases.held ++ leases.returning)
    (room : leases.HasRoom) : Leases :=
  ⟨position :: leases.held, leases.returning, List.nodup_cons.mpr ⟨free, leases.distinct⟩, room⟩

theorem drop_perm {leases : Leases} {position : Nat} (held : position ∈ leases.held) :
    (leases.held.erase position ++ position :: leases.returning).Perm (leases.held ++ leases.returning) :=
  List.perm_middle.trans ((List.perm_cons_erase held).symm.append_right leases.returning)

def drop (leases : Leases) (position : Nat) : Leases :=
  if held : position ∈ leases.held then
    { held := leases.held.erase position
      returning := position :: leases.returning
      distinct := (drop_perm held).nodup_iff.mpr leases.distinct
      bounded := (drop_perm held).length_eq ▸ leases.bounded }
  else leases

theorem giveBack_sublist (leases : Leases) (position : Nat) :
    (leases.held ++ leases.returning.erase position).Sublist (leases.held ++ leases.returning) :=
  List.Sublist.append_left List.erase_sublist _

def giveBack (leases : Leases) (position : Nat) : Leases where
  held := leases.held
  returning := leases.returning.erase position
  distinct := leases.distinct.sublist (leases.giveBack_sublist position)
  bounded := (leases.giveBack_sublist position).length_le.trans leases.bounded

variable {leases : Leases} {position other : Nat}

theorem mem_held_drop : other ∈ (leases.drop position).held ↔ other ∈ leases.held ∧ other ≠ position := by
  unfold drop
  split
  next held =>
    have distinct := leases.distinct.of_append_left
    simp [distinct.mem_erase_iff, and_comm]
  next absent =>
    constructor
    · intro member
      exact ⟨member, fun same => absent (same ▸ member)⟩
    · exact And.left

theorem mem_returning_drop (member : other ∈ (leases.drop position).returning) :
    other ∈ leases.returning ∨ other = position ∧ position ∈ leases.held := by
  unfold drop at member
  split at member
  next held =>
    rcases List.mem_cons.mp member with same | old
    · exact .inr ⟨same, held⟩
    · exact .inl old
  next => exact .inl member

theorem returning_giveBack (member : position ∈ leases.returning) :
    (leases.giveBack position).returning.length < leases.returning.length := by
  have positive := List.length_pos_of_mem member
  simp only [giveBack, List.length_erase_of_mem member]
  omega

end Leases

structure PooledState where
  service : ServiceState
  leases : Leases

def PooledState.initial : PooledState := ⟨.initial, .empty⟩

/-- What requests get when statements need a connection of the pool. Where nothing
fails, there is always time and every statement that was sent is answered. -/
inductive PooledPerforms (failing : Prop) (position : Nat) :
    (op : ServiceOp) → PooledState → op.Reply → PooledState → Prop where
  | other {op : ServiceOp} {reply : op.Reply} {state : PooledState} {service : ServiceState} :
      Handlers.Local op → op ≠ .deadline → Performs position op state.service reply service →
      PooledPerforms failing position op state reply { state with service := service }
  | onTime (state : PooledState) : PooledPerforms failing position .deadline state false state
  -- The handler is dropped, and with it the connection that it may have.
  | late (state : PooledState) : failing →
      PooledPerforms failing position .deadline state true { state with leases := state.leases.drop position }
  | notSent (state : PooledState) (statement : Statement) (error : SqlxError) : failing →
      PooledPerforms failing position (.send statement) state (.error error) state
  | send {state : PooledState} {statement : Statement} {service : ServiceState}
      (free : position ∉ state.leases.held ++ state.leases.returning) (room : state.leases.HasRoom) :
      Performs position (.send statement) state.service (.ok ()) service →
      PooledPerforms failing position (.send statement) state (.ok ()) ⟨service, state.leases.acquire position free room⟩
  | receive {state : PooledState} {statement : Statement} {answer : Except SqlxError (List User)}
      {service : ServiceState} : (∀ display, answer = .error (.other display) → failing) →
      Performs position (.receive statement) state.service answer service →
      PooledPerforms failing position (.receive statement) state answer ⟨service, state.leases.drop position⟩

inductive PooledServes (failing : Prop) (state : PooledState) : PooledState → Prop where
  | serves {service : ServiceState} : Serves state.service service →
      PooledServes failing state { state with service := service }
  -- The pool has a connection back when the server is through with its statement.
  | reclaims {position : Nat} : position ∈ state.leases.returning →
      (∀ statement, state.service.connections position ≠ .sent statement) →
      PooledServes failing state { state with leases := state.leases.giveBack position }
  | closes {position : Nat} : failing → position ∈ state.leases.returning →
      PooledServes failing state { state with leases := state.leases.giveBack position }

def pooledMachine (failing : Prop) (service : Request → ServiceProgram Response) :
    Machine serviceInterface PooledState Request Response :=
  ⟨service, fun position op state reply state' => PooledPerforms failing position op state reply state',
    PooledServes failing⟩

/-- With a pool, requests get nothing that they could not get without. -/
theorem pooledMachine_refines (failing : Prop) (service : Request → ServiceProgram Response) :
    (pooledMachine failing service).Refines (serviceMachine service) PooledState.service where
  body := rfl
  perform := by
    intro position op state reply state' performed
    cases performed with
    | other _ _ performed => exact performed
    | onTime => exact .deadline _ _
    | late => exact .deadline _ _
    | notSent => exact .notSent _ _ _
    | send _ _ performed => exact performed
    | receive _ performed => exact performed
  environment := by
    intro state state' served
    cases served with
    | serves served => exact .inl served
    | reclaims => exact .inr rfl
    | closes => exact .inr rfl

def Connection.isSent : Connection → Bool
  | .sent _ => true
  | .idle | .executed _ _ | .received _ _ => false

/-! ## Who has a connection -/

section Runs

variable {libs : Libraries} {appState : AppState} {service : Request → ServiceProgram Response}
  {failing : Prop} {pool later : Pool serviceInterface PooledState Request Response}
  {history : List (Event serviceInterface)}

theorem unanswered_snoc {event : Event serviceInterface} (notSent : ¬ Sent event) (notReceived : ¬ Received event)
    (notLate : event ≠ ⟨.deadline, true⟩) : Unanswered (history ++ [event]) ↔ Unanswered history := by
  constructor
  · intro unanswered
    refine ⟨?_, ?_, ?_⟩
    · obtain ⟨sending, member, sent⟩ := unanswered.sent
      rcases List.mem_append.mp member with old | new
      · exact ⟨sending, old, sent⟩
      · exact absurd (List.mem_singleton.mp new ▸ sent) notSent
    · exact fun old member => unanswered.unreceived old (List.mem_append_left _ member)
    · intro ⟨reply, member, late⟩
      exact unanswered.onTime ⟨reply, List.mem_append_left _ member, late⟩
  · intro unanswered
    refine ⟨?_, ?_, ?_⟩
    · obtain ⟨sending, member, sent⟩ := unanswered.sent
      exact ⟨sending, List.mem_append_left _ member, sent⟩
    · rw [List.forall_mem_append, List.forall_mem_singleton]
      exact ⟨unanswered.unreceived, notReceived⟩
    · intro ⟨reply, member, late⟩
      rcases List.mem_append.mp member with old | new
      · exact unanswered.onTime ⟨reply, old, late⟩
      · have isLate : reply = true := late
        rw [isLate] at new
        exact notLate (List.mem_singleton.mp new).symm

/-- The request at a position has the connection that the pool gave it, until it is answered. -/
structure Leased (state : PooledState) (position : Nat) (history : List (Event serviceInterface)) : Prop where
  held : position ∈ state.leases.held ↔ Unanswered history
  returning : position ∈ state.leases.returning → ∃ event ∈ history, Sent event
  received : ∀ statement outcome, state.service.connections position = .received statement outcome →
    ∃ event ∈ history, Received event

theorem leased_initial (position : Nat) : Leased .initial position [] := by
  refine ⟨⟨nofun, fun unanswered => ?_⟩, nofun, nofun⟩
  obtain ⟨event, member, _⟩ := unanswered.sent
  cases member

theorem Performs.connections_of_local {op : ServiceOp} {reply : op.Reply} {position : Nat} {state state' : ServiceState}
    (isLocal : Handlers.Local op) (performed : Performs position op state reply state') :
    state'.connections = state.connections := by
  cases performed with
  | send statement idle => exact absurd rfl (isLocal statement).1
  | receive executed => exact absurd rfl (isLocal _).2
  | _ => rfl

/-- Events after which the same statements are under way as before. -/
theorem Leased.snoc {state state' : PooledState} {position : Nat} {event : Event serviceInterface}
    (leased : Leased state position history) (sameLeases : state'.leases = state.leases)
    (sameConnections : state'.service.connections = state.service.connections) (notSent : ¬ Sent event)
    (notReceived : ¬ Received event) (notLate : event ≠ ⟨.deadline, true⟩) :
    Leased state' position (history ++ [event]) := by
  refine ⟨?_, ?_, ?_⟩
  · rw [sameLeases, leased.held, unanswered_snoc notSent notReceived notLate]
  · intro member
    rw [sameLeases] at member
    obtain ⟨sending, old, sent⟩ := leased.returning member
    exact ⟨sending, List.mem_append_left _ old, sent⟩
  · intro statement outcome received
    rw [sameConnections] at received
    obtain ⟨receiving, old, receives⟩ := leased.received statement outcome received
    exact ⟨receiving, List.mem_append_left _ old, receives⟩

/-- The request is through with its connection. -/
theorem Leased.dropped {state state' : PooledState} {position : Nat} {event : Event serviceInterface}
    (leased : Leased state position history) (sameLeases : state'.leases = state.leases.drop position)
    (settled : Received event ∨ event = ⟨.deadline, true⟩)
    (received : ∀ statement outcome, state'.service.connections position = .received statement outcome →
      ∃ event' ∈ history ++ [event], Received event') : Leased state' position (history ++ [event]) := by
  refine ⟨?_, ?_, received⟩
  · rw [sameLeases, Leases.mem_held_drop]
    constructor
    · intro ⟨_, other⟩
      exact absurd rfl other
    · intro unanswered
      rcases settled with receives | late
      · exact absurd receives (unanswered.unreceived event (by simp))
      · exact absurd ⟨true, by simp [late], rfl⟩ unanswered.onTime
  · intro member
    rw [sameLeases] at member
    have sent : ∃ event ∈ history, Sent event := by
      rcases Leases.mem_returning_drop member with old | ⟨_, held⟩
      · exact leased.returning old
      · exact (leased.held.mp held).sent
    obtain ⟨sending, old, sends⟩ := sent
    exact ⟨sending, List.mem_append_left _ old, sends⟩

theorem Leased.congr {state state' : PooledState} {position : Nat} (leased : Leased state position history)
    (held : position ∈ state'.leases.held ↔ position ∈ state.leases.held)
    (returning : position ∈ state'.leases.returning → position ∈ state.leases.returning)
    (received : ∀ statement outcome, state'.service.connections position = .received statement outcome →
      state.service.connections position = .received statement outcome) : Leased state' position history :=
  ⟨held.trans leased.held, fun member => leased.returning (returning member),
    fun statement outcome same => leased.received statement outcome (received statement outcome same)⟩

theorem leased_linked (built : createRouter libs appState = some service) :
    (pooledMachine failing service).Linked Leased where
  own := by
    intro position request op next state reply state' history leased reached performed
    cases performed with
    | @other _ _ _ after isLocal timeless performed =>
      have same : after.connections = state.service.connections := Performs.connections_of_local isLocal performed
      refine leased.snoc ?_ same ?_ ?_ ?_
      · rfl
      · intro ⟨statement, same⟩
        exact (isLocal statement).1 (congrArg Sigma.fst same)
      · intro ⟨statement, answer, same⟩
        exact (isLocal statement).2 (congrArg Sigma.fst same)
      · intro same
        exact timeless (congrArg Sigma.fst same)
    | onTime => exact leased.snoc rfl rfl (by rintro ⟨_, ⟨⟩⟩) (by rintro ⟨_, _, ⟨⟩⟩) nofun
    | late =>
      refine leased.dropped rfl (.inr rfl) fun statement outcome received => ?_
      obtain ⟨receiving, old, receives⟩ := leased.received statement outcome received
      exact ⟨receiving, List.mem_append_left _ old, receives⟩
    | notSent => exact leased.snoc rfl rfl (by rintro ⟨_, ⟨⟩⟩) (by rintro ⟨_, _, ⟨⟩⟩) nofun
    | @send _ statement connected free room performed =>
      have onTime := onTime_of_waiting built reached
      have quiet := quiet_of_sending built reached
      refine ⟨⟨fun _ => ⟨⟨⟨.send statement, .ok ()⟩, by simp, statement, rfl⟩, ?_, ?_⟩, fun _ => List.mem_cons_self⟩, ?_, ?_⟩
      · rw [List.forall_mem_append, List.forall_mem_singleton]
        refine ⟨fun event member => (quiet event member).2, ?_⟩
        intro ⟨_, _, same⟩
        cases same
      · intro ⟨late, member, isLate⟩
        rcases List.mem_append.mp member with old | new
        · exact onTime ⟨late, old, isLate⟩
        · cases List.mem_singleton.mp new
      · intro member
        exact absurd (List.mem_append_right _ member) free
      · intro other outcome received
        cases performed with
        | send _ idle =>
          dsimp only at received
          rw [Function.update_self] at received
          cases received
    | @receive _ statement answer _ _ performed =>
      have receives : Received ⟨.receive statement, answer⟩ := ⟨statement, answer, rfl⟩
      exact leased.dropped rfl (.inl receives) fun _ _ _ => ⟨_, by simp, receives⟩
  other := by
    intro position acting op state reply state' history different leased performed
    have unaffected : state'.service.connections position = state.service.connections position :=
      Performs.other ((pooledMachine_refines failing service).perform performed) different.symm
    have kept (statement : Statement) (outcome : Outcome)
        (received : state'.service.connections position = .received statement outcome) :
        state.service.connections position = .received statement outcome := unaffected ▸ received
    have dropped : position ∈ (state.leases.drop acting).held ↔ position ∈ state.leases.held := by
      simp [Leases.mem_held_drop, different.symm]
    have returned (member : position ∈ (state.leases.drop acting).returning) : position ∈ state.leases.returning := by
      rcases Leases.mem_returning_drop member with old | ⟨same, _⟩
      · exact old
      · exact absurd same.symm different
    cases performed with
    | other => exact leased.congr .rfl id kept
    | onTime => exact leased
    | late => exact leased.congr dropped returned kept
    | notSent => exact leased
    | send => exact leased.congr (by simp [Leases.acquire, different.symm]) id kept
    | receive => exact leased.congr dropped returned kept
  environment := by
    intro position state state' history leased served
    cases served with
    | serves served =>
      refine leased.congr .rfl id fun statement outcome received => ?_
      obtain ⟨serving, running, answer, _, connections, _⟩ := served.cases
      dsimp only at received
      by_cases same : position = serving
      · rw [connections, same, Function.update_self] at received
        cases received
      · rwa [connections, Function.update_of_ne same] at received
    | reclaims => exact leased.congr .rfl List.mem_of_mem_erase fun _ _ => id
    | closes => exact leased.congr .rfl List.mem_of_mem_erase fun _ _ => id

theorem leased_reachable (built : createRouter libs appState = some service)
    (reachable : (pooledMachine failing service).Reachable .initial pool) (position : Nat) :
    Leased pool.shared position (pool.historyAt position) :=
  (leased_linked built).reachable leased_initial reachable position

theorem PooledPerforms.mono {failing wider : Prop} (weaker : failing → wider) {position : Nat} {op : ServiceOp}
    {reply : op.Reply} {state state' : PooledState} (performed : PooledPerforms failing position op state reply state') :
    PooledPerforms wider position op state reply state' := by
  cases performed with
  | other isLocal timeless performed => exact .other isLocal timeless performed
  | onTime => exact .onTime _
  | late _ fails => exact .late _ (weaker fails)
  | notSent _ _ _ fails => exact .notSent _ _ _ (weaker fails)
  | send free room performed => exact .send free room performed
  | receive lost performed => exact .receive (fun display same => weaker (lost display same)) performed

theorem PooledServes.mono {failing wider : Prop} (weaker : failing → wider) {state state' : PooledState}
    (served : PooledServes failing state state') : PooledServes wider state state' := by
  cases served with
  | serves served => exact .serves served
  | reclaims member idle => exact .reclaims member idle
  | closes fails member => exact .closes (weaker fails) member

/-- A machine that fails in fewer ways does nothing else. -/
theorem pooledMachine_mono {failing wider : Prop} (weaker : failing → wider)
    (step : (pooledMachine failing service).Step pool later) : (pooledMachine wider service).Step pool later := by
  cases step with
  | spawn job => exact .spawn pool job
  | perform selected performed => exact .perform selected (PooledPerforms.mono weaker performed)
  | environment served => exact .environment (PooledServes.mono weaker served)

theorem pooled_service (reachable : (pooledMachine failing service).Reachable .initial pool) :
    (serviceMachine service).Reachable .initial (pool.view PooledState.service) :=
  (pooledMachine_refines failing service).reachable reachable

theorem waiting_task (built : createRouter libs appState = some service)
    (reachable : (pooledMachine failing service).Reachable .initial pool) {position : Nat}
    (held : position ∈ pool.shared.leases.held) :
    ∃ task statement, pool.tasks[position]? = some task ∧ ⟨.send statement, .ok ()⟩ ∈ task.history ∧
      Unanswered task.history ∧ Expecting statement task.program := by
  have unanswered := (leased_reachable built reachable position).held.mp held
  cases selected : pool.tasks[position]? with
  | none =>
    rw [Machine.historyAt_of_fresh (List.getElem?_eq_none_iff.mp selected)] at unanswered
    obtain ⟨event, member, _⟩ := unanswered.sent
    cases member
  | some task =>
    rw [Machine.historyAt_of_task selected] at unanswered
    have reached : (service task.job).Reaches task.history task.program := reachable.reaches selected
    rcases statement_stages built reached with ⟨quiet, _⟩ | ⟨statement, sent, ⟨_, expecting⟩ | ⟨settled, _⟩⟩
    · obtain ⟨event, member, sent⟩ := unanswered.sent
      exact absurd sent (quiet event member).1
    · exact ⟨task, statement, rfl, sent, unanswered, expecting⟩
    · exact absurd unanswered settled

/-- At any time, at most as many requests as the pool has connections are between their
statement and its answer, and each of them waits for that answer and for nothing else. -/
theorem connections_not_hoarded (built : createRouter libs appState = some service)
    (reachable : (pooledMachine failing service).Reachable .initial pool) {positions : List Nat}
    (distinct : positions.Nodup) (underWay : ∀ position ∈ positions, Unanswered (pool.historyAt position)) :
    positions.length ≤ maxConnections ∧ ∀ position ∈ positions, ∃ task statement,
      pool.tasks[position]? = some task ∧ ⟨.send statement, .ok ()⟩ ∈ task.history ∧
        Expecting statement task.program := by
  have held (position : Nat) (member : position ∈ positions) : position ∈ pool.shared.leases.held :=
    (leased_reachable built reachable position).held.mpr (underWay position member)
  constructor
  · have fits := (distinct.subperm held).length_le
    have bounded := pool.shared.leases.bounded
    rw [List.length_append] at bounded
    omega
  · intro position member
    obtain ⟨task, statement, selected, sent, _, expecting⟩ := waiting_task built reachable (held position member)
    exact ⟨task, statement, selected, sent, expecting⟩

end Runs

/-! ## A full pool -/

def sendingHealth : List (Event serviceInterface) :=
  [passed .healthCheck, ⟨.deadline, false⟩, ⟨.send .selectOne, .ok ()⟩]

theorem sendingHealth_unanswered : Unanswered sendingHealth := by
  refine ⟨⟨⟨.send .selectOne, .ok ()⟩, by simp [sendingHealth], .selectOne, rfl⟩, ?_, ?_⟩
  · intro event member ⟨statement, answer, same⟩
    rw [same] at member
    simp [sendingHealth] at member
  · intro ⟨late, member, isLate⟩
    have same : late = true := isLate
    rw [same] at member
    simp [sendingHealth] at member

/-- What needs no connection is as it is without the pool. -/
theorem pooled_local {failing : Prop} {service : Request → ServiceProgram Response} {position : Nat} {op : ServiceOp}
    {reply : op.Reply} {state : PooledState} {after : ServiceState} (isLocal : Handlers.Local op) (timeless : op ≠ .deadline)
    (performed : Performs position op state.service reply after) :
    (pooledMachine failing service).perform position op state reply { state with service := after } :=
  .other isLocal timeless performed

/-- As many health checks as there are connections may wait for their answers. -/
theorem sendingHealths {rest : ServiceProgram Response}
    (reached : (exampleService (plainRequest .get "/health")).Reaches sendingHealth rest) (count : Nat)
    (few : count ≤ maxConnections) : ∃ shared : PooledState,
      (pooledMachine True exampleService).Reachable .initial
        ⟨shared, List.replicate count ⟨plainRequest .get "/health", sendingHealth, rest⟩⟩ ∧
      (∀ position ∈ shared.leases.held, position < count) ∧ shared.leases.held.length = count ∧
      shared.leases.returning = [] ∧ ∀ position, count ≤ position → shared.service.connections position = .idle := by
  induction count with
  | zero => exact ⟨.initial, .refl, nofun, rfl, rfl, fun _ _ => rfl⟩
  | succ count ih =>
    obtain ⟨shared, reachable, older, held, returning, idle⟩ := ih (Nat.le_of_succ_le few)
    have free : count ∉ shared.leases.held ++ shared.leases.returning := by
      rw [returning, List.append_nil]
      exact fun member => Nat.lt_irrefl count (older count member)
    have room : shared.leases.HasRoom := by
      unfold Leases.HasRoom
      rw [returning, List.append_nil, held]
      exact few
    let sending : PooledState :=
      ⟨{ shared.service with connections := Function.update shared.service.connections count (.sent .selectOne) },
        shared.leases.acquire count free room⟩
    have performed : (pooledMachine True exampleService).Performed count shared sendingHealth sending :=
      .reply (pooled_local (Handlers.local_of nofun nofun) nofun (.pass _ _)) (.reply (.onTime _)
        (.reply (.send free room (.send _ (idle count (Nat.le_refl count)))) (.nothing _)))
    have last : (List.replicate count (⟨plainRequest .get "/health", sendingHealth, rest⟩ :
        Task serviceInterface Request Response)).length = count := List.length_replicate
    have joined := reachable.joined reached (last.symm ▸ performed)
    rw [← List.replicate_succ'] at joined
    refine ⟨sending, joined, ?_, congrArg Nat.succ held, returning, fun position late => ?_⟩
    · intro position member
      rcases List.mem_cons.mp member with same | old
      · exact same ▸ Nat.lt_succ_self count
      · exact Nat.lt_succ_of_lt (older position old)
    · have other : position ≠ count := Nat.ne_of_gt late
      exact (Function.update_of_ne other _ _).trans (idle position (Nat.le_of_succ_le late))

theorem full_pool : ∃ (pool : Pool serviceInterface PooledState Request Response) (rest : ServiceProgram Response),
    (pooledMachine True exampleService).Reachable .initial pool ∧ ¬ pool.shared.leases.HasRoom ∧
      pool.tasks = List.replicate maxConnections ⟨plainRequest .get "/health", sendingHealth, rest⟩ := by
  obtain ⟨rest, reached⟩ : ∃ rest, (exampleService (plainRequest .get "/health")).Reaches sendingHealth rest :=
    Program.reaches_of_isSome (by decide)
  obtain ⟨shared, reachable, _, held, returning, _⟩ := sendingHealths reached maxConnections (Nat.le_refl _)
  refine ⟨_, rest, reachable, ?_, rfl⟩
  unfold Leases.HasRoom
  rw [returning, List.append_nil, held]
  exact Nat.lt_irrefl _

theorem full_pool_waits : ∃ pool : Pool serviceInterface PooledState Request Response, ¬ pool.shared.leases.HasRoom ∧
    ∀ position < maxConnections, ∃ task statement, pool.tasks[position]? = some task ∧ Expecting statement task.program := by
  obtain ⟨pool, rest, reachable, full, tasks⟩ := full_pool
  have underWay : ∀ position ∈ List.range maxConnections, Unanswered (pool.historyAt position) := by
    intro position member
    have selected : pool.tasks[position]? = some ⟨plainRequest .get "/health", sendingHealth, rest⟩ := by
      rw [tasks, List.getElem?_replicate, if_pos (List.mem_range.mp member)]
    rw [Machine.historyAt_of_task selected]
    exact sendingHealth_unanswered
  have waiting := (connections_not_hoarded exampleService_built reachable List.nodup_range underWay).2
  refine ⟨pool, full, fun position few => ?_⟩
  obtain ⟨task, statement, selected, _, expecting⟩ := waiting position (List.mem_range.mpr few)
  exact ⟨task, statement, selected, expecting⟩

end TemplateServico
