import TemplateServico.Interaction.Progress
import TemplateServico.Connections
import Mathlib.Data.Finset.Card

/-! Every request comes to its end.

A request with a connection waits for the database only, and the others wait at most
for a connection. So there is always a step to take, and only finitely many.
-/

set_option autoImplicit false

namespace TemplateServico

open Http Interaction Postgres

section Runs

variable {libs : Libraries} {appState : AppState} {service : Request → ServiceProgram Response}
  {failing : Prop} {pool later : Pool serviceInterface PooledState Request Response}

theorem executes_possible (statement : Statement) (table : UsersTable) : ∃ outcome later,
    Executes statement table outcome later := by
  have same (outcome : Outcome) : SameRows outcome outcome := by
    cases outcome with
    | error error => exact .error error
    | ok rows => exact .ok (.refl _)
  exact ⟨_, _, .runs ⟨"2024-01-01T00:00:00Z"⟩ (same _)⟩

theorem local_possible {op : ServiceOp} (isLocal : Handlers.Local op) (position : Nat) (state : ServiceState) :
    ∃ reply state', Performs position op state reply state' := by
  cases op with
  | jwks op =>
    cases op with
    | readCache => exact ⟨_, _, .readCache _⟩
    | fetch url => exact ⟨.body "", _, .fetch _ _ _⟩
    | writeCache json => exact ⟨_, _, .writeCache _ _⟩
  | receiveBody => exact ⟨.ok (), _, .receiveBody _ _⟩
  | newUuid => exact ⟨⟨""⟩, _, .newUuid _ _⟩
  | clock => exact ⟨0, _, .clock _ _⟩
  | send statement => exact absurd rfl (isLocal statement).1
  | receive statement => exact absurd rfl (isLocal statement).2
  | renderMetrics => exact ⟨"", _, .renderMetrics _ _⟩
  | deadline => exact ⟨false, _, .deadline _ _⟩
  | pass point => exact ⟨_, _, .pass _ _⟩

theorem serves_possible {position : Nat} {statement : Statement}
    (sent : pool.shared.service.connections position = .sent statement) :
    ∃ later, (pooledMachine failing service).Works pool later := by
  obtain ⟨outcome, users, executed⟩ := executes_possible statement pool.shared.service.users
  exact ⟨_, Machine.Works.environment (.serves (.executes sent executed))⟩

theorem answer_possible (reachable : (pooledMachine True service).Reachable .initial pool) {position : Nat}
    {task : Task serviceInterface Request Response} (leased : Leased pool.shared position task.history)
    (selected : pool.tasks[position]? = some task) {statement : Statement}
    (sent : ⟨.send statement, .ok ()⟩ ∈ task.history) (unanswered : Unanswered task.history)
    {next : Except SqlxError (List User) → ServiceProgram Response}
    (waiting : task.program = .call (.receive statement) next) :
    ∃ later, (pooledMachine failing service).Works pool later := by
  obtain ⟨request, history, program⟩ := task
  dsimp only at sent unanswered waiting leased
  rw [waiting] at selected
  have attached := attached_reachable (pooled_service reachable) selected
  have asked : (pool.shared.service.connections position).statement? = some statement := (attached.sent statement).mpr sent
  cases connection : pool.shared.service.connections position with
  | idle =>
    rw [connection] at asked
    cases asked
  | sent pending => exact serves_possible connection
  | executed ran outcome =>
    rw [connection] at asked
    cases asked
    have answered : PooledPerforms failing position (.receive statement) pool.shared (answerOf outcome) _ :=
      .receive (fun display same => by cases outcome <;> cases same) (.receive connection)
    exact ⟨_, Machine.Works.perform selected answered⟩
  | received ran outcome =>
    obtain ⟨event, member, receives⟩ := leased.received ran outcome connection
    exact absurd receives (unanswered.unreceived event member)

theorem lease_moves (built : createRouter libs appState = some service)
    (reachable : (pooledMachine True service).Reachable .initial pool) {position : Nat}
    (member : position ∈ pool.shared.leases.held ++ pool.shared.leases.returning) :
    ∃ later, (pooledMachine failing service).Works pool later := by
  rcases List.mem_append.mp member with held | returning
  · obtain ⟨task, statement, selected, sent, unanswered, ⟨_, _, same⟩ | ⟨_, same⟩⟩ :=
      waiting_task built reachable held
    · obtain ⟨request, history, program⟩ := task
      dsimp only at same
      rw [same] at selected
      exact ⟨_, Machine.Works.perform selected (.onTime _)⟩
    · have leased := leased_reachable built reachable position
      rw [Machine.historyAt_of_task selected] at leased
      exact answer_possible reachable leased selected sent unanswered same
  · by_cases pending : ∃ statement, pool.shared.service.connections position = .sent statement
    · obtain ⟨statement, sent⟩ := pending
      exact serves_possible sent
    · exact ⟨_, Machine.Works.environment (.reclaims returning (not_exists.mp pending))⟩

/-- Whoever waits, something can be done without anything failing. -/
theorem progress_possible (built : createRouter libs appState = some service)
    (reachable : (pooledMachine True service).Reachable .initial pool)
    {task : Task serviceInterface Request Response} (member : task ∈ pool.tasks) (unfinished : ¬ task.Finished) :
    ∃ later, (pooledMachine failing service).Works pool later := by
  obtain ⟨position, selected⟩ := List.mem_iff_getElem?.mp member
  have leased := leased_reachable built reachable position
  rw [Machine.historyAt_of_task selected] at leased
  obtain ⟨request, history, program⟩ := task
  have reached : (service request).Reaches history program := reachable.reaches selected
  cases program with
  | done response => exact absurd ⟨response, rfl⟩ unfinished
  | call op next =>
  rcases op_cases op with same | ⟨statement, same⟩ | ⟨statement, same⟩ | ⟨isLocal, timeless⟩
  · subst same
    exact ⟨_, Machine.Works.perform selected (.onTime _)⟩
  · subst same
    have quiet := quiet_of_sending built reached
    by_cases room : pool.shared.leases.HasRoom
    · have free : position ∉ pool.shared.leases.held ++ pool.shared.leases.returning := by
        intro within
        have sent : ∃ event ∈ history, Sent event := by
          rcases List.mem_append.mp within with held | returning
          · exact (leased.held.mp held).sent
          · exact leased.returning returning
        obtain ⟨event, old, sends⟩ := sent
        exact (quiet event old).1 sends
      have attached : Attached pool.shared.service position history :=
        attached_reachable (pooled_service reachable) selected
      have idle : pool.shared.service.connections position = .idle := by
        cases connection : pool.shared.service.connections position with
        | idle => rfl
        | _ => exact absurd ⟨_, rfl⟩ (quiet _ ((attached.sent _).mp (by rw [connection]; rfl))).1
      exact ⟨_, Machine.Works.perform selected (.send free room (.send statement idle))⟩
    · -- All connections are in use, so one of them will be through first.
      unfold Leases.HasRoom at room
      obtain ⟨other, inUse⟩ : ∃ other, other ∈ pool.shared.leases.held ++ pool.shared.leases.returning := by
        apply List.exists_mem_of_length_pos
        have positive : 0 < maxConnections := by decide
        omega
      exact lease_moves built reachable inUse
  · subst same
    rcases statement_stages built reached with ⟨_, notReceive⟩ | ⟨other, sent, ⟨unanswered, expecting⟩ | ⟨_, _, same⟩⟩
    · exact absurd rfl (notReceive statement next)
    · rcases expecting with ⟨_, _, same⟩ | ⟨_, same⟩
      · cases same
      · cases same
        exact answer_possible reachable leased selected sent unanswered rfl
    · cases same
  · obtain ⟨reply, state', performed⟩ := local_possible isLocal position pool.shared.service
    exact ⟨_, Machine.Works.perform selected (.other isLocal timeless performed)⟩

def outstanding (pool : Pool serviceInterface PooledState Request Response) : Nat :=
  ((Finset.range pool.tasks.length).filter fun position =>
    (pool.shared.service.connections position).isSent = true).card + pool.shared.leases.returning.length

theorem outstanding_decreases (reachable : (pooledMachine True service).Reachable .initial pool) {shared : PooledState}
    (served : PooledServes failing pool.shared shared) :
    outstanding { pool with shared := shared } < outstanding pool := by
  unfold outstanding
  cases served with
  | serves served =>
    obtain ⟨position, statement, outcome, sent, connections, _⟩ := served.cases
    apply Nat.add_lt_add_right
    apply Finset.card_lt_card
    have inRange : position < pool.tasks.length := by
      by_contra beyond
      have idle : pool.shared.service.connections position = .idle :=
        idle_reachable (pooled_service reachable) (Nat.le_of_not_lt beyond)
      rw [idle] at sent
      cases sent
    refine ⟨fun other member => ?_, fun all => ?_⟩
    · simp only [Finset.mem_filter, connections] at member ⊢
      refine ⟨member.1, ?_⟩
      by_cases same : other = position
      · rw [same, Function.update_self] at member
        cases member.2
      · rw [Function.update_of_ne same] at member
        exact member.2
    · have still := all (Finset.mem_filter.mpr ⟨Finset.mem_range.mpr inRange, by rw [sent]; rfl⟩)
      simp [connections, Connection.isSent] at still
  | reclaims member => exact Nat.add_lt_add_left (Leases.returning_giveBack member) _
  | closes _ member => exact Nat.add_lt_add_left (Leases.returning_giveBack member) _

theorem reachable_works (reachable : (pooledMachine True service).Reachable .initial pool)
    (works : (pooledMachine failing service).Works pool later) : (pooledMachine True service).Reachable .initial later :=
  reachable.steps (.single (pooledMachine_mono (fun _ => trivial) works.1))

theorem works_terminate (reachable : (pooledMachine True service).Reachable .initial pool) :
    Acc (fun later pool => (pooledMachine failing service).Works pool later) pool :=
  Machine.works_acc ((pooledMachine True service).Reachable .initial) outstanding
    (fun _ _ => reachable_works) (fun _ _ reachable served => outstanding_decreases reachable served) reachable

/-- However many requests are under way, whatever has failed so far and in whatever order
things go on: as long as no request is added, all of them come to a response. That needs
no failure and no timeout, however the ten connections of the pool are shared out. -/
theorem requests_answered (built : createRouter libs appState = some service) (failing : Prop)
    (reachable : (pooledMachine True service).Reachable .initial pool) :
    Inevitable (pooledMachine failing service).Works Pool.Finished pool :=
  Machine.works_finish ((pooledMachine True service).Reachable .initial) (works_terminate reachable)
    (fun _ _ => reachable_works) (fun _ reachable _ member unfinished => progress_possible built reachable member unfinished)
    reachable

end Runs

/-- One more request comes while all connections are in use. -/
theorem full_pool_answered : ∃ pool : Pool serviceInterface PooledState Request Response,
    ¬ pool.shared.leases.HasRoom ∧ pool.tasks.length = maxConnections + 1 ∧
      Inevitable (pooledMachine False exampleService).Works Pool.Finished pool := by
  obtain ⟨pool, rest, reachable, full, tasks⟩ := full_pool
  have joined := reachable.joined (.start (exampleService (bearing "full"))) (.nothing pool.shared)
  refine ⟨{ pool with tasks := pool.tasks ++ [⟨bearing "full", [], exampleService (bearing "full")⟩] }, full, ?_,
    requests_answered exampleService_built False joined⟩
  rw [List.length_append, tasks, List.length_replicate]
  rfl

end TemplateServico
