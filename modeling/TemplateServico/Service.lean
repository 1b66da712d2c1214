import TemplateServico.Interaction.Pool
import TemplateServico.Routes
import Mathlib.Logic.Function.Basic

/-! Any number of requests in service at once, over one cache and one database.

A statement that was sent is executed by the server at some later point, or never,
whatever becomes of the request that sent it.
-/

set_option autoImplicit false

namespace TemplateServico

open Http Interaction Postgres

inductive Connection where
  | idle
  | sent (statement : Statement)
  | executed (statement : Statement) (outcome : Outcome)
  | received (statement : Statement) (outcome : Outcome)

namespace Connection

def statement? : Connection → Option Statement
  | .idle => none
  | .sent statement | .executed statement _ | .received statement _ => some statement

/-- The statement and its outcome, once the server has executed it. -/
def outcome? : Connection → Option (Statement × Outcome)
  | .idle | .sent _ => none
  | .executed statement outcome | .received statement outcome => some (statement, outcome)

theorem statement?_of_outcome? {connection : Connection} {statement : Statement} {outcome : Outcome}
    (executed : connection.outcome? = some (statement, outcome)) : connection.statement? = some statement := by
  cases connection with
  | idle => cases executed
  | sent pending => cases executed
  | executed ran answer =>
    cases executed
    rfl
  | received ran answer =>
    cases executed
    rfl

end Connection

-- `connections` and `journal` go by the position of a request among all requests.
-- The journal, who inserted which row, is kept for the proofs only.
structure ServiceState where
  cachedJson : Option String
  users : UsersTable
  connections : Nat → Connection
  journal : List (Nat × User)

def ServiceState.initial : ServiceState := ⟨none, Relational.Table.empty usersSchema, fun _ => .idle, []⟩

/-- The server's answer as the driver hands it on. -/
def answerOf : Outcome → Except SqlxError (List User)
  | .ok rows => .ok rows
  | .error error => .error (.database error)

def journaled (position : Nat) : Statement → Outcome → List (Nat × User)
  | .insertUser _ _ _, .ok rows => rows.map fun user => (position, user)
  | _, _ => []

inductive Performs (position : Nat) :
    (op : ServiceOp) → ServiceState → op.Reply → ServiceState → Prop where
  | readCache (state : ServiceState) : Performs position (.jwks .readCache) state state.cachedJson state
  | fetch (state : ServiceState) (url : String) (fetched : Fetched String) :
      Performs position (.jwks (.fetch url)) state fetched state
  | writeCache (state : ServiceState) (json : String) :
      Performs position (.jwks (.writeCache json)) state () { state with cachedJson := some json }
  | receiveBody (state : ServiceState) (received : Except String Unit) :
      Performs position .receiveBody state received state
  | newUuid (state : ServiceState) (id : Uuid) : Performs position .newUuid state id state
  | clock (state : ServiceState) (now : Nat) : Performs position .clock state now state
  -- No connection could be had, or the statement did not get out.
  | notSent (state : ServiceState) (statement : Statement) (error : SqlxError) :
      Performs position (.send statement) state (.error error) state
  | send {state : ServiceState} (statement : Statement) : state.connections position = .idle →
      Performs position (.send statement) state (.ok ())
        { state with connections := Function.update state.connections position (.sent statement) }
  | receive {state : ServiceState} {statement : Statement} {outcome : Outcome} :
      state.connections position = .executed statement outcome →
      Performs position (.receive statement) state (answerOf outcome)
        { state with connections := Function.update state.connections position (.received statement outcome) }
  -- The connection fails. What the server does with the statement stays open.
  | lose (state : ServiceState) (statement : Statement) (display : String) :
      Performs position (.receive statement) state (.error (.other display)) state
  | renderMetrics (state : ServiceState) (text : String) :
      Performs position .renderMetrics state text state
  | deadline (state : ServiceState) (late : Bool) : Performs position .deadline state late state
  | pass (state : ServiceState) (point : Point) : Performs position (.pass point) state () state

inductive Serves (state : ServiceState) : ServiceState → Prop where
  | executes {position : Nat} {statement : Statement} {outcome : Outcome} {users : UsersTable} :
      state.connections position = .sent statement → Executes statement state.users outcome users →
      Serves state
        { state with
          users := users
          connections := Function.update state.connections position (.executed statement outcome)
          journal := state.journal ++ journaled position statement outcome }

def serviceMachine (service : Request → ServiceProgram Response) :
    Machine serviceInterface ServiceState Request Response :=
  ⟨service, fun position op state reply state' => Performs position op state reply state', Serves⟩

section Steps

variable {state state' : ServiceState} {position : Nat} {op : ServiceOp} {reply : op.Reply}

/-- What no reply changes: the table, the journal and the outcomes of statements. -/
theorem Performs.frame (performed : Performs position op state reply state') :
    state'.users = state.users ∧ state'.journal = state.journal ∧
      ∀ other, (state'.connections other).outcome? = (state.connections other).outcome? := by
  cases performed with
  | send statement idle =>
    refine ⟨rfl, rfl, fun other => ?_⟩
    by_cases same : other = position
    · rw [same]
      simp only [Function.update_self, idle]
      rfl
    · simp only [Function.update_of_ne same]
  | receive executed =>
    refine ⟨rfl, rfl, fun other => ?_⟩
    by_cases same : other = position
    · rw [same]
      simp only [Function.update_self, executed]
      rfl
    · simp only [Function.update_of_ne same]
  | _ => exact ⟨rfl, rfl, fun _ => rfl⟩

theorem Performs.other (performed : Performs position op state reply state') {other : Nat}
    (different : other ≠ position) : state'.connections other = state.connections other := by
  cases performed with
  | send statement idle => exact Function.update_of_ne different _ _
  | receive executed => exact Function.update_of_ne different _ _
  | _ => rfl

/-- The server executes one statement. An INSERT that succeeds adds the row it
returns to the table and to the journal, and nothing else changes either. -/
theorem Serves.cases (served : Serves state state') :
    ∃ position statement outcome, state.connections position = .sent statement ∧
      state'.connections = Function.update state.connections position (.executed statement outcome) ∧
      ((∃ id name email user, statement = .insertUser id name email ∧ outcome = .ok [user] ∧
          Inserted id name email user ∧ state.users.insert user = .ok state'.users ∧
          state'.journal = state.journal ++ [(position, user)]) ∨
        (state'.users = state.users ∧ state'.journal = state.journal ∧ ∀ rows, outcome = .ok rows →
          (statement = .selectOne ∧ rows = []) ∨
          (statement = .selectUsers ∧ rows.Perm state.users.rows) ∨
          ∃ id, statement = .selectUser id ∧
            rows.Perm (state.users.rows.filter fun user => decide (user.id = id)))) := by
  cases served with
  | @executes position statement outcome users sent executed =>
    refine ⟨position, statement, outcome, sent, rfl, ?_⟩
    rcases executed.cases with ⟨id, name, email, user, same, answer, inserted, added⟩ | ⟨unchanged, reads⟩
    · left
      subst same answer
      exact ⟨id, name, email, user, rfl, rfl, inserted, added, rfl⟩
    · right
      refine ⟨unchanged, ?_, reads⟩
      cases outcome with
      | error error => cases statement <;> exact List.append_nil _
      | ok rows =>
        rcases reads rows rfl with ⟨same, _⟩ | ⟨same, _⟩ | ⟨id, same, _⟩
        · rw [same]
          exact List.append_nil _
        · rw [same]
          exact List.append_nil _
        · rw [same]
          exact List.append_nil _

end Steps

/-! ## The table and the journal -/

/-- The rows are those of the journal, and the journal is what INSERTs have returned. -/
structure Consistent (state : ServiceState) : Prop where
  rows : state.users.rows = state.journal.map Prod.snd
  owners : ∀ position user, (position, user) ∈ state.journal → ∃ id name email,
    (state.connections position).outcome? = some (.insertUser id name email, .ok [user]) ∧
      Inserted id name email user
  inserts : ∀ position id name email rows,
    (state.connections position).outcome? = some (.insertUser id name email, .ok rows) →
      ∃ user, rows = [user] ∧ (position, user) ∈ state.journal

theorem consistent_initial : Consistent .initial := by
  refine ⟨rfl, ?_, ?_⟩
  · intro position user member
    cases member
  · intro position id name email rows executed
    cases executed

theorem Serves.consistent {state state' : ServiceState} (served : Serves state state')
    (consistent : Consistent state) : Consistent state' := by
  obtain ⟨position, statement, outcome, sent, connections, effect⟩ := served.cases
  have pending : (state.connections position).outcome? = none := by
    rw [sent]
    rfl
  have own : (state'.connections position).outcome? = some (statement, outcome) := by
    rw [connections, Function.update_self]
    rfl
  have others (other : Nat) (different : other ≠ position) :
      (state'.connections other).outcome? = (state.connections other).outcome? := by
    rw [connections, Function.update_of_ne different]
  -- An owner has an outcome already, so it is not the request whose statement runs now.
  have owner (other : Nat) (user : User) (member : (other, user) ∈ state.journal) : other ≠ position := by
    intro same
    obtain ⟨_, _, _, executed, _⟩ := consistent.owners other user member
    rw [same, pending] at executed
    cases executed
  rcases effect with ⟨id, name, email, user, isInsert, returned, inserted, added, journal⟩ |
    ⟨users, journal, reads⟩
  · constructor
    · rw [(Relational.Table.insert_ok added).1, consistent.rows, journal, List.map_append]
      rfl
    · intro other row member
      rw [journal, List.mem_append, List.mem_singleton] at member
      rcases member with old | new
      · rw [others other (owner other row old)]
        exact consistent.owners other row old
      · cases new
        exact ⟨id, name, email, by rw [own, isInsert, returned], inserted⟩
    · intro other id' name' email' rows executed
      rw [journal]
      by_cases same : other = position
      · rw [same, own, returned] at executed
        cases executed
        exact ⟨user, rfl, by rw [same]; simp⟩
      · rw [others other same] at executed
        obtain ⟨row, single, member⟩ := consistent.inserts _ _ _ _ _ executed
        exact ⟨row, single, List.mem_append_left _ member⟩
  · constructor
    · rw [users, journal]
      exact consistent.rows
    · intro other row member
      rw [journal] at member
      rw [others other (owner other row member)]
      exact consistent.owners other row member
    · intro other id name email rows executed
      rw [journal]
      by_cases same : other = position
      · rw [same, own] at executed
        cases executed
        rcases reads rows rfl with ⟨isOther, _⟩ | ⟨isOther, _⟩ | ⟨_, isOther, _⟩ <;> cases isOther
      · rw [others other same] at executed
        exact consistent.inserts _ _ _ _ _ executed

theorem Performs.consistent {state state' : ServiceState} {position : Nat} {op : ServiceOp}
    {reply : op.Reply} (performed : Performs position op state reply state')
    (consistent : Consistent state) : Consistent state' := by
  obtain ⟨users, journal, outcomes⟩ := performed.frame
  constructor
  · rw [users, journal]
    exact consistent.rows
  · intro other user member
    rw [journal] at member
    rw [outcomes]
    exact consistent.owners other user member
  · intro other id name email rows executed
    rw [outcomes] at executed
    rw [journal]
    exact consistent.inserts other id name email rows executed

/-! ## Connections and the histories of requests -/

/-- What a request has seen of its statement is what its connection says. -/
structure Attached (state : ServiceState) (position : Nat) (history : List (Event serviceInterface)) : Prop where
  sent : ∀ statement, (state.connections position).statement? = some statement ↔
    ⟨.send statement, .ok ()⟩ ∈ history
  received : ∀ statement answer, ⟨.receive statement, answer⟩ ∈ history →
    (∃ outcome, state.connections position = .received statement outcome ∧ answer = answerOf outcome) ∨
    ∃ display, answer = .error (.other display)

theorem attached_initial (position : Nat) : Attached .initial position [] := by
  constructor
  · intro statement
    constructor <;> nofun
  · nofun

theorem Attached.congr {state state' : ServiceState} {position : Nat} {history : List (Event serviceInterface)}
    (attached : Attached state position history)
    (same : state'.connections position = state.connections position) : Attached state' position history := by
  constructor
  · rw [same]
    exact attached.sent
  · rw [same]
    exact attached.received

/-- Events that say nothing about the statement. -/
theorem Attached.snoc {state : ServiceState} {position : Nat} {history : List (Event serviceInterface)}
    (attached : Attached state position history) {op : ServiceOp} {reply : op.Reply}
    (notSent : ∀ statement, (⟨.send statement, .ok ()⟩ : Event serviceInterface) ≠ ⟨op, reply⟩)
    (notReceived : ∀ statement answer, (⟨.receive statement, answer⟩ : Event serviceInterface) = ⟨op, reply⟩ →
      ∃ display, answer = .error (.other display)) :
    Attached state position (history ++ [⟨op, reply⟩]) := by
  constructor
  · intro statement
    rw [attached.sent statement, List.mem_append, List.mem_singleton]
    exact ⟨.inl, fun member => member.elim id fun same => absurd same (notSent statement)⟩
  · intro statement answer member
    rcases List.mem_append.mp member with old | new
    · exact attached.received statement answer old
    · exact .inr (notReceived statement answer (List.mem_singleton.mp new))

theorem Attached.own {state state' : ServiceState} {position : Nat} {op : ServiceOp} {reply : op.Reply}
    {history : List (Event serviceInterface)} (attached : Attached state position history)
    (performed : Performs position op state reply state') :
    Attached state' position (history ++ [⟨op, reply⟩]) := by
  cases performed with
  | send statement idle =>
    -- The connection is idle, so this is the only statement that was ever sent on it.
    have unsent (other : Statement) : (⟨.send other, .ok ()⟩ : Event serviceInterface) ∉ history := by
      intro member
      have sent := (attached.sent other).mpr member
      rw [idle] at sent
      cases sent
    constructor
    · intro other
      simp only [Function.update_self, Connection.statement?, List.mem_append, List.mem_singleton,
        Option.some.injEq, unsent, false_or]
      constructor
      · intro same
        rw [same]
      · intro same
        cases same
        rfl
    · intro other answer member
      rcases List.mem_append.mp member with old | new
      · rcases attached.received other answer old with ⟨outcome, received, _⟩ | lost
        · rw [idle] at received
          cases received
        · exact .inr lost
      · cases List.mem_singleton.mp new
  | @receive _ statement outcome executed =>
    constructor
    · intro other
      rw [List.mem_append, List.mem_singleton, ← attached.sent other, executed]
      simp only [Function.update_self, Connection.statement?]
      constructor
      · exact .inl
      · intro sent
        rcases sent with sent | same
        · exact sent
        · cases same
    · intro other answer member
      rcases List.mem_append.mp member with old | new
      · rcases attached.received other answer old with ⟨_, received, _⟩ | lost
        · rw [executed] at received
          cases received
        · exact .inr lost
      · cases List.mem_singleton.mp new
        exact .inl ⟨outcome, Function.update_self _ _ _, rfl⟩
  | lose _ statement display =>
    refine attached.snoc (by nofun) ?_
    intro other answer same
    cases same
    exact ⟨display, rfl⟩
  | _ => exact Attached.congr (attached.snoc (by nofun) (by nofun)) rfl

theorem attached_linked (service : Request → ServiceProgram Response) :
    (serviceMachine service).Linked Attached where
  own := fun attached _ performed => attached.own performed
  other := fun different attached performed => attached.congr (Performs.other performed different.symm)
  environment := by
    intro position state state' history attached served
    obtain ⟨serving, statement, outcome, sent, connections, _⟩ := Serves.cases served
    by_cases same : position = serving
    · subst same
      constructor
      · intro other
        rw [← attached.sent other, sent, connections, Function.update_self]
        rfl
      · intro other answer member
        rcases attached.received other answer member with ⟨_, received, _⟩ | lost
        · rw [sent] at received
          cases received
        · exact .inr lost
    · apply attached.congr
      rw [connections, Function.update_of_ne same]

section Reachable

variable {service : Request → ServiceProgram Response} {pool later : Pool serviceInterface ServiceState Request Response}

theorem consistent_kept : (serviceMachine service).Kept Consistent where
  perform := fun consistent performed => Performs.consistent performed consistent
  environment := fun consistent served => Serves.consistent served consistent

theorem consistent_reachable (reachable : (serviceMachine service).Reachable .initial pool) :
    Consistent pool.shared :=
  consistent_kept.reachable reachable consistent_initial

theorem attached_reachable (reachable : (serviceMachine service).Reachable .initial pool) {position : Nat}
    {task : Task serviceInterface Request Response} (selected : pool.tasks[position]? = some task) :
    Attached pool.shared position task.history :=
  Machine.historyAt_of_task selected ▸
    (attached_linked service).reachable attached_initial reachable position

/-- Positions without a request have nothing under way. -/
theorem idle_reachable (reachable : (serviceMachine service).Reachable .initial pool) {position : Nat}
    (fresh : pool.tasks.length ≤ position) : pool.shared.connections position = .idle := by
  have attached := (attached_linked service).reachable attached_initial reachable position
  -- Whatever is on the connection was sent, and nothing has happened there yet.
  rw [Machine.historyAt_of_fresh fresh] at attached
  cases connection : pool.shared.connections position with
  | idle => rfl
  | sent statement => cases (attached.sent statement).mp (by rw [connection]; rfl)
  | executed statement outcome => cases (attached.sent statement).mp (by rw [connection]; rfl)
  | received statement outcome => cases (attached.sent statement).mp (by rw [connection]; rfl)

/-- A request that ended without having sent an INSERT never adds a row. -/
theorem unsent_adds_nothing (reachable : (serviceMachine service).Reachable .initial pool) {position : Nat}
    {request : Request} {history : List (Event serviceInterface)} {response : Response}
    (selected : pool.tasks[position]? = some ⟨request, history, .done response⟩)
    (unsent : ∀ id name email,
      (⟨.send (.insertUser id name email), .ok ()⟩ : Event serviceInterface) ∉ history)
    (steps : (serviceMachine service).Steps pool later) (user : User) :
    (position, user) ∉ later.shared.journal := by
  intro recorded
  have reachableLater := reachable.steps steps
  obtain ⟨id, name, email, executed, _⟩ := (consistent_reachable reachableLater).owners position user recorded
  have attached := attached_reachable reachableLater (Machine.steps_finished steps selected)
  exact unsent id name email ((attached.sent _).mp (Connection.statement?_of_outcome? executed))

/-- Nor does a request whose statement the server answered with an error. -/
theorem refused_adds_nothing (reachable : (serviceMachine service).Reachable .initial pool) {position : Nat}
    {task : Task serviceInterface Request Response} (selected : pool.tasks[position]? = some task)
    {statement : Statement} {error : DatabaseError}
    (refused : (⟨.receive statement, .error (.database error)⟩ : Event serviceInterface) ∈ task.history)
    (steps : (serviceMachine service).Steps pool later) (user : User) :
    (position, user) ∉ later.shared.journal := by
  intro recorded
  have reachableLater := reachable.steps steps
  obtain ⟨id, name, email, executed, _⟩ := (consistent_reachable reachableLater).owners position user recorded
  obtain ⟨after, found, _, new, extended, _⟩ := Machine.steps_extends steps selected
  have still : (⟨.receive statement, .error (.database error)⟩ : Event serviceInterface) ∈ after.history := by
    rw [extended]
    exact List.mem_append_left _ refused
  rcases (attached_reachable reachableLater found).received _ _ still with ⟨outcome, received, same⟩ | ⟨_, same⟩
  · rw [received] at executed
    cases executed
    cases same
  · cases same

end Reachable

/-- A statement that is under way is executed, and its answer comes in time. -/
theorem answered_performed (service : Request → ServiceProgram Response) {state : ServiceState} {position : Nat}
    {statement : Statement} {outcome : Outcome} {users : UsersTable}
    (sent : state.connections position = .sent statement) (executed : Executes statement state.users outcome users) :
    ∃ final, (serviceMachine service).Performed position state
      [⟨.deadline, false⟩, ⟨.receive statement, answerOf outcome⟩] final ∧ final.users = users ∧
      ∀ other ≠ position, final.connections other = state.connections other := by
  obtain ⟨served, serves, arrived, stored, others⟩ : ∃ served, Serves state served ∧
      served.connections position = .executed statement outcome ∧ served.users = users ∧
      ∀ other ≠ position, served.connections other = state.connections other :=
    ⟨_, .executes sent executed, Function.update_self _ _ _, rfl, fun _ different => Function.update_of_ne different _ _⟩
  have received : Performs position (.receive statement) served (answerOf outcome) _ := .receive arrived
  refine ⟨_, .environment serves (.reply (.deadline _ _) (.reply received (.nothing _))), stored, ?_⟩
  intro other different
  exact (received.other different).trans (others other different)

end TemplateServico
