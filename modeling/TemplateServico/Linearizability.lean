import TemplateServico.Interaction.Linear
import TemplateServico.Users

/-! The users API as one list of users that clients act on one after the other.

However requests overlap, there is an order of what the server did for them that
explains every definite response and that real time allows.
-/

set_option autoImplicit false

namespace TemplateServico

open Http Interaction Postgres

/-! ## One act at a time -/

/-- An act on the users with what it comes to. -/
inductive UsersAct where
  | create (user : User)
  | list (users : List User)
  | get (id : Uuid) (user? : Option User)

namespace UsersAct

inductive Legal : UsersAct → List User → List User → Prop where
  | create {users : List User} {user : User} : user.id ∉ users.map User.id → user.email ∉ users.map User.email →
      Legal (.create user) users (users ++ [user])
  | list {users listed : List User} : listed.Perm users → Legal (.list listed) users users
  | get (users : List User) (id : Uuid) : Legal (.get id (users.find? fun user => user.id = id)) users users

def response : UsersAct → Response
  | .create user => Handlers.intoResponse (.ok (.CREATED, user.toJson))
  | .list users => Handlers.intoResponse (.ok (.OK, .arr (users.map User.toJson)))
  | .get _ (some user) => Handlers.intoResponse (.ok (.OK, user.toJson))
  | .get id none => (AppError.notFound ("User with id '" ++ id.hyphenated ++ "' was not found")).intoResponse

/-- The act is what the request asks for. -/
def Asked (libs : Libraries) (request : Request) : UsersAct → Prop
  | .create user => endpointOf request = some .createUser ∧ ∃ payload name email id,
      libs.jsonPayload request.body = .ok payload ∧ Handlers.checkPayload payload = .ok (name, email) ∧
      Inserted id name email user
  | .list _ => endpointOf request = some .listUsers
  | .get id _ => ∃ segment, endpointOf request = some (.getUser segment) ∧ libs.pathUuid segment = .ok id

/-- The client is told of the act. HEAD requests are told its status only. -/
structure Told (act : UsersAct) (request : Request) (response : Response) : Prop where
  status : response.status = act.response.status
  body : request.method ≠ .head → response.body = act.response.body

end UsersAct

/-! ## What the server has done -/

/-- The act that a statement was once the server has answered it. -/
def actOf? : Statement → Outcome → Option UsersAct
  | .insertUser _ _ _, .ok [user] => some (.create user)
  | .selectUsers, .ok users => some (.list users)
  | .selectUser id, .ok users => some (.get id users.head?)
  | _, _ => none

def usersShown : Shown ServiceState (List User) UsersAct where
  object state := state.users.rows
  act? state position := (state.connections position).outcome?.bind fun (statement, outcome) => actOf? statement outcome

theorem legal_get {table : UsersTable} {id : Uuid} {users : List User}
    (perm : users.Perm (table.rows.filter fun user => decide (user.id = id))) :
    UsersAct.Legal (.get id users.head?) table.rows table.rows := by
  have found : users.head? = table.rows.find? fun user => user.id = id := by
    rw [← List.head?_filter]
    cases present : table.rows.filter fun user => decide (user.id = id) with
    | nil =>
      rw [present] at perm
      rw [List.perm_nil.mp perm]
    | cons user rest =>
      have member : user ∈ table.rows.filter fun user => decide (user.id = id) := by
        rw [present]
        exact List.mem_cons_self
      obtain ⟨inTable, same⟩ := List.mem_filter.mp member
      -- No other user has the id.
      rw [← of_decide_eq_true same, select_present inTable] at perm
      rw [List.perm_singleton.mp perm]
      rfl
  rw [found]
  exact .get _ _

theorem Serves.acts {state state' : ServiceState} (served : Serves state state') :
    Acts usersShown UsersAct.Legal state state' := by
  obtain ⟨position, statement, outcome, sent, connections, effect⟩ := served.cases
  have pending : usersShown.act? state position = none := by
    unfold usersShown
    dsimp only
    rw [sent]
    rfl
  have executed : usersShown.act? state' =
      Function.update (usersShown.act? state) position (actOf? statement outcome) := by
    funext other
    unfold usersShown
    dsimp only
    rw [connections]
    by_cases same : other = position
    · rw [same, Function.update_self, Function.update_self]
      rfl
    · rw [Function.update_of_ne same, Function.update_of_ne same]
  have acting {act : UsersAct} (same : actOf? statement outcome = some act)
      (legal : act.Legal state.users.rows state'.users.rows) : Acts usersShown UsersAct.Legal state state' := by
    rw [same] at executed
    exact .acts pending executed legal
  rcases effect with ⟨id, name, email, user, isInsert, returned, _, added, _⟩ | ⟨unchanged, _, answers⟩
  · rw [isInsert, returned] at acting
    apply acting rfl
    obtain ⟨rows, _, free⟩ := Relational.Table.insert_ok added
    rw [Relational.Table.conflict?_eq_none] at free
    rw [rows]
    refine .create (fun taken => ?_) (free .email (by simp [usersSchema]))
    obtain ⟨other, member, same⟩ := List.mem_map.mp taken
    exact free .primaryKey (by simp [usersSchema]) (List.mem_map.mpr ⟨other, member, congrArg Uuid.hyphenated same⟩)
  · rw [unchanged] at acting
    -- Without an answer nothing was done.
    have resting (nothing : actOf? statement outcome = none) : Acts usersShown UsersAct.Legal state state' := by
      refine .rests (congrArg Relational.Table.rows unchanged) fun other => ?_
      rw [executed, nothing, ← pending, Function.update_eq_self]
    cases outcome with
    | error error =>
      apply resting
      cases statement <;> rfl
    | ok rows =>
      rcases answers rows rfl with ⟨same, _⟩ | ⟨same, perm⟩ | ⟨id, same, perm⟩
      · rw [same] at resting
        exact resting rfl
      · rw [same] at acting
        exact acting rfl (.list perm)
      · rw [same] at acting
        exact acting rfl (legal_get perm)

theorem service_atomic (service : Request → ServiceProgram Response) :
    (serviceMachine service).Atomic usersShown UsersAct.Legal where
  perform := by
    intro position op state reply state' performed
    obtain ⟨users, _, outcomes⟩ := Performs.frame performed
    refine .rests (congrArg Relational.Table.rows users) fun other => ?_
    unfold usersShown
    dsimp only
    rw [outcomes]
  environment := Serves.acts

/-! ## What requests ask for -/

/-- A request asks its statement of the database, and no other request does. -/
def Asks (libs : Libraries) (request : Request) : Statement → Prop
  | .selectOne => endpointOf request = some .healthCheck
  | .insertUser _ name email => endpointOf request = some .createUser ∧
    ∃ payload, libs.jsonPayload request.body = .ok payload ∧ Handlers.checkPayload payload = .ok (name, email)
  | .selectUsers => endpointOf request = some .listUsers
  | .selectUser id => ∃ segment, endpointOf request = some (.getUser segment) ∧ libs.pathUuid segment = .ok id

def ServiceOp.statement? : ServiceOp → Option Statement
  | .send statement | .receive statement => some statement
  | _ => none

abbrev Asking (libs : Libraries) (request : Request) (op : ServiceOp) : Prop :=
  ∀ statement, op.statement? = some statement → Asks libs request statement

section Runs

variable {libs : Libraries} {state : AppState} {service : Request → ServiceProgram Response} {request : Request}

theorem asking_quiet {op : ServiceOp} (quiet : op.statement? = none) : Asking libs request op := by
  intro statement same
  rw [quiet] at same
  cases same

theorem asking_query {op : ServiceOp} {statement : Statement} (asked : op.statement? = some statement)
    (asks : Asks libs request statement) : Asking libs request op := by
  intro other same
  cases asked.symm.trans same
  exact asks

theorem onQuery_asking {point : Point} {statement : Statement} (asks : Asks libs request statement)
    {answered : Except SqlxError (List User) → Handlers.AppResult (StatusCode × Json)} :
    (Handlers.onQuery point statement answered).Performs (Asking libs request) :=
  Handlers.onQuery_performs (asking_quiet rfl) (asking_query rfl asks) (asking_query rfl asks)

theorem Route.serve_asking {route : Route} (known : Route.find request.uri.path = some route) :
    (route.serve libs request).Performs (Asking libs request) := by
  unfold Route.serve
  cases served : route.endpoint request.method with
  | none => trivial
  | some endpoint =>
  have target : endpointOf request = some endpoint := by
    rw [endpointOf, known]
    exact served
  cases endpoint with
  | documentation => trivial
  | metrics => exact ⟨asking_quiet rfl, fun _ => trivial⟩
  | healthCheck =>
    have asks : Asks libs request .selectOne := target
    exact Program.performs_map (onQuery_asking asks)
  | listUsers =>
    have asks : Asks libs request .selectUsers := target
    exact Program.performs_map (onQuery_asking asks)
  | getUser segment =>
    apply Program.performs_map
    unfold Handlers.getUsersById Handlers.appPath
    cases read : libs.pathUuid segment with
    | error text => trivial
    | ok id =>
      have asks : Asks libs request (.selectUser id) := ⟨segment, target, read⟩
      exact onQuery_asking asks
  | createUser =>
    apply Program.performs_map
    apply Program.performs_bind_returns (Handlers.appJson_performs (asking_quiet rfl))
      (Handlers.appJson_returns libs request)
    intro result extracted
    rcases extracted with ⟨detail, same⟩ | ⟨payload, read, same⟩
    · rw [same]
      trivial
    · rw [same]
      apply Handlers.createUser_performs (asking_quiet rfl) (asking_quiet rfl)
      intro id name email checked
      have asks : Asks libs request (.insertUser id name email) := ⟨target, payload, read, checked⟩
      exact ⟨asking_query rfl asks, asking_query rfl asks⟩

theorem routes_asking : (routes libs state request).Performs (Asking libs request) := by
  unfold routes
  cases known : Route.find request.uri.path with
  | none => trivial
  | some route =>
    dsimp only
    split
    · refine jwtAuthMiddleware_performs (fun op decides => asking_quiet ?_) (asking_quiet rfl) (Route.serve_asking known)
      rcases decides with ⟨inner, same⟩ | same
      · rw [same]
        rfl
      · rw [same]
        rfl
    · exact Route.serve_asking known

theorem sent_asks (built : createRouter libs state = some service) {history : List (Event serviceInterface)}
    {rest : ServiceProgram Response} (reached : (service request).Reaches history rest) {statement : Statement}
    {reply : Except SqlxError Unit} (member : (⟨.send statement, reply⟩ : Event serviceInterface) ∈ history) :
    Asks libs request statement := by
  obtain ⟨notPreflight, _⟩ := permitted_history built reached (by nofun) member
  obtain ⟨_, _, _, followed, _⟩ := createRouter_routes built notPreflight reached
  exact (followed.performs routes_asking).1 _ ((mem_untimed (by nofun)).mpr member) statement rfl

end Runs

/-! ## What clients are told -/

/-- What the users handlers make of the answer to each of their statements. -/
inductive Rendering :
    Statement → (Except SqlxError (List User) → Handlers.AppResult (StatusCode × Json)) → Prop where
  | created (id : Uuid) (name email : String) : Rendering (.insertUser id name email) Handlers.created
  | listed : Rendering .selectUsers Handlers.listed
  | found (id : Uuid) : Rendering (.selectUser id) (Handlers.found id)

section Rendering

variable {statement : Statement} {answered : Except SqlxError (List User) → Handlers.AppResult (StatusCode × Json)}

theorem Rendering.failed (rendering : Rendering statement answered) (error : SqlxError) :
    answered (.error error) = .error (.database error) := by
  cases rendering <;> rfl

theorem Rendering.told (rendering : Rendering statement answered) {rows : List User} {act : UsersAct}
    (done : actOf? statement (.ok rows) = some act) : Handlers.intoResponse (answered (.ok rows)) = act.response := by
  cases rendering with
  | created id name email =>
    match rows, done with
    | [user], rfl => rfl
  | listed =>
    cases done
    rfl
  | found id =>
    cases done
    cases rows <;> rfl

theorem Rendering.status_ne (rendering : Rendering statement answered) (answer : Except SqlxError (List User)) :
    (Handlers.intoResponse (answered answer)).status ≠ .BAD_REQUEST ∧
      (Handlers.intoResponse (answered answer)).status ≠ .UNAUTHORIZED := by
  have database (error : SqlxError) : (AppError.database error).intoResponse.status ≠ .BAD_REQUEST ∧
      (AppError.database error).intoResponse.status ≠ .UNAUTHORIZED := by
    rw [AppError.intoResponse_status]
    rcases AppError.database_status error with same | same
    · rw [same]
      decide
    · rw [same]
      decide
  cases answer with
  | error error =>
    rw [rendering.failed]
    exact database error
  | ok rows =>
    cases rendering with
    | created id name email =>
      cases rows with
      | nil => exact database .rowNotFound
      | cons user rest => exact ⟨show StatusCode.CREATED ≠ _ by decide, show StatusCode.CREATED ≠ _ by decide⟩
    | listed => exact ⟨show StatusCode.OK ≠ _ by decide, show StatusCode.OK ≠ _ by decide⟩
    | found id =>
      cases rows with
      | nil => exact ⟨show StatusCode.NOT_FOUND ≠ _ by decide, show StatusCode.NOT_FOUND ≠ _ by decide⟩
      | cons user rest => exact ⟨show StatusCode.OK ≠ _ by decide, show StatusCode.OK ≠ _ by decide⟩

end Rendering

section Told

variable {libs : Libraries} {state : AppState} {service : Request → ServiceProgram Response} {request : Request}
  {endpoint : Endpoint}

/-- A users handler blames the request and asks for nothing, or its response is what it
makes of the answer to one query. -/
theorem users_complete (users : endpoint.isUsers = true) {history : List (Event serviceInterface)} {own : Response}
    (reached : (endpoint.serve libs request).Reaches history (.done own)) :
    ((∃ detail, own = (AppError.badRequest detail).intoResponse) ∧ ∀ event ∈ history, Handlers.Local event.1) ∨
    ∃ statement answered before asked answer, Rendering statement answered ∧ history = before ++ asked ∧
      (∀ event ∈ before, Handlers.Local event.1) ∧ (Handlers.query statement).Reaches asked (.done answer) ∧
      own = Handlers.intoResponse (answered answer) := by
  have entered (point : Point) : ∀ event ∈ [passed point], Handlers.Local event.1 := by
    intro event member
    rw [List.mem_singleton.mp member]
    exact Handlers.local_of nofun nofun
  cases endpoint with
  | documentation => cases users
  | healthCheck => cases users
  | metrics => cases users
  | createUser =>
    obtain ⟨result, handled, same⟩ := Program.reaches_map_done.mp reached
    rcases Handlers.postUsers_complete handled with
      ⟨⟨detail, refused⟩, quiet⟩ | ⟨_, name, email, id, before, answer, asked, _, _, split, quiet, queried, made⟩
    · exact .inl ⟨⟨detail, by rw [← same, refused]; rfl⟩, quiet⟩
    · exact .inr ⟨_, _, before, asked, answer, .created id name email, split, quiet, queried, by rw [← same, made]⟩
  | listUsers =>
    obtain ⟨result, handled, same⟩ := Program.reaches_map_done.mp reached
    obtain ⟨asked, answer, split, queried, made⟩ := Handlers.onQuery_complete handled
    exact .inr ⟨_, _, [passed .listUsers], asked, answer, .listed, split, entered _, queried, by rw [← same, made]⟩
  | getUser segment =>
    obtain ⟨result, handled, same⟩ := Program.reaches_map_done.mp reached
    rcases Handlers.getUsersById_complete handled with
      ⟨⟨detail, refused⟩, empty⟩ | ⟨id, asked, answer, _, split, queried, made⟩
    · refine .inl ⟨⟨detail, by rw [← same, refused]; rfl⟩, ?_⟩
      rw [empty]
      nofun
    · exact .inr ⟨_, _, [passed .getUser], asked, answer, .found id, split, entered _, queried, by rw [← same, made]⟩

/-- A response that says what was done. -/
def Definite (response : Response) : Prop := ¬ response.status.isError ∨ response.status = .NOT_FOUND

theorem definite_created {response : Response} (created : response.status = .CREATED) : Definite response := by
  rw [Definite, created]
  decide

theorem definite_ok {response : Response} (succeeded : response.status = .OK) : Definite response := by
  rw [Definite, succeeded]
  decide

theorem Definite.ne {response : Response} (definite : Definite response) {status : StatusCode}
    (error : status.isError) (different : status ≠ .NOT_FOUND) : response.status ≠ status := by
  intro same
  rw [Definite, same] at definite
  exact definite.elim (absurd error) different

theorem definite_complete (built : createRouter libs state = some service)
    (target : endpointOf request = some endpoint) (users : endpoint.isUsers = true)
    {history : List (Event serviceInterface)} {response : Response}
    (reached : (service request).Reaches history (.done response)) (definite : Definite response) :
    ∃ statement answered rows, Rendering statement answered ∧
      (⟨.receive statement, .ok rows⟩ : Event serviceInterface) ∈ history ∧
      response.status = (Handlers.intoResponse (answered (.ok rows))).status ∧
      (request.method ≠ .head → response.body = (Handlers.intoResponse (answered (.ok rows))).body) := by
  rcases endpoint_runs built target users reached with
    ⟨_, refused⟩ | ⟨later, inner, handled, within, _, outcome⟩
  · rcases refused response rfl with timedOut | unauthorized
    · exact absurd (timedOut_status built reached timedOut) (definite.ne (by decide) (by decide))
    · exact absurd unauthorized (definite.ne (by decide) (by decide))
  rcases outcome with ⟨_, ended⟩ | ⟨timedOut, _⟩
  swap
  · exact absurd (timedOut_status built reached timedOut) (definite.ne (by decide) (by decide))
  obtain ⟨own, same, status, body⟩ := ended response rfl
  rw [same] at handled
  rcases users_complete users handled with
    ⟨⟨detail, refused⟩, _⟩ | ⟨statement, answered, before, asked, answer, rendering, split, _, queried, made⟩
  · rw [refused, AppError.intoResponse_status] at status
    change response.status = .BAD_REQUEST at status
    exact absurd status (definite.ne (by decide) (by decide))
  cases answer with
  | error error =>
    rw [made, rendering.failed] at status
    change response.status = (AppError.database error).intoResponse.status at status
    rw [AppError.intoResponse_status] at status
    rcases AppError.database_status error with conflict | failure
    · exact absurd (status.trans conflict) (definite.ne (by decide) (by decide))
    · exact absurd (status.trans failure) (definite.ne (by decide) (by decide))
  | ok rows =>
    rcases Handlers.query_complete queried with ⟨_, _, failed⟩ | complete
    · cases failed
    · refine ⟨statement, answered, rows, rendering, within _ ?_, by rw [status, made], fun notHead => ?_⟩
      · rw [split, complete]
        simp
      · rw [body notHead, made]

theorem blamed_unsent (built : createRouter libs state = some service)
    (target : endpointOf request = some endpoint) (users : endpoint.isUsers = true)
    {history : List (Event serviceInterface)} {response : Response}
    (reached : (service request).Reaches history (.done response))
    (blamed : response.status = .BAD_REQUEST ∨ response.status = .UNAUTHORIZED) (statement : Statement) :
    (⟨.send statement, .ok ()⟩ : Event serviceInterface) ∉ history := by
  intro sent
  rcases endpoint_runs built target users reached with ⟨quiet, _⟩ | ⟨later, inner, handled, _, seen, outcome⟩
  · exact (quiet _ sent statement).1 rfl
  rcases outcome with ⟨_, ended⟩ | ⟨timedOut, _⟩
  swap
  · rw [timedOut_status built reached timedOut] at blamed
    revert blamed
    decide
  obtain ⟨own, same, status, _⟩ := ended response rfl
  rw [same] at handled
  have asked := (seen _ sent).resolve_left fun isLocal => (isLocal statement).1 rfl
  rcases users_complete users handled with ⟨_, quiet⟩ | ⟨_, answered, _, _, answer, rendering, _, _, _, made⟩
  · exact (quiet _ asked statement).1 rfl
  · rw [made] at status
    obtain ⟨notBad, notUnauthorized⟩ := rendering.status_ne answer
    exact blamed.elim (fun bad => notBad (status.symm.trans bad))
      fun unauthorized => notUnauthorized (status.symm.trans unauthorized)

end Told

/-! ## The order of what was done -/

/-- An order of acts that explains the table and the responses. Requests that are under
way or have failed may or may not have acted. -/
structure Linearizes (libs : Libraries) (pool : Pool serviceInterface ServiceState Request Response)
    (log : List (Nat × UsersAct)) : Prop where
  replays : Replays UsersAct.Legal [] (log.map Prod.snd) pool.shared.users.rows
  positions : (log.map Prod.fst).Nodup
  asked : ∀ position act, (position, act) ∈ log →
    ∃ task, pool.tasks[position]? = some task ∧ act.Asked libs task.job
  told : ∀ position request history response endpoint, Answered pool position request history response →
    endpointOf request = some endpoint → endpoint.isUsers = true → Definite response →
    ∃ act, (position, act) ∈ log ∧ act.Told request response
  blamed : ∀ position request history response endpoint, Answered pool position request history response →
    endpointOf request = some endpoint → endpoint.isUsers = true →
    response.status = .BAD_REQUEST ∨ response.status = .UNAUTHORIZED → ∀ act, (position, act) ∉ log

/-- Requests that the router serves over a database that keeps its word. -/
structure Genuine (libs : Libraries) (pool : Pool serviceInterface ServiceState Request Response) : Prop where
  consistent : Consistent pool.shared
  attached : ∀ position, Attached pool.shared position (pool.historyAt position)
  served : ∀ (position : Nat) (task : Task serviceInterface Request Response), pool.tasks[position]? = some task →
    ∃ state service, createRouter libs state = some service ∧ (service task.job).Reaches task.history task.program

section Genuine

variable {libs : Libraries} {pool : Pool serviceInterface ServiceState Request Response} {log : List (Nat × UsersAct)}

theorem Genuine.of_reachable {state : AppState} {service : Request → ServiceProgram Response}
    (built : createRouter libs state = some service) (reachable : (serviceMachine service).Reachable .initial pool) :
    Genuine libs pool :=
  ⟨consistent_reachable reachable, (attached_linked service).reachable attached_initial reachable,
    fun _ _ selected => ⟨state, service, built, reachable.reaches selected⟩⟩

theorem Genuine.act_sent (genuine : Genuine libs pool) {position : Nat} {act : UsersAct}
    (acted : usersShown.act? pool.shared position = some act) :
    ∃ statement outcome task, (pool.shared.connections position).outcome? = some (statement, outcome) ∧
      actOf? statement outcome = some act ∧ pool.tasks[position]? = some task ∧
      (⟨.send statement, .ok ()⟩ : Event serviceInterface) ∈ task.history := by
  obtain ⟨⟨statement, outcome⟩, executed, done⟩ := Option.bind_eq_some_iff.mp acted
  have sent := ((genuine.attached position).sent _).mp (Connection.statement?_of_outcome? executed)
  unfold Pool.historyAt at sent
  split at sent
  next task selected => exact ⟨statement, outcome, task, executed, done, selected, sent⟩
  next => cases sent

theorem Genuine.act_asked (genuine : Genuine libs pool) {position : Nat} {act : UsersAct}
    (acted : usersShown.act? pool.shared position = some act) :
    ∃ task, pool.tasks[position]? = some task ∧ act.Asked libs task.job := by
  obtain ⟨statement, outcome, task, executed, done, selected, sent⟩ := genuine.act_sent acted
  refine ⟨task, selected, ?_⟩
  obtain ⟨_, _, built, reached⟩ := genuine.served position task selected
  have asks := sent_asks built reached sent
  match statement, outcome, done with
  | .insertUser id name email, .ok [user], rfl =>
    obtain ⟨creates, payload, read, checked⟩ := asks
    obtain ⟨row, single, recorded⟩ := genuine.consistent.inserts _ _ _ _ _ executed
    obtain ⟨_, _, _, executed', inserted⟩ := genuine.consistent.owners _ _ recorded
    cases single
    cases executed.symm.trans executed'
    exact ⟨creates, payload, name, email, id, read, checked, inserted⟩
  | .selectUsers, .ok users, rfl => exact asks
  | .selectUser id, .ok users, rfl => exact asks

theorem Genuine.acts (genuine : Genuine libs pool) {statement : Statement}
    {answered : Except SqlxError (List User) → Handlers.AppResult (StatusCode × Json)}
    (rendering : Rendering statement answered) {position : Nat} {rows : List User}
    (executed : (pool.shared.connections position).outcome? = some (statement, .ok rows)) :
    ∃ act, actOf? statement (.ok rows) = some act := by
  cases rendering with
  | created id name email =>
    obtain ⟨user, single, _⟩ := genuine.consistent.inserts _ _ _ _ _ executed
    rw [single]
    exact ⟨_, rfl⟩
  | listed => exact ⟨_, rfl⟩
  | found id => exact ⟨_, rfl⟩

theorem Linearizes.of_records (genuine : Genuine libs pool)
    (records : Records usersShown UsersAct.Legal [] pool.shared log) : Linearizes libs pool log := by
  refine ⟨records.replays, records.positions, ?_, ?_, ?_⟩
  · intro position act member
    exact genuine.act_asked ((records.entries position act).mp member)
  · intro position request history response endpoint answered target users definite
    obtain ⟨_, _, built, reached⟩ := genuine.served position _ answered
    obtain ⟨statement, rendered, rows, rendering, received, status, body⟩ :=
      definite_complete built target users reached definite
    have attached := Machine.historyAt_of_task answered ▸ genuine.attached position
    have executed := received_outcome attached received
    obtain ⟨act, done⟩ := genuine.acts rendering executed
    rw [rendering.told done] at status body
    refine ⟨act, (records.entries position act).mpr ?_, status, body⟩
    exact Option.bind_eq_some_iff.mpr ⟨_, executed, done⟩
  · intro position request history response endpoint answered target users blamed act member
    obtain ⟨statement, _, task, _, _, selected, sent⟩ := genuine.act_sent ((records.entries position act).mp member)
    cases answered.symm.trans selected
    obtain ⟨_, _, built, reached⟩ := genuine.served position _ answered
    exact blamed_unsent built target users reached blamed statement sent

end Genuine

section Runs

variable {libs : Libraries} {state : AppState} {service : Request → ServiceProgram Response}

/-- In every run there is one growing order of acts which explains the table and the
responses at each moment. What was done before a request came stands before what is
done for that request. -/
theorem users_linearizable (built : createRouter libs state = some service)
    (run : (serviceMachine service).Run .initial) :
    ∃ logs : Nat → List (Nat × UsersAct), (∀ moment, Linearizes libs (run.pool moment) (logs moment)) ∧
      (∀ early late, early ≤ late → logs early <+: logs late) ∧
      ∀ early late first second, early ≤ late → first ∈ logs early → second ∈ logs late →
        (run.pool early).tasks.length ≤ second.1 → [first, second].Sublist (logs late) := by
  obtain ⟨logs, records, grows⟩ := run.recorded (service_atomic service) fun _ => rfl
  have explains (moment : Nat) : Linearizes libs (run.pool moment) (logs moment) :=
    .of_records (.of_reachable built (run.reachable moment)) (records moment)
  refine ⟨logs, explains, grows, fun early late first second ordered before after fresh => ?_⟩
  apply Records.precedes (grows early late ordered) before after
  intro member
  -- The request of an entry has come already.
  obtain ⟨task, selected, _⟩ := (explains early).asked second.1 second.2 member
  rw [List.getElem?_eq_none fresh] at selected
  cases selected

end Runs

theorem created_user_in_order : ∃ (run : (serviceMachine exampleService).Run .initial) (moment : Nat)
    (log : List (Nat × UsersAct)), Linearizes exampleLibraries (run.pool moment) log ∧
    ∃ act, (0, act) ∈ log ∧ act.response.status = .CREATED := by
  obtain ⟨response, reached, status⟩ := created_reached
  obtain ⟨final, performed, _⟩ := created_performed
  obtain ⟨run, moment, same⟩ := (Machine.reachable_alone reached performed).run
  obtain ⟨logs, explains, _⟩ := users_linearizable exampleService_built run
  have answered : Answered (run.pool moment) 0 creating createdHistory response := by
    rw [same]
    rfl
  obtain ⟨act, member, told⟩ := (explains moment).told 0 _ _ _ .createUser answered rfl rfl (definite_created status)
  exact ⟨run, moment, logs moment, explains moment, act, member, told.status.symm.trans status⟩

end TemplateServico
