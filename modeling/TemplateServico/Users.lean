import TemplateServico.Creation

/-! The users table over whole runs, and what clients read from it. -/

set_option autoImplicit false

namespace TemplateServico

open Http Interaction Postgres Relational

/-! ## What is in the table -/

/-- A user that the API lets in. -/
structure Acceptable (user : User) : Prop where
  name : user.name ≠ ""
  trimmed : Text.Trimmed user.name
  address : '@' ∈ user.email.toList

structure WellFormed (table : UsersTable) : Prop where
  ids : (table.rows.map User.id).Nodup
  emails : (table.rows.map User.email).Nodup
  users : ∀ user ∈ table.rows, Acceptable user

theorem acceptable_inserted {payload : CreateUserPayload} {id : Uuid} {name email : String} {user : User}
    (checked : Handlers.checkPayload payload = .ok (name, email)) (inserted : Inserted id name email user) :
    Acceptable user := by
  obtain ⟨trim, nonempty, _, address⟩ := Handlers.checkPayload_ok checked
  have trimmed : Text.Trimmed name := by
    rw [trim]
    exact Text.trimmed_trim _
  -- The name is stored as it was trimmed. Of the email only spaces can be lost.
  have same := stored_trimmed trimmed inserted.name
  constructor
  · rw [same]
    exact nonempty
  · rw [same]
    exact trimmed
  · exact stored_keeps inserted.email address (by decide)

section Runs

variable {libs : Libraries} {state : AppState} {service : Request → ServiceProgram Response}
  {request : Request} {history : List (Event serviceInterface)}

theorem sent_issues (built : createRouter libs state = some service) {rest : ServiceProgram Response}
    (reached : (service request).Reaches history rest) {statement : Statement} {reply : Except SqlxError Unit}
    (member : (⟨.send statement, reply⟩ : Event serviceInterface) ∈ history) : Issues libs request statement := by
  obtain ⟨_, permitted⟩ := permitted_history built reached (by nofun) member
  exact permitted.issued statement (.inl rfl)

variable {pool later : Pool serviceInterface ServiceState Request Response}

theorem journal_accepted (built : createRouter libs state = some service)
    (reachable : (serviceMachine service).Reachable .initial pool) {position : Nat} {user : User}
    (member : (position, user) ∈ pool.shared.journal) : Acceptable user := by
  obtain ⟨id, name, email, executed, inserted⟩ := (consistent_reachable reachable).owners position user member
  have attached := (attached_linked service).reachable attached_initial reachable position
  have sent := (attached.sent _).mp (Connection.statement?_of_outcome? executed)
  unfold Pool.historyAt at sent
  split at sent
  next task selected =>
    obtain ⟨_, payload, _, checked⟩ := sent_issues built (reachable.reaches selected) sent
    exact acceptable_inserted checked inserted
  next => cases sent

theorem wellFormed_reachable (built : createRouter libs state = some service)
    (reachable : (serviceMachine service).Reachable .initial pool) : WellFormed pool.shared.users := by
  refine ⟨ids_distinct _, emails_distinct _, ?_⟩
  intro user member
  rw [(consistent_reachable reachable).rows] at member
  obtain ⟨⟨position, row⟩, recorded, same⟩ := List.mem_map.mp member
  cases same
  exact journal_accepted built reachable recorded

/-! ## What clients are told -/

variable {response : Response}

theorem list_complete (built : createRouter libs state = some service)
    (lists : endpointOf request = some .listUsers) (reached : (service request).Reaches history (.done response))
    (succeeded : response.status = .OK) :
    ∃ users, (⟨.receive .selectUsers, .ok users⟩ : Event serviceInterface) ∈ history ∧
      (request.method ≠ .head → response.body = .json (.arr (users.map User.toJson))) := by
  have notError : ¬ response.status.isError := by
    rw [succeeded]
    exact StatusCode.ok_not_error
  have onTime := onTime_of_success built reached notError
  rcases endpoint_runs built lists rfl reached with
    ⟨_, refused⟩ | ⟨later, inner, handled, within, _, outcome⟩
  · rcases refused response rfl with timedOut | unauthorized
    · exact absurd timedOut onTime
    · rw [unauthorized] at notError
      exact absurd (by decide) notError
  rcases outcome with ⟨_, ended⟩ | ⟨timedOut, _⟩
  swap
  · exact absurd timedOut onTime
  obtain ⟨own, same, status, body⟩ := ended response rfl
  rw [same] at handled
  obtain ⟨result, handled, response'⟩ := Program.reaches_map_done.mp handled
  obtain ⟨asked, answer, split, queried, listed⟩ := Handlers.onQuery_complete handled
  cases answer with
  | error error =>
    rw [status, ← response', listed] at notError
    exact absurd (AppError.intoResponse_isError _) notError
  | ok users =>
    rcases Handlers.query_complete queried with ⟨_, _, failed⟩ | answered
    · cases failed
    refine ⟨users, within _ ?_, fun notHead => ?_⟩
    · rw [split, answered]
      simp
    · rw [body notHead, ← response', listed]
      rfl

theorem get_complete (built : createRouter libs state = some service) {segment : String}
    (gets : endpointOf request = some (.getUser segment))
    (reached : (service request).Reaches history (.done response)) {statement : Statement} {rows : List User}
    (answered : (⟨.receive statement, .ok rows⟩ : Event serviceInterface) ∈ history) :
    ∃ id, libs.pathUuid segment = .ok id ∧ statement = .selectUser id ∧
      response.status = (Handlers.intoResponse (Handlers.found id (.ok rows))).status ∧
      (request.method ≠ .head → response.body = (Handlers.intoResponse (Handlers.found id (.ok rows))).body) := by
  rcases endpoint_runs built gets rfl reached with
    ⟨quiet, _⟩ | ⟨later, inner, handled, _, seen, outcome⟩
  · exact absurd rfl (quiet _ answered statement).2
  have received := (seen _ answered).resolve_left fun isLocal => (isLocal statement).2 rfl
  rcases outcome with ⟨_, ended⟩ | ⟨_, op, next, waiting⟩
  swap
  · -- After the answer nothing waits any more, so the time cannot run out.
    obtain ⟨middle, handled, same⟩ := Program.reaches_map.mp handled
    rw [waiting] at same
    cases middle with
    | done result => cases same
    | call op' next' => exact absurd received (Handlers.getUsersById_waiting handled statement _)
  obtain ⟨own, same, status, body⟩ := ended response rfl
  rw [same] at handled
  obtain ⟨result, handled, response'⟩ := Program.reaches_map_done.mp handled
  rcases Handlers.getUsersById_complete handled with ⟨_, empty⟩ | ⟨id, asked, answer, read, split, queried, found⟩
  · rw [empty] at received
    cases received
  rw [split, List.mem_cons] at received
  rcases received with same | received
  · cases same
  rcases Handlers.query_complete queried with ⟨_, notSent, _⟩ | complete
  · rw [notSent, List.mem_singleton] at received
    cases received
  rw [complete, List.mem_cons, List.mem_singleton] at received
  rcases received with same | same
  · cases same
  · cases same
    refine ⟨id, read, rfl, ?_, fun notHead => ?_⟩
    · rw [status, ← response', found]
    · rw [body notHead, ← response', found]

theorem created_recorded (built : createRouter libs state = some service)
    (reachable : (serviceMachine service).Reachable .initial pool) {position : Nat}
    (selected : pool.tasks[position]? = some ⟨request, history, .done response⟩)
    (creates : endpointOf request = some .createUser) (succeeded : response.status = .CREATED) :
    ∃ payload name email id user, libs.jsonPayload request.body = .ok payload ∧
      Handlers.checkPayload payload = .ok (name, email) ∧ Inserted id name email user ∧
      response.body = .json user.toJson ∧ (position, user) ∈ pool.shared.journal := by
  have reached : (service request).Reaches history (.done response) := reachable.reaches selected
  have notError : ¬ response.status.isError := by
    rw [succeeded]
    exact StatusCode.created_not_error
  have onTime := onTime_of_success built reached notError
  rcases create_complete built creates onTime reached with
    ⟨_, failed⟩ | ⟨payload, name, email, id, answer, read, checked, answered, status, body⟩
  · exact absurd failed notError
  have failing (error : SqlxError) (refused : Handlers.created answer = .error (.database error)) : False := by
    rw [status, refused] at notError
    exact notError (AppError.intoResponse_isError _)
  rcases (attached_reachable reachable selected).received _ _ answered with
    ⟨outcome, received, same⟩ | ⟨display, same⟩
  swap
  · rw [same] at failing
    exact (failing _ rfl).elim
  cases outcome with
  | error error =>
    rw [same] at failing
    exact (failing _ rfl).elim
  | ok rows =>
    have executed : (pool.shared.connections position).outcome? = some (.insertUser id name email, .ok rows) := by
      rw [received]
      rfl
    obtain ⟨user, single, recorded⟩ := (consistent_reachable reachable).inserts _ _ _ _ _ executed
    obtain ⟨_, _, _, executed', inserted⟩ := (consistent_reachable reachable).owners _ _ recorded
    rw [executed] at executed'
    cases executed'
    refine ⟨payload, name, email, id, user, read, checked, inserted, ?_, recorded⟩
    rw [body, same]
    rfl

/-! ## What reads find -/

theorem Serves.rows_prefix {state state' : ServiceState} (served : Serves state state') :
    state.users.rows <+: state'.users.rows := by
  obtain ⟨position, statement, outcome, _, _, effect⟩ := served.cases
  rcases effect with ⟨_, _, _, user, _, _, _, added, _⟩ | ⟨unchanged, _⟩
  · exact ⟨[user], (Table.insert_ok added).1.symm⟩
  · rw [unchanged]

theorem rows_kept (service : Request → ServiceProgram Response) (base : List User) :
    (serviceMachine service).Kept fun state => base <+: state.users.rows where
  perform := by
    intro position op state reply state' kept performed
    rw [(Performs.frame performed).1]
    exact kept
  environment := fun kept served => kept.trans (Serves.rows_prefix served)

/-- Reads by requests from a position on find the rows of `base`, and only rows of
the table. -/
structure Reads (base : List User) (start : Nat) (state : ServiceState) : Prop where
  kept : base <+: state.users.rows
  listed : ∀ position, start ≤ position → ∀ users,
    (state.connections position).outcome? = some (.selectUsers, .ok users) →
    users.Nodup ∧ base ⊆ users ∧ users ⊆ state.users.rows
  found : ∀ position, start ≤ position → ∀ user ∈ base, ∀ users,
    (state.connections position).outcome? = some (.selectUser user.id, .ok users) → users = [user]

theorem Serves.reads {base : List User} {start : Nat} {state state' : ServiceState} (served : Serves state state')
    (reads : Reads base start state) : Reads base start state' := by
  have grown := served.rows_prefix
  obtain ⟨acting, statement, outcome, _, connections, effect⟩ := served.cases
  have own : (state'.connections acting).outcome? = some (statement, outcome) := by
    rw [connections, Function.update_self]
    rfl
  have others {position : Nat} (different : position ≠ acting) :
      (state'.connections position).outcome? = (state.connections position).outcome? := by
    rw [connections, Function.update_of_ne different]
  -- A read leaves the table alone and answers from it.
  have reading (isRead : ∀ id name email, statement ≠ .insertUser id name email) :
      state'.users = state.users ∧ ∀ rows, outcome = .ok rows →
        (statement = .selectOne ∧ rows = []) ∨ (statement = .selectUsers ∧ rows.Perm state.users.rows) ∨
        ∃ id, statement = .selectUser id ∧
          rows.Perm (state.users.rows.filter fun user => decide (user.id = id)) := by
    rcases effect with ⟨id, name, email, _, isInsert, _⟩ | ⟨unchanged, _, answers⟩
    · exact absurd isInsert (isRead id name email)
    · exact ⟨unchanged, answers⟩
  refine ⟨reads.kept.trans grown, ?_, ?_⟩
  · intro position later users executed
    by_cases same : position = acting
    · rw [same, own] at executed
      cases executed
      obtain ⟨unchanged, answers⟩ := reading (by nofun)
      rcases answers users rfl with ⟨other, _⟩ | ⟨_, perm⟩ | ⟨_, other, _⟩
      · cases other
      · rw [unchanged]
        have distinct := (perm.nodup_iff).mpr (List.Nodup.of_map _ (ids_distinct state.users))
        exact ⟨distinct, fun user member => perm.mem_iff.mpr (reads.kept.subset member), perm.subset⟩
      · cases other
    · rw [others same] at executed
      obtain ⟨distinct, all, only⟩ := reads.listed position later users executed
      exact ⟨distinct, all, List.Subset.trans only grown.subset⟩
  · intro position later user member users executed
    by_cases same : position = acting
    · rw [same, own] at executed
      cases executed
      obtain ⟨_, answers⟩ := reading (by nofun)
      rcases answers users rfl with ⟨other, _⟩ | ⟨other, _⟩ | ⟨id, same, perm⟩
      · cases other
      · cases other
      · cases same
        rw [select_present (reads.kept.subset member)] at perm
        exact List.perm_singleton.mp perm
    · rw [others same] at executed
      exact reads.found position later user member users executed

theorem reads_kept (service : Request → ServiceProgram Response) (base : List User) (start : Nat) :
    (serviceMachine service).Kept (Reads base start) where
  perform := by
    intro position op state reply state' reads performed
    obtain ⟨users, _, outcomes⟩ := Performs.frame performed
    refine ⟨by rw [users]; exact reads.kept, ?_, ?_⟩
    · intro other later rows executed
      rw [outcomes] at executed
      rw [users]
      exact reads.listed other later rows executed
    · intro other later user member rows executed
      rw [outcomes] at executed
      exact reads.found other later user member rows executed
  environment := fun reads served => Serves.reads served reads

/-- From any point on, requests that are still to come find the rows that are there. -/
theorem reads_reachable (reachable : (serviceMachine service).Reachable .initial pool)
    (steps : (serviceMachine service).Steps pool later) :
    Reads pool.shared.users.rows pool.tasks.length later.shared := by
  apply (reads_kept service _ _).steps steps
  refine ⟨List.prefix_refl _, ?_, ?_⟩
  · intro position fresh users executed
    rw [idle_reachable reachable fresh] at executed
    cases executed
  · intro position fresh user _ users executed
    rw [idle_reachable reachable fresh] at executed
    cases executed

theorem received_outcome {state : ServiceState} {position : Nat} (attached : Attached state position history)
    {statement : Statement} {rows : List User}
    (member : (⟨.receive statement, .ok rows⟩ : Event serviceInterface) ∈ history) :
    (state.connections position).outcome? = some (statement, .ok rows) := by
  rcases attached.received _ _ member with ⟨outcome, received, same⟩ | ⟨_, same⟩
  · cases outcome with
    | error error => cases same
    | ok answer =>
      cases same
      rw [received]
      rfl
  · cases same

/-! ## The users API -/

abbrev Answered (pool : Pool serviceInterface ServiceState Request Response) (position : Nat) (request : Request)
    (history : List (Event serviceInterface)) (response : Response) : Prop :=
  pool.tasks[position]? = some ⟨request, history, .done response⟩

/-- The users that a response lists. A HEAD request gets to see none of them. -/
def ListsUsers (request : Request) (response : Response) (users : List User) : Prop :=
  request.method ≠ .head → response.body = .json (.arr (users.map User.toJson))

/-- Requests that are still to come find a user. -/
structure ReadBack (libs : Libraries) (pool later : Pool serviceInterface ServiceState Request Response)
    (user : User) : Prop where
  present : user ∈ later.shared.users.rows
  found : ∀ position request history response segment, pool.tasks.length ≤ position →
    Answered later position request history response → endpointOf request = some (.getUser segment) →
    libs.pathUuid segment = .ok user.id →
    (∃ statement rows, (⟨.receive statement, .ok rows⟩ : Event serviceInterface) ∈ history) →
    response.status = .OK ∧ (request.method ≠ .head → response.body = .json user.toJson)
  listed : ∀ position request history response, pool.tasks.length ≤ position →
    Answered later position request history response → endpointOf request = some .listUsers →
    response.status = .OK → ∃ users, ListsUsers request response users ∧ users.count user = 1 ∧
      users ⊆ later.shared.users.rows

structure UsersContract (libs : Libraries) (service : Request → ServiceProgram Response)
    (pool : Pool serviceInterface ServiceState Request Response) : Prop where
  wellFormed : WellFormed pool.shared.users
  kept : ∀ later, (serviceMachine service).Steps pool later → pool.shared.users.rows <+: later.shared.users.rows
  listed : ∀ position request history response, Answered pool position request history response →
    endpointOf request = some .listUsers → response.status = .OK →
    ∃ users, ListsUsers request response users ∧ users.Nodup ∧ users ⊆ pool.shared.users.rows
  created : ∀ position request history response, Answered pool position request history response →
    endpointOf request = some .createUser → response.status = .CREATED →
    ∃ user, response.body = .json user.toJson ∧
      ∀ later, (serviceMachine service).Steps pool later → ReadBack libs pool later user
  invalid : ∀ position request history response, Answered pool position request history response →
    endpointOf request = some .createUser → response.status = .BAD_REQUEST →
    ∀ later, (serviceMachine service).Steps pool later → ∀ user, (position, user) ∉ later.shared.journal
  -- A unique violation is one of the errors that the server reports.
  refused : ∀ position task id name email error, pool.tasks[position]? = some task →
    (⟨.receive (.insertUser id name email), .error (.database error)⟩ : Event serviceInterface) ∈ task.history →
    ∀ later, (serviceMachine service).Steps pool later → ∀ user, (position, user) ∉ later.shared.journal
  single : ∀ first request history response payload second request' history' response' payload',
    Answered pool first request history response → Answered pool second request' history' response' →
    endpointOf request = some .createUser → endpointOf request' = some .createUser →
    response.status = .CREATED → response'.status = .CREATED →
    libs.jsonPayload request.body = .ok payload → libs.jsonPayload request'.body = .ok payload' →
    payload.email = payload'.email → first = second

theorem journaled_present (reachable : (serviceMachine service).Reachable .initial pool) {position : Nat}
    {user : User} (recorded : (position, user) ∈ pool.shared.journal) : user ∈ pool.shared.users.rows := by
  rw [(consistent_reachable reachable).rows]
  exact List.mem_map.mpr ⟨_, recorded, rfl⟩

theorem journal_owner (reachable : (serviceMachine service).Reachable .initial pool) {first second : Nat}
    {user : User} (inFirst : (first, user) ∈ pool.shared.journal)
    (inSecond : (second, user) ∈ pool.shared.journal) : first = second := by
  have distinct : (pool.shared.journal.map Prod.snd).Nodup := by
    rw [← (consistent_reachable reachable).rows]
    exact List.Nodup.of_map _ (ids_distinct _)
  exact congrArg Prod.fst (List.inj_on_of_nodup_map distinct inFirst inSecond rfl)

theorem readBack (built : createRouter libs state = some service)
    (reachable : (serviceMachine service).Reachable .initial pool)
    (steps : (serviceMachine service).Steps pool later) {user : User} (present : user ∈ pool.shared.users.rows) :
    ReadBack libs pool later user := by
  have reachableLater := reachable.steps steps
  have reads := reads_reachable reachable steps
  constructor
  · exact reads.kept.subset present
  · intro position request history response segment fresh answered gets sameId reachesDatabase
    obtain ⟨statement, rows, received⟩ := reachesDatabase
    obtain ⟨id, read, isSelect, status, body⟩ := get_complete built gets (reachableLater.reaches answered) received
    cases read.symm.trans sameId
    cases isSelect
    have executed := received_outcome (attached_reachable reachableLater answered) received
    rw [reads.found position fresh user present rows executed] at status body
    exact ⟨status, body⟩
  · intro position request history response fresh answered lists succeeded
    obtain ⟨users, received, body⟩ := list_complete built lists (reachableLater.reaches answered) succeeded
    have executed := received_outcome (attached_reachable reachableLater answered) received
    obtain ⟨distinct, all, only⟩ := reads.listed position fresh users executed
    exact ⟨users, body, List.count_eq_one_of_mem distinct (all present), only⟩

theorem listed_rows (built : createRouter libs state = some service)
    (reachable : (serviceMachine service).Reachable .initial pool) {position : Nat}
    (answered : Answered pool position request history response)
    (lists : endpointOf request = some .listUsers) (succeeded : response.status = .OK) :
    ∃ users, ListsUsers request response users ∧ users.Nodup ∧ users ⊆ pool.shared.users.rows := by
  obtain ⟨users, received, body⟩ := list_complete built lists (reachable.reaches answered) succeeded
  have executed := received_outcome (attached_reachable reachable answered) received
  have reads : Reads [] 0 pool.shared := by
    apply (reads_kept service [] 0).reachable reachable
    refine ⟨List.prefix_refl _, ?_, ?_⟩ <;> nofun
  obtain ⟨distinct, _, only⟩ := reads.listed position (Nat.zero_le _) users executed
  exact ⟨users, body, distinct, only⟩

theorem invalid_adds_nothing (built : createRouter libs state = some service)
    (reachable : (serviceMachine service).Reachable .initial pool) {position : Nat}
    (answered : Answered pool position request history response)
    (creates : endpointOf request = some .createUser) (invalid : response.status = .BAD_REQUEST)
    (steps : (serviceMachine service).Steps pool later) (user : User) :
    (position, user) ∉ later.shared.journal := by
  have reached : (service request).Reaches history (.done response) := reachable.reaches answered
  have onTime : ¬ TimedOut history := by
    intro timedOut
    cases invalid.symm.trans (timedOut_status built reached timedOut)
  rcases create_complete built creates onTime reached with ⟨unsent, _⟩ | ⟨_, _, _, _, answer, _, _, _, status, _⟩
  · exact unsent_adds_nothing reachable answered (fun _ _ _ => unsent _) steps user
  · exact absurd (status.symm.trans invalid) (Handlers.created_status answer)

/-- There is no check before the INSERT. The constraint alone lets only one of the
creations with an email succeed. -/
theorem created_once (built : createRouter libs state = some service)
    (reachable : (serviceMachine service).Reachable .initial pool) {first second : Nat}
    {request' : Request} {history' : List (Event serviceInterface)} {response' : Response}
    {payload payload' : CreateUserPayload}
    (answered : Answered pool first request history response)
    (answered' : Answered pool second request' history' response')
    (creates : endpointOf request = some .createUser) (creates' : endpointOf request' = some .createUser)
    (succeeded : response.status = .CREATED) (succeeded' : response'.status = .CREATED)
    (read : libs.jsonPayload request.body = .ok payload) (read' : libs.jsonPayload request'.body = .ok payload')
    (sameEmail : payload.email = payload'.email) : first = second := by
  obtain ⟨_, _, _, _, user, ownRead, checked, inserted, _, recorded⟩ :=
    created_recorded built reachable answered creates succeeded
  obtain ⟨_, _, _, _, user', ownRead', checked', inserted', _, recorded'⟩ :=
    created_recorded built reachable answered' creates' succeeded'
  cases ownRead.symm.trans read
  cases ownRead'.symm.trans read'
  have email := inserted.email
  rw [(Handlers.checkPayload_ok checked).2.2.1, sameEmail, ← (Handlers.checkPayload_ok checked').2.2.1,
    inserted'.email] at email
  -- One email, so one row, and a row is in the journal only once.
  have sameUser : user' = user := List.inj_on_of_nodup_map (emails_distinct _)
    (journaled_present reachable recorded') (journaled_present reachable recorded) (Except.ok.inj email)
  rw [sameUser] at recorded'
  exact journal_owner reachable recorded recorded'

/-- In every run, clients that create and read users at once see one consistent table. -/
theorem users_contract (built : createRouter libs state = some service)
    (reachable : (serviceMachine service).Reachable .initial pool) : UsersContract libs service pool := by
  constructor
  · exact wellFormed_reachable built reachable
  · intro later steps
    exact (rows_kept service _).steps steps (List.prefix_refl _)
  · intro position request history response answered lists succeeded
    exact listed_rows built reachable answered lists succeeded
  · intro position request history response answered creates succeeded
    obtain ⟨_, _, _, _, user, _, _, _, body, recorded⟩ := created_recorded built reachable answered creates succeeded
    exact ⟨user, body, fun later steps => readBack built reachable steps (journaled_present reachable recorded)⟩
  · intro position request history response answered creates invalid later steps
    exact invalid_adds_nothing built reachable answered creates invalid steps
  · intro position task id name email error selected refused later steps
    exact refused_adds_nothing reachable selected refused steps
  · intro first request history response payload second request' history' response' payload'
      answered answered' creates creates' succeeded succeeded' read read' sameEmail
    exact created_once built reachable answered answered' creates creates' succeeded succeeded' read read' sameEmail

end Runs

theorem creation_honours_contract : ∃ pool history response, Answered pool 0 creating history response ∧
    response.status = .CREATED ∧ UsersContract exampleLibraries exampleService pool := by
  obtain ⟨response, reached, status⟩ := created_reached
  obtain ⟨final, performed, _⟩ := created_performed
  have reachable := Machine.reachable_alone reached performed
  exact ⟨_, _, response, rfl, status, users_contract exampleService_built reachable⟩

end TemplateServico
