import TemplateServico.Gate

/-! What a creation that failed has left in the table. -/

set_option autoImplicit false

namespace TemplateServico

open Http Interaction Postgres

section Complete

variable {libs : Libraries} {state : AppState} {service : Request → ServiceProgram Response}
  {request : Request} {history : List (Event serviceInterface)} {response : Response}

/-- A creation that ends in time has sent nothing and failed, or its response is what
the answer to its one INSERT stands for. -/
theorem create_complete (built : createRouter libs state = some service)
    (creates : endpointOf request = some .createUser) (onTime : ¬ TimedOut history)
    (reached : (service request).Reaches history (.done response)) :
    ((∀ statement, (⟨.send statement, .ok ()⟩ : Event serviceInterface) ∉ history) ∧ response.status.isError) ∨
    ∃ payload name email id answer, libs.jsonPayload request.body = .ok payload ∧
      Handlers.checkPayload payload = .ok (name, email) ∧
      (⟨.receive (.insertUser id name email), answer⟩ : Event serviceInterface) ∈ history ∧
      response.status = (Handlers.intoResponse (Handlers.created answer)).status ∧
      response.body = (Handlers.intoResponse (Handlers.created answer)).body := by
  rcases endpoint_runs built creates rfl reached with
    ⟨quiet, refused⟩ | ⟨later, inner, handled, within, seen, outcome⟩
  · refine .inl ⟨fun statement member => (quiet _ member statement).1 rfl, ?_⟩
    rcases refused response rfl with timedOut | unauthorized
    · exact absurd timedOut onTime
    · rw [unauthorized]
      decide
  rcases outcome with ⟨_, ended⟩ | ⟨timedOut, _⟩
  swap
  · exact absurd timedOut onTime
  obtain ⟨own, same, status, body⟩ := ended response rfl
  rw [same] at handled
  obtain ⟨result, handled, response'⟩ := Program.reaches_map_done.mp handled
  have sends {statement : Statement} (member : (⟨.send statement, .ok ()⟩ : Event serviceInterface) ∈ history) :
      (⟨.send statement, .ok ()⟩ : Event serviceInterface) ∈ later :=
    (seen _ member).resolve_left fun isLocal => (isLocal statement).1 rfl
  rcases Handlers.postUsers_complete handled with ⟨⟨detail, refused⟩, quiet⟩ |
    ⟨payload, name, email, id, started, answer, asked, read, checked, split, quiet, queried, created⟩
  · refine .inl ⟨fun statement member => (quiet _ (sends member) statement).1 rfl, ?_⟩
    rw [status, ← response', refused]
    exact AppError.intoResponse_isError _
  -- Nothing is sent before the query.
  have fromAsked {statement : Statement} (member : (⟨.send statement, .ok ()⟩ : Event serviceInterface) ∈ history) :
      (⟨.send statement, .ok ()⟩ : Event serviceInterface) ∈ asked := by
    have sent := sends member
    rw [split] at sent
    exact (List.mem_append.mp sent).resolve_left fun early => (quiet _ early statement).1 rfl
  rcases Handlers.query_complete queried with ⟨error, notSent, failed⟩ | answered
  · refine .inl ⟨fun statement member => ?_, ?_⟩
    · have sent := fromAsked member
      rw [notSent, List.mem_singleton] at sent
      cases sent
    · rw [status, ← response', created, failed]
      exact AppError.intoResponse_isError _
  · right
    refine ⟨payload, name, email, id, answer, read, checked, within _ ?_, ?_, ?_⟩
    · rw [split, answered]
      simp
    · rw [status, ← response', created]
    · obtain ⟨route, _, served, _⟩ := endpoint_route creates
      have notHead : request.method ≠ .head := by
        intro isHead
        rw [isHead] at served
        cases route <;> cases served
      rw [body notHead, ← response', created]

/-- A creation that failed has added no row and never will, unless the time ran out
after its INSERT was sent or its connection failed while the answer was awaited. -/
theorem failed_creation_adds_nothing (built : createRouter libs state = some service)
    {pool later : Pool serviceInterface ServiceState Request Response}
    (reachable : (serviceMachine service).Reachable .initial pool) {position : Nat}
    (selected : pool.tasks[position]? = some ⟨request, history, .done response⟩)
    (creates : endpointOf request = some .createUser) (failed : response.status.isError)
    (timely : response.status = .REQUEST_TIMEOUT → ∀ id name email,
      (⟨.send (.insertUser id name email), .ok ()⟩ : Event serviceInterface) ∉ history)
    (connected : response.status = .CONFLICT ∨ response.status = .INTERNAL_SERVER_ERROR →
      ∀ id name email display,
      (⟨.receive (.insertUser id name email), .error (.other display)⟩ : Event serviceInterface) ∉ history)
    (steps : (serviceMachine service).Steps pool later) (user : User) :
    (position, user) ∉ later.shared.journal := by
  have reached : (service request).Reaches history (.done response) := reachable.reaches selected
  by_cases timedOut : TimedOut history
  · exact unsent_adds_nothing reachable selected (timely (timedOut_status built reached timedOut)) steps user
  rcases create_complete built creates timedOut reached with
    ⟨unsent, _⟩ | ⟨payload, name, email, id, answer, _, _, answered, status, _⟩
  · exact unsent_adds_nothing reachable selected (fun _ _ _ => unsent _) steps user
  rcases (attached_reachable reachable selected).received _ _ answered with
    ⟨outcome, received, same⟩ | ⟨display, same⟩
  · rw [same] at status answered
    cases outcome with
    | error error => exact refused_adds_nothing reachable selected answered steps user
    | ok rows =>
      -- An INSERT answers with its row, so the request did not fail.
      have executed : (pool.shared.connections position).outcome? = some (.insertUser id name email, .ok rows) := by
        rw [received]
        rfl
      obtain ⟨row, single, _⟩ := (consistent_reachable reachable).inserts _ _ _ _ _ executed
      rw [status, single] at failed
      exact absurd failed StatusCode.created_not_error
  · rw [same] at status answered
    change response.status = (AppError.database (.other display)).intoResponse.status at status
    rw [AppError.intoResponse_status] at status
    exact absurd answered (connected (status ▸ AppError.database_status _) id name email display)

end Complete

/-! ## A creation, and a list of the users -/

theorem insert_executes {table later : UsersTable} {id : Uuid} {name email : String} {now : DateTime} {user : User}
    (inserted : insertUser table id name email now = .ok (user, later)) :
    Executes (.insertUser id name email) table (.ok [user]) later := by
  have result : execute (.insertUser id name email) now table = (.ok [user], later) := by
    rw [execute, inserted]
  have runs : SameRows (execute (.insertUser id name email) now table).1 (.ok [user]) := by
    rw [result]
    exact .ok (List.Perm.refl _)
  have executed := Executes.runs now runs
  rw [result] at executed
  exact executed

def creating : Request :=
  { method := .post
    uri := ⟨"/users", "/users"⟩
    headers := (HeaderMap.empty.append "authorization" (HeaderValue.ofString "Bearer full")).append
      "content-type" (HeaderValue.ofString "application/json")
    body := examplePayload }

def exampleUser : User :=
  ⟨⟨"5f8c1f0e-4e9c-4d54-9d0c-8c2a1e7f3b61"⟩, "Ana", "ana@example.com", ⟨"2026-08-13T12:00:00Z"⟩,
    ⟨"2026-08-13T12:00:00Z"⟩⟩

def exampleInsert : Statement := .insertUser exampleUser.id "Ana" "ana@example.com"

def creatingHistory : List (Event serviceInterface) :=
  [⟨.deadline, false⟩, ⟨.jwks .readCache, none⟩,
   ⟨.deadline, false⟩, ⟨.jwks (.fetch exampleCache.url), .body keySetText⟩,
   ⟨.deadline, false⟩, ⟨.jwks (.writeCache keySetText), ()⟩,
   ⟨.clock, 1000⟩, passed .nextRun,
   ⟨.deadline, false⟩, ⟨.receiveBody, .ok ()⟩, passed .createUser, ⟨.newUuid, exampleUser.id⟩,
   ⟨.deadline, false⟩, ⟨.send exampleInsert, .ok ()⟩]

/-- The state that it leaves, with the INSERT still to be executed. -/
def creatingState : ServiceState :=
  { ServiceState.initial with
    cachedJson := some keySetText
    connections := Function.update ServiceState.initial.connections 0 (.sent exampleInsert) }

theorem creating_performed : (serviceMachine exampleService).Performed 0 .initial creatingHistory creatingState :=
  .reply (.deadline _ _) (.reply (.readCache _) (.reply (.deadline _ _) (.reply (.fetch _ _ _)
    (.reply (.deadline _ _) (.reply (.writeCache _ _) (.reply (.clock _ _) (.reply (.pass _ _)
    (.reply (.deadline _ _) (.reply (.receiveBody _ _) (.reply (.pass _ _) (.reply (.newUuid _ _)
    (.reply (.deadline _ _) (.reply (.send _ rfl) (.nothing _))))))))))))))

theorem creating_executed (cachedJson : Option String) : ∃ executed,
    Serves { creatingState with cachedJson := cachedJson } executed ∧ executed.users.rows = [exampleUser] ∧
    executed.connections = Function.update creatingState.connections 0 (.executed exampleInsert (.ok [exampleUser])) ∧
    executed.journal = [(0, exampleUser)] ∧ executed.cachedJson = cachedJson := by
  obtain ⟨users, inserted⟩ : ∃ users, insertUser creatingState.users exampleUser.id "Ana" "ana@example.com"
      exampleUser.createdAt = .ok (exampleUser, users) := ⟨_, rfl⟩
  have sent : creatingState.connections 0 = .sent exampleInsert := rfl
  exact ⟨_, .executes sent (insert_executes inserted), (Relational.Table.insert_ok (insertUser_ok inserted).2).1,
    rfl, rfl, rfl⟩

def createdHistory : List (Event serviceInterface) :=
  creatingHistory ++ [⟨.deadline, false⟩, ⟨.receive exampleInsert, .ok [exampleUser]⟩]

theorem created_performed : ∃ final, (serviceMachine exampleService).Performed 0 .initial createdHistory final ∧
    final.users.rows = [exampleUser] ∧ final.connections 1 = .idle := by
  obtain ⟨users, inserted⟩ : ∃ users, insertUser creatingState.users exampleUser.id "Ana" "ana@example.com"
      exampleUser.createdAt = .ok (exampleUser, users) := ⟨_, rfl⟩
  have sent : creatingState.connections 0 = .sent exampleInsert := rfl
  obtain ⟨final, answered, stored, others⟩ := answered_performed exampleService sent (insert_executes inserted)
  refine ⟨final, creating_performed.trans answered, ?_, others 1 (by decide)⟩
  rw [stored]
  exact (Relational.Table.insert_ok (insertUser_ok inserted).2).1

theorem created_reached : ∃ response, (exampleService creating).Reaches createdHistory (.done response) ∧
    response.status = .CREATED := by
  obtain ⟨response, reached, status⟩ := Program.reaches_of_replay (exampleService creating) createdHistory
    (fun response => response.status = .CREATED) (by decide)
  exact ⟨response, reached, by simpa using status⟩

def listedHistory : List (Event serviceInterface) :=
  fullTokenHistory ++ [⟨.deadline, false⟩, ⟨.send .selectUsers, .ok ()⟩, ⟨.deadline, false⟩,
    ⟨.receive .selectUsers, .ok [exampleUser]⟩]

theorem listed_reached : ∃ response, (exampleService (bearing "full")).Reaches listedHistory (.done response) ∧
    response.status = .OK := by
  obtain ⟨response, reached, succeeded⟩ := Program.reaches_of_replay (exampleService (bearing "full")) listedHistory
    (fun response => response.status = .OK) (by decide)
  exact ⟨response, reached, by simpa using succeeded⟩

/-! ## Creations that fail although their row is added -/

/-- The creation is answered with a status, and its row is in the table later. -/
def InsertsDespite (status : StatusCode) : Prop :=
  ∃ history response pool later, (serviceMachine exampleService).Reachable .initial pool ∧
    pool.tasks[0]? = some ⟨creating, history, .done response⟩ ∧ response.status = status ∧
    (serviceMachine exampleService).Steps pool later ∧ (0, exampleUser) ∈ later.shared.journal ∧
    exampleUser ∈ later.shared.users.rows

theorem insertsDespite (ending : List (Event serviceInterface)) {status : StatusCode}
    (ended : (serviceMachine exampleService).Performed 0 creatingState ending creatingState)
    (replayed : ((exampleService creating).replay (creatingHistory ++ ending)).any
      (fun response => response.status = status) = true) : InsertsDespite status := by
  obtain ⟨response, reached, answered⟩ := Program.reaches_of_replay _ _ _ replayed
  have reachable := Machine.reachable_alone reached (creating_performed.trans ended)
  obtain ⟨executed, serves, rows, _, recorded, _⟩ := creating_executed (some keySetText)
  refine ⟨_, response, _, _, reachable, rfl, by simpa using answered, .single (.environment serves), ?_, ?_⟩
  · rw [recorded]
    exact List.mem_singleton_self _
  · rw [rows]
    exact List.mem_singleton_self _

/-- The time runs out while the answer is awaited, or the connection is lost then:
the client is told of an error, and the server executes the INSERT all the same. -/
theorem failed_creation_inserts :
    InsertsDespite .REQUEST_TIMEOUT ∧ InsertsDespite .INTERNAL_SERVER_ERROR ∧ InsertsDespite .CONFLICT := by
  have lost (display : String) : (serviceMachine exampleService).Performed 0 creatingState
      [⟨.deadline, false⟩, ⟨.receive exampleInsert, .error (.other display)⟩] creatingState :=
    .reply (.deadline _ _) (.reply (.lose _ _ _) (.nothing _))
  refine ⟨?_, ?_, ?_⟩
  · exact insertsDespite [⟨.deadline, true⟩] (.reply (.deadline _ _) (.nothing _)) (by decide)
  · exact insertsDespite _ (lost "connection reset by peer") (by decide)
  · exact insertsDespite _ (lost "encountered unexpected or invalid data: duplicate key") (by decide)

/-! ## A second creation with the same email -/

def secondInsert : Statement := .insertUser ⟨"7b0c4a1e-52f3-4c7e-9a53-0d6f1f2b8c90"⟩ "Ana" "ana@example.com"

def emailTaken : DatabaseError := violates (.unique .email)

def takingHistory : List (Event serviceInterface) :=
  [⟨.deadline, false⟩, ⟨.jwks .readCache, some keySetText⟩, ⟨.clock, 1000⟩, passed .nextRun,
   ⟨.deadline, false⟩, ⟨.receiveBody, .ok ()⟩, passed .createUser,
   ⟨.newUuid, ⟨"7b0c4a1e-52f3-4c7e-9a53-0d6f1f2b8c90"⟩⟩,
   ⟨.deadline, false⟩, ⟨.send secondInsert, .ok ()⟩]

def takenHistory : List (Event serviceInterface) :=
  takingHistory ++ [⟨.deadline, false⟩, ⟨.receive secondInsert, .error (.database emailTaken)⟩]

theorem second_executes {users : UsersTable} (rows : users.rows = [exampleUser]) :
    Executes secondInsert users (.error emailTaken) users := by
  obtain ⟨_, checked, unique⟩ := users
  cases rows
  exact .runs exampleUser.createdAt (.error emailTaken)

theorem taken_performed {state : ServiceState} (held : state.cachedJson = some keySetText)
    (rows : state.users.rows = [exampleUser]) (idle : state.connections 1 = .idle) :
    ∃ final, (serviceMachine exampleService).Performed 1 state takenHistory final ∧ final.users = state.users := by
  have read : Performs 1 (.jwks .readCache) state (some keySetText) state := held ▸ .readCache state
  obtain ⟨asking, asked, sent, users⟩ : ∃ asking, Performs 1 (.send secondInsert) state (.ok ()) asking ∧
      asking.connections 1 = .sent secondInsert ∧ asking.users = state.users :=
    ⟨_, .send secondInsert idle, by simp, rfl⟩
  rw [← users] at rows
  obtain ⟨final, answered, kept, _⟩ := answered_performed exampleService sent (second_executes rows)
  have asks : (serviceMachine exampleService).Performed 1 state takingHistory asking :=
    .reply (.deadline _ _) (.reply read (.reply (.clock _ _) (.reply (.pass _ _)
      (.reply (.deadline _ _) (.reply (.receiveBody _ _) (.reply (.pass _ _) (.reply (.newUuid _ _)
      (.reply (.deadline _ _) (.reply asked (.nothing _))))))))))
  exact ⟨final, asks.trans answered, kept.trans users⟩

/-- Ana's row is added for the first of two creations, and never one for the second. -/
theorem second_creation_adds_nothing : ∃ pool response, (serviceMachine exampleService).Reachable .initial pool ∧
    pool.shared.users.rows = [exampleUser] ∧
    pool.tasks[1]? = some ⟨creating, takenHistory, .done response⟩ ∧ response.status = .CONFLICT ∧
    ∀ later user, (serviceMachine exampleService).Steps pool later → (1, user) ∉ later.shared.journal := by
  obtain ⟨waiting, asks⟩ : ∃ rest, (exampleService creating).Reaches creatingHistory rest :=
    Program.reaches_of_isSome (by decide)
  obtain ⟨response, answers, status⟩ := Program.reaches_of_replay (exampleService creating) takenHistory
    (fun response => response.status = .CONFLICT) (by decide)
  have status : response.status = .CONFLICT := by simpa using status
  obtain ⟨executed, served, rows, connections, _, held⟩ := creating_executed (some keySetText)
  have idle : executed.connections 1 = .idle := by
    rw [connections]
    rfl
  obtain ⟨final, taken, users⟩ := taken_performed held rows idle
  have first := (Machine.reachable_alone asks creating_performed).tail (.environment served)
  have reachable := Machine.Reachable.joined first answers taken
  have failed : response.status.isError := by
    rw [status]
    decide
  refine ⟨_, response, reachable, users ▸ rows, rfl, status, fun later user steps => ?_⟩
  refine failed_creation_adds_nothing exampleService_built reachable rfl (by decide) failed ?_ ?_ steps user
  · intro late
    rw [status] at late
    cases late
  · intro _ id name email display lost
    simp [takenHistory, takingHistory] at lost

end TemplateServico
