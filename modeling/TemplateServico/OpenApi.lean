import TemplateServico.Conflict
import TemplateServico.Linearizability
import TemplateServico.Responses

/-! When a response is one that the API document promises. -/

set_option autoImplicit false

namespace TemplateServico

open Http Interaction Postgres

/-! ## The document -/

/-- What the document says of a body. -/
inductive Schema where
  | unsaid | user | users | problemDetails
  deriving DecidableEq, Repr

def Schema.Describes : Schema → Response → Prop
  | .unsaid, _ => True
  | .user, response => ∃ user : User, response.body = .json user.toJson
  | .users, response => ∃ users : List User, response.body = .json (.arr (users.map User.toJson))
  | .problemDetails, response => IsProblem response

/-- The responses that are declared with each handler. -/
def Endpoint.documented : Endpoint → List (StatusCode × Schema)
  | .healthCheck => [(.OK, .unsaid), (.SERVICE_UNAVAILABLE, .problemDetails)]
  | .createUser => [(.CREATED, .user), (.BAD_REQUEST, .problemDetails), (.CONFLICT, .problemDetails),
    (.INTERNAL_SERVER_ERROR, .problemDetails)]
  | .listUsers => [(.OK, .users), (.INTERNAL_SERVER_ERROR, .problemDetails)]
  | .getUser _ => [(.OK, .user), (.NOT_FOUND, .problemDetails), (.INTERNAL_SERVER_ERROR, .problemDetails)]
  | .documentation | .metrics => []

def Endpoint.isDocumented : Endpoint → Bool
  | .healthCheck | .createUser | .listUsers | .getUser _ => true
  | .documentation | .metrics => false

def Endpoint.Promises (endpoint : Endpoint) (response : Response) : Prop :=
  ∃ entry ∈ endpoint.documented, response.status = entry.1 ∧ entry.2.Describes response

section Promises

variable {endpoint : Endpoint} {response : Response}

theorem Endpoint.Promises.status (promises : endpoint.Promises response) :
    response.status ∈ endpoint.documented.map Prod.fst := by
  obtain ⟨entry, member, same, _⟩ := promises
  rw [same]
  exact List.mem_map_of_mem member

theorem undocumented (endpoint : Endpoint) : .REQUEST_TIMEOUT ∉ endpoint.documented.map Prod.fst ∧
    .UNAUTHORIZED ∉ endpoint.documented.map Prod.fst := by
  cases endpoint with
  | getUser segment =>
    change StatusCode.REQUEST_TIMEOUT ∉ [.OK, .NOT_FOUND, .INTERNAL_SERVER_ERROR] ∧
      StatusCode.UNAUTHORIZED ∉ [.OK, .NOT_FOUND, .INTERNAL_SERVER_ERROR]
    decide
  | _ => decide

theorem promises_deliver {cors : CorsLayer} {request : Request} (notHead : request.method ≠ .head) :
    endpoint.Promises (deliver cors request response) ↔ endpoint.Promises response := by
  unfold Endpoint.Promises
  refine exists_congr fun entry => and_congr_right fun _ => ?_
  rw [deliver_status]
  refine and_congr_right fun _ => ?_
  cases entry.2 with
  | unsaid => exact Iff.rfl
  | user => simp only [Schema.Describes, deliver_body notHead]
  | users => simp only [Schema.Describes, deliver_body notHead]
  | problemDetails => exact isProblem_deliver notHead

theorem promises_error (error : AppError) (listed : (error.status, Schema.problemDetails) ∈ endpoint.documented) :
    endpoint.Promises error.intoResponse :=
  ⟨_, listed, error.intoResponse_status, error.intoResponse_isProblem⟩

theorem promises_database (users : endpoint.isUsers = true) (error : SqlxError) :
    endpoint.Promises (AppError.database error).intoResponse ↔ endpoint = .createUser ∨ ¬ Conflicts error := by
  have failure (fails : ¬ Conflicts error) : (AppError.database error).status = .INTERNAL_SERVER_ERROR := by
    refine (AppError.database_status error).resolve_left fun conflict => fails ?_
    rw [← database_conflict, AppError.intoResponse_status]
    exact conflict
  by_cases conflicts : Conflicts error
  · have status := database_conflict.mpr conflicts
    simp only [conflicts, not_true_eq_false, or_false]
    constructor
    · intro promises
      have listed := promises.status
      rw [status] at listed
      cases endpoint with
      | createUser => rfl
      | listUsers => revert listed; decide
      | getUser segment => exact absurd listed (show StatusCode.CONFLICT ∉ [_, _, _] by decide)
      | _ => cases users
    · intro same
      rw [same]
      refine promises_error _ ?_
      rw [← AppError.intoResponse_status, status]
      simp [Endpoint.documented]
  · simp only [conflicts, not_false_eq_true, or_true, iff_true]
    refine promises_error _ ?_
    rw [failure conflicts]
    cases endpoint with
    | documentation => cases users
    | healthCheck => cases users
    | metrics => cases users
    | _ => simp [Endpoint.documented]

end Promises

/-! ## Handlers -/

/-- No error of the database that the history has is taken for a conflict. -/
def Unconflicted (history : List (Event serviceInterface)) : Prop :=
  ∀ statement error, (⟨.send statement, .error error⟩ : Event serviceInterface) ∈ history ∨
    (⟨.receive statement, .error error⟩ : Event serviceInterface) ∈ history → ¬ Conflicts error

theorem Unconflicted.congr {history history' : List (Event serviceInterface)}
    (same : ∀ event, ¬ Handlers.Local event.1 → (event ∈ history ↔ event ∈ history')) :
    Unconflicted history ↔ Unconflicted history' := by
  refine forall₂_congr fun statement error => ?_
  rw [same ⟨.send statement, .error error⟩ fun isLocal => (isLocal statement).1 rfl,
    same ⟨.receive statement, .error error⟩ fun isLocal => (isLocal statement).2 rfl]

/-- What it takes for a handler to answer as documented. -/
def Endpoint.Expected (libs : Libraries) (endpoint : Endpoint) (history : List (Event serviceInterface)) : Prop :=
  match endpoint with
  | .getUser segment => (∃ id, libs.pathUuid segment = .ok id) ∧ Unconflicted history
  | .listUsers => Unconflicted history
  | .createUser | .healthCheck | .documentation | .metrics => True

theorem Endpoint.expected_congr {libs : Libraries} {endpoint : Endpoint} {history history' : List (Event serviceInterface)}
    (same : ∀ event, ¬ Handlers.Local event.1 → (event ∈ history ↔ event ∈ history')) :
    endpoint.Expected libs history ↔ endpoint.Expected libs history' := by
  cases endpoint with
  | getUser segment => exact and_congr_right fun _ => Unconflicted.congr same
  | listUsers => exact Unconflicted.congr same
  | _ => exact Iff.rfl

section Handled

variable {libs : Libraries} {request : Request} {history : List (Event serviceInterface)}

theorem query_unconflicted {statement : Statement} {answer : Except SqlxError (List User)}
    (queried : (Handlers.query statement).Reaches history (.done answer)) :
    Unconflicted history ↔ ∀ error, answer = .error error → ¬ Conflicts error := by
  rcases Handlers.query_complete queried with ⟨failure, notSent, failed⟩ | answered
  · rw [notSent, failed]
    constructor
    · intro unconflicted error same
      exact unconflicted statement error (.inl (by simp [Except.error.inj same]))
    · intro fails other error member
      rcases member with sent | received
      · cases List.mem_singleton.mp sent
        exact fails _ rfl
      · cases List.mem_singleton.mp received
  · rw [answered]
    constructor
    · intro unconflicted error same
      exact unconflicted statement error (.inr (by simp [same]))
    · intro fails other error member
      simp only [List.mem_cons, List.not_mem_nil, or_false] at member
      rcases member with (same | same) | (same | same)
      · cases same
      · cases same
      · cases same
      · cases same
        exact fails _ rfl

/-- A handler that only reads answers as documented unless its query fails with what is
taken for a conflict. -/
theorem read_promises (endpoint : Endpoint) {point : Point} {statement : Statement}
    {answered : Except SqlxError (List User) → Handlers.AppResult (StatusCode × Json)}
    (users : endpoint.isUsers = true) (reads : endpoint ≠ .createUser) (rendering : Rendering statement answered)
    (found : ∀ rows, endpoint.Promises (Handlers.intoResponse (answered (.ok rows))))
    {result : Handlers.AppResult (StatusCode × Json)}
    (reached : (Handlers.onQuery point statement answered).Reaches history (.done result)) :
    endpoint.Promises (Handlers.intoResponse result) ↔ Unconflicted history := by
  obtain ⟨asked, answer, split, queried, made⟩ := Handlers.onQuery_complete reached
  have sameErrors : Unconflicted history ↔ Unconflicted asked := by
    refine Unconflicted.congr fun event notLocal => ?_
    rw [split, List.mem_cons]
    refine or_iff_right fun same => notLocal ?_
    rw [same]
    exact Handlers.local_of nofun nofun
  rw [sameErrors, query_unconflicted queried, made]
  cases answer with
  | error error =>
    rw [rendering.failed]
    refine (promises_database users error).trans ?_
    simp [reads]
  | ok rows => exact iff_of_true (found rows) nofun

theorem found_promises (segment : String) (id : Uuid) (rows : List User) :
    (Endpoint.getUser segment).Promises (Handlers.intoResponse (Handlers.found id (.ok rows))) := by
  cases rows with
  | nil =>
    exact promises_error (.notFound _) (by simp [Endpoint.documented, AppError.status])
  | cons user rest => exact ⟨(.OK, .user), by simp [Endpoint.documented], rfl, user, rfl⟩

theorem created_promises (answer : Except SqlxError (List User)) :
    Endpoint.createUser.Promises (Handlers.intoResponse (Handlers.created answer)) := by
  unfold Handlers.created
  cases Handlers.fetchOne answer with
  | error error => exact (promises_database rfl error).mpr (.inl rfl)
  | ok user => exact ⟨(.CREATED, .user), by simp [Endpoint.documented], rfl, user, rfl⟩

theorem serve_promises {endpoint : Endpoint} (documented : endpoint.isDocumented = true) {own : Response}
    (reached : (endpoint.serve libs request).Reaches history (.done own)) :
    endpoint.Promises own ↔ endpoint.Expected libs history := by
  cases endpoint with
  | documentation => cases documented
  | metrics => cases documented
  | healthCheck =>
    obtain ⟨result, handled, same⟩ := Program.reaches_map_done.mp reached
    obtain ⟨_, answer, _, _, made⟩ := Handlers.onQuery_complete handled
    refine iff_of_true ?_ trivial
    rw [← same, made]
    cases answer with
    | error error =>
      exact promises_error (.serviceUnavailable _) (by simp [Endpoint.documented, AppError.status])
    | ok rows => exact ⟨(.OK, .unsaid), by simp [Endpoint.documented], rfl, trivial⟩
  | createUser =>
    refine iff_of_true ?_ trivial
    obtain ⟨result, handled, same⟩ := Program.reaches_map_done.mp reached
    rw [← same]
    rcases Handlers.postUsers_complete handled with ⟨⟨detail, refused⟩, _⟩ | ⟨_, _, _, _, _, answer, _, _, _, _, _, _, made⟩
    · rw [refused]
      exact promises_error (.badRequest detail) (by simp [Endpoint.documented, AppError.status])
    · rw [made]
      exact created_promises answer
  | listUsers =>
    obtain ⟨result, handled, same⟩ := Program.reaches_map_done.mp reached
    rw [← same]
    refine read_promises .listUsers rfl (by decide) .listed (fun rows => ?_) handled
    exact ⟨(.OK, .users), by simp [Endpoint.documented], rfl, rows, rfl⟩
  | getUser segment =>
    obtain ⟨result, handled, same⟩ := Program.reaches_map_done.mp reached
    rw [← same]
    unfold Handlers.getUsersById Handlers.appPath at handled
    unfold Endpoint.Expected
    cases read : libs.pathUuid segment with
    | error text =>
      rw [read] at handled
      have refused := Program.done.inj (Program.reaches_done.mp handled).2
      rw [refused]
      refine iff_of_false (fun promises => ?_) ?_
      swap
      · rintro ⟨⟨id, identified⟩, _⟩
        cases read.symm.trans identified
      have listed : StatusCode.BAD_REQUEST ∈ [StatusCode.OK, .NOT_FOUND, .INTERNAL_SERVER_ERROR] := promises.status
      revert listed
      decide
    | ok id =>
      rw [read] at handled
      have reads : Endpoint.getUser segment ≠ .createUser := by
        intro same
        cases same
      refine (read_promises (.getUser segment) rfl reads (.found id) (found_promises segment id) handled).trans ?_
      exact (and_iff_right ⟨id, read⟩).symm

end Handled

/-! ## Responses of the service -/

section Runs

variable {libs : Libraries} {state : AppState} {service : Request → ServiceProgram Response} {request : Request}
  {endpoint : Endpoint} {history : List (Event serviceInterface)} {response : Response}

theorem mem_untimed_of_not_local {event : Event serviceInterface} (notLocal : ¬ Handlers.Local event.1) :
    event ∈ untimed history ↔ event ∈ history := by
  refine mem_untimed fun look => notLocal ?_
  rw [look]
  exact Handlers.local_of nofun nofun

theorem endpoint_ends (built : createRouter libs state = some service) (target : endpointOf request = some endpoint)
    (reached : (service request).Reaches history (.done response)) :
    TimedOut history ∨
    ¬ TimedOut history ∧ endpoint.isUsers = true ∧ passed .nextRun ∉ history ∧ response.status = .UNAUTHORIZED ∨
    ¬ TimedOut history ∧ (endpoint.isUsers = true → passed .nextRun ∈ history) ∧ ∃ cors later own,
      (endpoint.serve libs request).Reaches later (.done own) ∧ response = deliver cors request own ∧
      ∀ event, ¬ Handlers.Local event.1 → (event ∈ history ↔ event ∈ later) := by
  obtain ⟨route, found, served, notPreflight⟩ := endpoint_route target
  obtain ⟨cors, inner, _, followed, outcome⟩ := createRouter_routes built notPreflight reached
  rcases outcome with ⟨onTime, ended⟩ | ⟨timedOut, _⟩
  swap
  · exact .inl timedOut
  right
  obtain ⟨own, same, delivered⟩ := ended response rfl
  rw [same] at followed
  have handles {later : List (Event serviceInterface)}
      (onward : (route.serve libs request).Reaches later (.done own)) :
      (endpoint.serve libs request).Reaches later (.done own) := by
    unfold Route.serve at onward
    rwa [served] at onward
  have entered : (⟨.pass .nextRun, ()⟩ : Event serviceInterface).1 ≠ .deadline := nofun
  cases users : endpoint.isUsers with
  | false =>
    have open' : route.isProtected = false := (Route.isProtected_eq served).trans users
    unfold routes at followed
    rw [found] at followed
    dsimp only at followed
    rw [if_neg (by rw [open']; nofun)] at followed
    exact .inr ⟨onTime, nofun, cors, _, own, handles followed, delivered,
      fun event notLocal => (mem_untimed_of_not_local notLocal).symm⟩
  | true =>
    rw [routes_protected found ((Route.isProtected_eq served).trans users)] at followed
    rcases jwtAuthMiddleware_next followed with ⟨before, later, split, decides, onward⟩ | ⟨decides, refused⟩
    · right
      refine ⟨onTime, fun _ => (mem_untimed entered).mp (by simp [split]), cors, later, own, handles onward, delivered, ?_⟩
      intro event notLocal
      rw [← mem_untimed_of_not_local notLocal, split, List.mem_append, List.mem_cons]
      constructor
      · rintro (early | same | late)
        · exact absurd (decides event early).isLocal notLocal
        · rw [same] at notLocal
          exact (notLocal (Handlers.local_of nofun nofun)).elim
        · exact late
      · exact fun late => .inr (.inr late)
    · left
      refine ⟨onTime, rfl, fun member => ?_, ?_⟩
      · rcases decides _ ((mem_untimed entered).mpr member) with ⟨_, same⟩ | same
        · cases same
        · cases same
      · rw [delivered, deliver_status]
        exact (refused own rfl).problem.1

/-- A response to a documented operation is one that the document promises if and only if
the time did not run out, the token check let the request through, an id was a UUID, and
no query that only reads failed with what is taken for a conflict. -/
theorem promises_iff (built : createRouter libs state = some service) (target : endpointOf request = some endpoint)
    (documented : endpoint.isDocumented = true) (notHead : request.method ≠ .head)
    (reached : (service request).Reaches history (.done response)) :
    endpoint.Promises response ↔ ¬ TimedOut history ∧ (endpoint.isUsers = true → passed .nextRun ∈ history) ∧
      endpoint.Expected libs history := by
  rcases endpoint_ends built target reached with
    timedOut | ⟨_, users, stopped, unauthorized⟩ | ⟨onTime, entered, cors, later, own, handled, delivered, sameErrors⟩
  · refine iff_of_false (fun promises => ?_) fun expected => expected.1 timedOut
    have listed := promises.status
    rw [timedOut_status built reached timedOut] at listed
    exact (undocumented endpoint).1 listed
  · refine iff_of_false (fun promises => ?_) fun expected => stopped (expected.2.1 users)
    have listed := promises.status
    rw [unauthorized] at listed
    exact (undocumented endpoint).2 listed
  · rw [delivered, promises_deliver notHead, serve_promises documented handled, Endpoint.expected_congr sameErrors]
    exact ⟨fun expected => ⟨onTime, entered, expected⟩, fun expected => expected.2.2⟩

end Runs

theorem listed_promised : ∃ response, (exampleService (bearing "full")).Reaches listedHistory (.done response) ∧
    Endpoint.listUsers.Promises response := by
  obtain ⟨response, reached, succeeded⟩ := listed_reached
  have onTime : ¬ TimedOut listedHistory := by
    apply onTime_of_success exampleService_built reached
    rw [succeeded]
    exact StatusCode.ok_not_error
  have unconflicted : Unconflicted listedHistory := by
    intro statement error member
    simp [listedHistory, fullTokenHistory] at member
  refine ⟨response, reached, (promises_iff exampleService_built rfl rfl (by decide) reached).mpr ⟨onTime, fun _ => ?_, unconflicted⟩⟩
  simp [listedHistory, fullTokenHistory]

end TemplateServico
