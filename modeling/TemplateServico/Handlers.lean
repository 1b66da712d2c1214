import TemplateServico.State

/-! The handlers of the API, with the extractors that run before them. -/

set_option autoImplicit false

namespace TemplateServico.Handlers

open Http Interaction Postgres

abbrev AppResult (A : Type) := Except AppError A

/-- A statement on some connection of the pool, up to its answer. -/
def query (statement : Statement) : ServiceProgram (Except SqlxError (List User)) :=
  .call (.send statement) fun
    | .error error => .done (.error error)
    | .ok () => .call (.receive statement) fun answer => .done answer

/-- The one row that `fetch_one` is for. -/
def fetchOne : Except SqlxError (List User) → Except SqlxError User
  | .error error => .error error
  | .ok [] => .error .rowNotFound
  | .ok (user :: _) => .ok user

/-- A handler that is one statement and what it makes of the answer. -/
def onQuery (point : Point) (statement : Statement)
    (answered : Except SqlxError (List User) → AppResult (StatusCode × Json)) :
    ServiceProgram (AppResult (StatusCode × Json)) :=
  .call (.pass point) fun _ => (query statement).map answered

def healthCheck : ServiceProgram (AppResult (StatusCode × Json)) :=
  onQuery .healthCheck .selectOne fun
    | .ok _ => .ok (.OK, .obj [("status", .str "ok"), ("db", .str "up")])
    | .error _ => .error (.serviceUnavailable "Database connection is currently unavailable")

/-- The `AppJson` extractor. The content type is looked at before the body is read. -/
def appJson (libs : Libraries) (request : Request) : ServiceProgram (AppResult CreateUserPayload) :=
  match libs.jsonContentType request.headers with
  | .error text => .done (.error (.fromJsonRejection text))
  | .ok () =>
    .call .receiveBody fun
      | .error text => .done (.error (.fromJsonRejection text))
      | .ok () =>
        match libs.jsonPayload request.body with
        | .error text => .done (.error (.fromJsonRejection text))
        | .ok payload => .done (.ok payload)

/-- The checks of `create_user`, which leave the values to be stored. -/
def checkPayload (payload : CreateUserPayload) : AppResult (String × String) :=
  let trimmedName := Text.trim payload.name
  if trimmedName.isEmpty then
    .error (.badRequest "Field 'name' cannot be empty or contain only whitespace")
  else if !Text.contains payload.email "@" then
    .error (.badRequest "Field 'email' must contain a valid email address")
  else .ok (trimmedName, payload.email)

def created (answer : Except SqlxError (List User)) : AppResult (StatusCode × Json) :=
  match fetchOne answer with
  | .error error => .error (.database error)
  | .ok user => .ok (.CREATED, user.toJson)

def createUser (payload : CreateUserPayload) : ServiceProgram (AppResult (StatusCode × Json)) :=
  .call (.pass .createUser) fun _ =>
    match checkPayload payload with
    | .error error => .done (.error error)
    | .ok (name, email) =>
      .call .newUuid fun userId => (query (.insertUser userId name email)).map created

def listed : Except SqlxError (List User) → AppResult (StatusCode × Json)
  | .error error => .error (.database error)
  | .ok users => .ok (.OK, .arr (users.map User.toJson))

def listUsers : ServiceProgram (AppResult (StatusCode × Json)) := onQuery .listUsers .selectUsers listed

def found (id : Uuid) : Except SqlxError (List User) → AppResult (StatusCode × Json)
  | .error error => .error (.database error)
  | .ok [] => .error (.notFound ("User with id '" ++ id.hyphenated ++ "' was not found"))
  | .ok (user :: _) => .ok (.OK, user.toJson)

def getUser (id : Uuid) : ServiceProgram (AppResult (StatusCode × Json)) :=
  onQuery .getUser (.selectUser id) (found id)

/-- The `AppPath` extractor on the segment that the route binds. -/
def appPath (libs : Libraries) (segment : String) : AppResult Uuid :=
  match libs.pathUuid segment with
  | .error text => .error (.fromPathRejection text)
  | .ok id => .ok id

def intoResponse : AppResult (StatusCode × Json) → Response
  | .ok (status, value) =>
    { status := status
      headers := HeaderMap.empty.append "content-type" (HeaderValue.ofString "application/json")
      body := .json value }
  | .error error => error.intoResponse

def postUsers (libs : Libraries) (request : Request) : ServiceProgram (AppResult (StatusCode × Json)) := do
  match ← appJson libs request with
  | .error error => .done (.error error)
  | .ok payload => createUser payload

def getUsersById (libs : Libraries) (segment : String) : ServiceProgram (AppResult (StatusCode × Json)) :=
  match appPath libs segment with
  | .error error => .done (.error error)
  | .ok id => getUser id

/-! ## Requests and results of the handlers -/

section Queries

variable {statement : Statement} {allowed : ServiceOp → Prop}

theorem query_performs (send : allowed (.send statement)) (receive : allowed (.receive statement)) :
    (query statement).Performs allowed := by
  refine ⟨send, fun sent => ?_⟩
  cases sent with
  | error error => trivial
  | ok done => exact ⟨receive, fun _ => trivial⟩

theorem query_complete {history : List (Event serviceInterface)} {answer : Except SqlxError (List User)}
    (reached : (query statement).Reaches history (.done answer)) :
    (∃ error, history = [⟨.send statement, .error error⟩] ∧ answer = .error error) ∨
    history = [⟨.send statement, .ok ()⟩, ⟨.receive statement, answer⟩] := by
  unfold query at reached
  rcases Program.reaches_call.mp reached with ⟨_, same⟩ | ⟨sent, later, split, reached⟩
  · cases same
  cases sent with
  | error error =>
    obtain ⟨empty, same⟩ := Program.reaches_done.mp reached
    exact .inl ⟨error, by rw [split, empty], Program.done.inj same⟩
  | ok done =>
    right
    rcases Program.reaches_call.mp reached with ⟨_, same⟩ | ⟨received, rest, split', reached⟩
    · cases same
    obtain ⟨empty, same⟩ := Program.reaches_done.mp reached
    rw [split, split', empty, Program.done.inj same]

theorem query_answered (statement : Statement) (answer : Except SqlxError (List User)) :
    (query statement).Reaches [⟨.send statement, .ok ()⟩, ⟨.receive statement, answer⟩] (.done answer) := by
  unfold query
  apply Program.Reaches.reply (I := serviceInterface)
  exact Program.Reaches.reply (I := serviceInterface) _ (.start _)

/-- A query that still waits has had no answer. -/
theorem query_waiting {history : List (Event serviceInterface)} {op : ServiceOp}
    {next : op.Reply → ServiceProgram (Except SqlxError (List User))}
    (reached : (query statement).Reaches history (.call op next)) (other : Statement)
    (answer : Except SqlxError (List User)) :
    (⟨.receive other, answer⟩ : Event serviceInterface) ∉ history := by
  unfold query at reached
  rcases Program.reaches_call.mp reached with ⟨empty, _⟩ | ⟨sent, later, split, reached⟩
  · rw [empty]
    exact List.not_mem_nil
  cases sent with
  | error error => cases (Program.reaches_done.mp reached).2
  | ok done =>
    rcases Program.reaches_call.mp reached with ⟨empty, _⟩ | ⟨received, rest, _, reached⟩
    · rw [split, empty, List.mem_singleton]
      intro same
      cases same
    · cases (Program.reaches_done.mp reached).2

end Queries

/-- A success has one of two statuses. -/
def Sound (result : AppResult (StatusCode × Json)) : Prop :=
  ∀ status value, result = .ok (status, value) → status = .OK ∨ status = .CREATED

theorem sound_error (error : AppError) : Sound (.error error) := by nofun

theorem sound_ok (value : Json) : Sound (.ok (.OK, value)) := by
  intro status other same
  cases same
  exact .inl rfl

theorem sound_created (answer : Except SqlxError (List User)) : Sound (created answer) := by
  unfold created
  cases fetchOne answer with
  | error error => exact sound_error _
  | ok user =>
    intro status other same
    cases same
    exact .inr rfl

/-- Once the INSERT is answered, the payload is no longer to blame. -/
theorem created_status (answer : Except SqlxError (List User)) :
    (intoResponse (created answer)).status ≠ .BAD_REQUEST := by
  unfold created
  cases fetchOne answer with
  | error error =>
    change (AppError.database error).intoResponse.status ≠ _
    rw [AppError.intoResponse_status]
    rcases AppError.database_status error with same | same
    · rw [same]
      decide
    · rw [same]
      decide
  | ok user =>
    change StatusCode.CREATED ≠ _
    decide

theorem sound_listed (answer : Except SqlxError (List User)) : Sound (listed answer) := by
  cases answer with
  | error error => exact sound_error _
  | ok users => exact sound_ok _

theorem sound_found (id : Uuid) (answer : Except SqlxError (List User)) : Sound (found id answer) := by
  cases answer with
  | error error => exact sound_error _
  | ok users =>
    cases users with
    | nil => exact sound_error _
    | cons user rest => exact sound_ok _

theorem query_sound {statement : Statement}
    {answered : Except SqlxError (List User) → AppResult (StatusCode × Json)}
    (sound : ∀ answer, Sound (answered answer)) : ((query statement).map answered).Returns Sound := by
  intro sent
  cases sent with
  | error error => exact sound _
  | ok done => exact fun answer => sound answer

theorem healthCheck_sound : healthCheck.Returns Sound := by
  refine fun _ => query_sound fun answer => ?_
  cases answer with
  | error error => exact sound_error _
  | ok rows => exact sound_ok _

theorem createUser_sound (payload : CreateUserPayload) : (createUser payload).Returns Sound := by
  intro _
  cases checked : checkPayload payload with
  | error error => exact sound_error error
  | ok values => exact fun id => query_sound sound_created

theorem listUsers_sound : listUsers.Returns Sound := fun _ => query_sound sound_listed

theorem getUser_sound (id : Uuid) : (getUser id).Returns Sound := fun _ => query_sound (sound_found id)

theorem appJson_returns (libs : Libraries) (request : Request) :
    (appJson libs request).Returns fun result =>
      (∃ detail, result = .error (.badRequest detail)) ∨
        ∃ payload, libs.jsonPayload request.body = .ok payload ∧ result = .ok payload := by
  unfold appJson
  cases libs.jsonContentType request.headers with
  | error text => exact .inl ⟨_, rfl⟩
  | ok accepted =>
    intro received
    cases received with
    | error text => exact .inl ⟨_, rfl⟩
    | ok complete =>
      dsimp only
      cases libs.jsonPayload request.body with
      | error text => exact .inl ⟨_, rfl⟩
      | ok payload => exact .inr ⟨payload, rfl, rfl⟩

theorem postUsers_sound (libs : Libraries) (request : Request) : (postUsers libs request).Returns Sound := by
  refine Program.returns_bind (appJson_returns libs request) fun result _ => ?_
  cases result with
  | error error => exact sound_error error
  | ok payload => exact createUser_sound payload

theorem getUsersById_sound (libs : Libraries) (segment : String) : (getUsersById libs segment).Returns Sound := by
  unfold getUsersById
  cases appPath libs segment with
  | error error => exact sound_error error
  | ok id => exact getUser_sound id

section Requests

variable {libs : Libraries} {request : Request} {allowed : ServiceOp → Prop}

theorem appJson_performs (body : allowed .receiveBody) : (appJson libs request).Performs allowed := by
  unfold appJson
  cases libs.jsonContentType request.headers with
  | error text => trivial
  | ok accepted =>
    refine ⟨body, fun received => ?_⟩
    cases received with
    | error text => trivial
    | ok complete =>
      dsimp only
      cases libs.jsonPayload request.body <;> trivial

theorem onQuery_performs {point : Point} {statement : Statement}
    {answered : Except SqlxError (List User) → AppResult (StatusCode × Json)}
    (entered : allowed (.pass point)) (send : allowed (.send statement))
    (receive : allowed (.receive statement)) : (onQuery point statement answered).Performs allowed :=
  ⟨entered, fun _ => Program.performs_map (query_performs send receive)⟩

theorem getUsersById_performs {segment : String} (entered : allowed (.pass .getUser))
    (send : ∀ id, allowed (.send (.selectUser id))) (receive : ∀ id, allowed (.receive (.selectUser id))) :
    (getUsersById libs segment).Performs allowed := by
  unfold getUsersById
  cases appPath libs segment with
  | error error => trivial
  | ok id => exact onQuery_performs entered (send id) (receive id)

/-- Only the values that the checks leave are sent. -/
theorem createUser_performs {payload : CreateUserPayload} (entered : allowed (.pass .createUser))
    (fresh : allowed .newUuid)
    (insert : ∀ id name email, checkPayload payload = .ok (name, email) →
      allowed (.send (.insertUser id name email)) ∧ allowed (.receive (.insertUser id name email))) :
    (createUser payload).Performs allowed := by
  refine ⟨entered, fun _ => ?_⟩
  cases checked : checkPayload payload with
  | error error => trivial
  | ok values =>
    obtain ⟨name, email⟩ := values
    refine ⟨fresh, fun id => ?_⟩
    obtain ⟨send, receive⟩ := insert id name email checked
    exact Program.performs_map (query_performs send receive)

/-- Requests that do not reach the database. -/
def Local (op : ServiceOp) : Prop := ∀ statement, op ≠ .send statement ∧ op ≠ .receive statement

theorem local_of {op : ServiceOp} (notSent : ∀ statement, op ≠ .send statement)
    (notReceived : ∀ statement, op ≠ .receive statement) : Local op :=
  fun statement => ⟨notSent statement, notReceived statement⟩

theorem appJson_local (libs : Libraries) (request : Request) : (appJson libs request).Performs Local :=
  appJson_performs (local_of nofun nofun)

theorem onQuery_complete {point : Point} {statement : Statement}
    {answered : Except SqlxError (List User) → AppResult (StatusCode × Json)}
    {history : List (Event serviceInterface)} {result : AppResult (StatusCode × Json)}
    (reached : (onQuery point statement answered).Reaches history (.done result)) :
    ∃ asked answer, history = passed point :: asked ∧ (query statement).Reaches asked (.done answer) ∧
      result = answered answer := by
  rcases Program.reaches_call.mp reached with ⟨_, same⟩ | ⟨_, asked, split, reached⟩
  · cases same
  obtain ⟨answer, queried, same⟩ := Program.reaches_map_done.mp reached
  exact ⟨asked, answer, split, queried, same.symm⟩

theorem onQuery_waiting {point : Point} {statement : Statement}
    {answered : Except SqlxError (List User) → AppResult (StatusCode × Json)}
    {history : List (Event serviceInterface)} {op : ServiceOp}
    {next : op.Reply → ServiceProgram (AppResult (StatusCode × Json))}
    (reached : (onQuery point statement answered).Reaches history (.call op next)) (other : Statement)
    (answer : Except SqlxError (List User)) :
    (⟨.receive other, answer⟩ : Event serviceInterface) ∉ history := by
  rcases Program.reaches_call.mp reached with ⟨empty, _⟩ | ⟨_, asked, split, reached⟩
  · rw [empty]
    exact List.not_mem_nil
  obtain ⟨middle, queried, same⟩ := Program.reaches_map.mp reached
  cases middle with
  | done result => cases same
  | call waiting onward =>
    rw [split, List.mem_cons]
    intro member
    rcases member with first | later
    · cases first
    · exact query_waiting queried other answer later

theorem checkPayload_ok {payload : CreateUserPayload} {name email : String}
    (checked : checkPayload payload = .ok (name, email)) :
    name = Text.trim payload.name ∧ name ≠ "" ∧ email = payload.email ∧ '@' ∈ email.toList := by
  unfold checkPayload at checked
  dsimp only at checked
  split at checked
  · cases checked
  · split at checked
    · cases checked
    next nonempty address =>
      cases checked
      refine ⟨rfl, by simpa using nonempty, rfl, ?_⟩
      have contained : "@".toList <:+: payload.email.toList := by simpa [Text.contains] using address
      exact contained.subset (by simp)

theorem checkPayload_error {payload : CreateUserPayload} {error : AppError}
    (refused : checkPayload payload = .error error) : ∃ detail, error = .badRequest detail := by
  unfold checkPayload at refused
  dsimp only at refused
  split at refused
  · exact ⟨_, (Except.error.inj refused).symm⟩
  · split at refused
    · exact ⟨_, (Except.error.inj refused).symm⟩
    · cases refused

theorem createUser_complete {payload : CreateUserPayload} {history : List (Event serviceInterface)}
    {result : AppResult (StatusCode × Json)} (reached : (createUser payload).Reaches history (.done result)) :
    (∃ error, checkPayload payload = .error error ∧ history = [passed .createUser] ∧ result = .error error) ∨
    ∃ name email id asked answer, checkPayload payload = .ok (name, email) ∧
      history = passed .createUser :: ⟨.newUuid, id⟩ :: asked ∧
      (query (.insertUser id name email)).Reaches asked (.done answer) ∧ result = created answer := by
  rcases Program.reaches_call.mp reached with ⟨_, same⟩ | ⟨_, checking, split, creation⟩
  · cases same
  cases checked : checkPayload payload with
  | error error =>
    rw [checked] at creation
    obtain ⟨empty, same⟩ := Program.reaches_done.mp creation
    exact .inl ⟨error, rfl, by rw [split, empty], Program.done.inj same⟩
  | ok values =>
    obtain ⟨name, email⟩ := values
    rw [checked] at creation
    rcases Program.reaches_call.mp creation with ⟨_, same⟩ | ⟨id, asked, split', inserting⟩
    · cases same
    obtain ⟨answer, queried, same⟩ := Program.reaches_map_done.mp inserting
    exact .inr ⟨name, email, id, asked, answer, rfl, by rw [split, split'], queried, same.symm⟩

/-- A run of `create_user` to its end: the payload was refused before anything was
sent, or one INSERT was sent and its answer is the result. -/
theorem postUsers_complete {history : List (Event serviceInterface)} {result : AppResult (StatusCode × Json)}
    (reached : (postUsers libs request).Reaches history (.done result)) :
    ((∃ detail, result = .error (.badRequest detail)) ∧ ∀ event ∈ history, Local event.1) ∨
    ∃ payload name email id before answer asked, libs.jsonPayload request.body = .ok payload ∧
      checkPayload payload = .ok (name, email) ∧ history = before ++ asked ∧
      (∀ event ∈ before, Local event.1) ∧
      (query (.insertUser id name email)).Reaches asked (.done answer) ∧ result = created answer := by
  obtain ⟨extracting, creating, extracted, split, extraction, creation⟩ := Program.reaches_bind_done reached
  have quiet := (extraction.performs (appJson_local libs request)).1
  rcases extraction.returns (appJson_returns libs request) with ⟨detail, same⟩ | ⟨payload, read, same⟩
  · rw [same] at creation
    obtain ⟨empty, same⟩ := Program.reaches_done.mp creation
    rw [empty, List.append_nil] at split
    exact .inl ⟨⟨detail, Program.done.inj same⟩, split ▸ quiet⟩
  rw [same] at creation
  have entered : Local (passed .createUser).1 := local_of nofun nofun
  rcases createUser_complete creation with
    ⟨error, refused, split', same⟩ | ⟨name, email, id, asked, answer, checked, split', queried, same⟩
  · left
    obtain ⟨detail, refused⟩ := checkPayload_error refused
    refine ⟨⟨detail, by rw [same, refused]⟩, ?_⟩
    rw [split, split']
    intro event member
    rcases List.mem_append.mp member with earlier | last
    · exact quiet event earlier
    · rw [List.mem_singleton.mp last]
      exact entered
  · right
    refine ⟨payload, name, email, id, extracting ++ [passed .createUser, ⟨.newUuid, id⟩], answer, asked,
      read, checked, by simp [split, split'], ?_, queried, same⟩
    intro event member
    simp only [List.mem_append, List.mem_cons, List.not_mem_nil, or_false] at member
    rcases member with earlier | enter | fresh
    · exact quiet event earlier
    · rw [enter]
      exact entered
    · rw [fresh]
      exact local_of nofun nofun

theorem getUsersById_complete {segment : String} {history : List (Event serviceInterface)}
    {result : AppResult (StatusCode × Json)}
    (reached : (getUsersById libs segment).Reaches history (.done result)) :
    ((∃ detail, result = .error (.badRequest detail)) ∧ history = []) ∨
    ∃ id asked answer, libs.pathUuid segment = .ok id ∧ history = passed .getUser :: asked ∧
      (query (.selectUser id)).Reaches asked (.done answer) ∧ result = found id answer := by
  unfold getUsersById appPath at reached
  cases read : libs.pathUuid segment with
  | error text =>
    rw [read] at reached
    obtain ⟨empty, same⟩ := Program.reaches_done.mp reached
    exact .inl ⟨⟨_, Program.done.inj same⟩, empty⟩
  | ok id =>
    rw [read] at reached
    obtain ⟨asked, answer, split, queried, result⟩ := onQuery_complete reached
    exact .inr ⟨id, asked, answer, rfl, split, queried, result⟩

theorem getUsersById_waiting {segment : String} {history : List (Event serviceInterface)} {op : ServiceOp}
    {next : op.Reply → ServiceProgram (AppResult (StatusCode × Json))}
    (reached : (getUsersById libs segment).Reaches history (.call op next)) (other : Statement)
    (answer : Except SqlxError (List User)) :
    (⟨.receive other, answer⟩ : Event serviceInterface) ∉ history := by
  unfold getUsersById at reached
  cases read : appPath libs segment with
  | error error =>
    rw [read] at reached
    cases (Program.reaches_done.mp reached).2
  | ok id =>
    rw [read] at reached
    exact onQuery_waiting reached other answer

end Requests

end TemplateServico.Handlers
