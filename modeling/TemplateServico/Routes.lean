import TemplateServico.Auth.RegisteredClaims
import TemplateServico.Handlers
import TemplateServico.Security

/-! The routes and the layers around them.

The layers for metrics and tracing hand requests and responses through as they
are. Header fields that the server derives from the body are left out.
-/

set_option autoImplicit false

namespace TemplateServico

open Http Interaction Postgres

inductive Route where
  | documentation | health | metrics | users
  | user (id : String)
  deriving DecidableEq, Repr

namespace Route

/-- The route of a path. A parameter is one segment that is not empty. -/
def find (path : String) : Option Route :=
  match Text.split '/' path with
  | ["", "api-docs", "openapi.json"] => some .documentation
  | "" :: "swagger-ui" :: _ => some .documentation
  | ["", "health"] => some .health
  | ["", "metrics"] => some .metrics
  | ["", "users"] => some .users
  | ["", "users", id] => if id = "" then none else some (.user id)
  | _ => none

def isProtected : Route → Bool
  | .users | .user _ => true
  | .documentation | .health | .metrics => false

/-- The value of the `Allow` header, in the order of registration. -/
def allow : Route → String
  | .users => "POST,GET,HEAD"
  | .documentation | .health | .metrics | .user _ => "GET,HEAD"

end Route

/-- What a route does for a method that it supports. -/
inductive Endpoint where
  | documentation | healthCheck | metrics | createUser | listUsers
  | getUser (segment : String)
  deriving DecidableEq, Repr

-- GET handlers also answer HEAD.
def Route.endpoint : Route → Method → Option Endpoint
  | .documentation, .get | .documentation, .head => some .documentation
  | .health, .get | .health, .head => some .healthCheck
  | .metrics, .get | .metrics, .head => some .metrics
  | .users, .post => some .createUser
  | .users, .get | .users, .head => some .listUsers
  | .user id, .get | .user id, .head => some (.getUser id)
  | _, _ => none

def metricsResponse (text : String) : Response :=
  { status := .OK
    headers := HeaderMap.empty.append "content-type" (HeaderValue.ofString "text/plain; charset=utf-8")
    body := .text text }

def Endpoint.serve (libs : Libraries) (request : Request) : Endpoint → ServiceProgram Response
  | .documentation => .done (libs.swaggerUi request)
  | .healthCheck => Handlers.healthCheck.map Handlers.intoResponse
  | .metrics => .call .renderMetrics fun text => .done (metricsResponse text)
  | .createUser => (Handlers.postUsers libs request).map Handlers.intoResponse
  | .listUsers => Handlers.listUsers.map Handlers.intoResponse
  | .getUser segment => (Handlers.getUsersById libs segment).map Handlers.intoResponse

def methodNotAllowed : Response := ⟨.METHOD_NOT_ALLOWED, HeaderMap.empty, .empty⟩

def Route.serve (libs : Libraries) (route : Route) (request : Request) : ServiceProgram Response :=
  match route.endpoint request.method with
  | some endpoint => endpoint.serve libs request
  | none => .done methodNotAllowed

def fallback404Handler (uri : Uri) : Response :=
  (ProblemDetails.notFound ("The requested endpoint '" ++ uri.text ++ "' was not found.")).intoResponse

-- The token is asked for on every method of a protected route, but not on the fallback.
def routes (libs : Libraries) (state : AppState) (request : Request) : ServiceProgram Response :=
  match Route.find request.uri.path with
  | none => .done (fallback404Handler request.uri)
  | some route =>
    if route.isProtected then jwtAuthMiddleware libs.jwt state request (route.serve libs)
    else route.serve libs request

/-- What is done to the response of a known route after all layers. -/
def finish (request : Request) (response : Response) : Response :=
  match Route.find request.uri.path with
  | none => response
  | some route =>
    match route.endpoint request.method with
    | some _ => if request.method = .head then { response with body := .empty } else response
    | none =>
      if response.headers.getAll "allow" = [] then
        { response with headers := response.headers.insert "allow" (HeaderValue.ofString route.allow) }
      else response

def requestTimeout : Response := ⟨.REQUEST_TIMEOUT, HeaderMap.empty, .empty⟩

def timeoutLayer (inner : Request → ServiceProgram Response) (request : Request) : ServiceProgram Response :=
  (inner request).deadline ServiceOp.deadline id ServiceOp.waits requestTimeout

/-- There is no router where the CORS layer cannot be built. -/
def createRouter (libs : Libraries) (state : AppState) : Option (Request → ServiceProgram Response) :=
  (buildCorsLayer state.config).map fun cors request =>
    (timeoutLayer (securityHeadersMiddleware (cors.layer (routes libs state))) request).map (finish request)

/-! ## Requests and responses of the routes -/

/-- What a request is served by, if its method is supported. -/
def endpointOf (request : Request) : Option Endpoint :=
  (Route.find request.uri.path).bind fun route => route.endpoint request.method

def Endpoint.isUsers : Endpoint → Bool
  | .createUser | .listUsers | .getUser _ => true
  | .documentation | .healthCheck | .metrics => false

/-- The users handlers are on the protected routes, and nothing else is. -/
theorem Route.isProtected_eq {route : Route} {method : Method} {endpoint : Endpoint}
    (served : route.endpoint method = some endpoint) : route.isProtected = endpoint.isUsers := by
  unfold Route.endpoint at served
  split at served <;> cases served <;> rfl

/-- The statements that a request may issue. -/
def Issues (libs : Libraries) (request : Request) : Statement → Prop
  | .insertUser _ name email => endpointOf request = some .createUser ∧
    ∃ payload, libs.jsonPayload request.body = .ok payload ∧
      Handlers.checkPayload payload = .ok (name, email)
  | .selectOne | .selectUsers | .selectUser _ => True

/-- What handling a request may ask for. -/
structure Permitted (libs : Libraries) (request : Request) (op : ServiceOp) : Prop where
  untimed : op ≠ .deadline
  issued : ∀ statement, op = .send statement ∨ op = .receive statement → Issues libs request statement
  guarded : ∀ point, op = .pass point → point.isUsersHandler = true →
    ∃ route, Route.find request.uri.path = some route ∧ route.isProtected = true

section Permissions

variable {libs : Libraries} {state : AppState} {request : Request}

theorem permitted_deciding (op : ServiceOp) (decides : Deciding op) : Permitted libs request op := by
  rcases decides with ⟨inner, same⟩ | same
  · rw [same]
    exact ⟨nofun, by simp, nofun⟩
  · rw [same]
    exact ⟨nofun, by simp, nofun⟩

theorem permitted_send {statement : Statement} (issues : Issues libs request statement) :
    Permitted libs request (.send statement) := by
  refine ⟨nofun, ?_, nofun⟩
  intro other same
  rcases same with same | same
  · cases same
    exact issues
  · cases same

theorem permitted_receive {statement : Statement} (issues : Issues libs request statement) :
    Permitted libs request (.receive statement) := by
  refine ⟨nofun, ?_, nofun⟩
  intro other same
  rcases same with same | same
  · cases same
  · cases same
    exact issues

theorem permitted_pass {point : Point} (guarded : point.isUsersHandler = true →
    ∃ route, Route.find request.uri.path = some route ∧ route.isProtected = true) :
    Permitted libs request (.pass point) := by
  refine ⟨nofun, by simp, ?_⟩
  intro other same
  cases same
  exact guarded

theorem Route.serve_performs {route : Route} (found : Route.find request.uri.path = some route) :
    (route.serve libs request).Performs (Permitted libs request) := by
  unfold Route.serve
  cases served : route.endpoint request.method with
  | none => trivial
  | some endpoint =>
  have target : endpointOf request = some endpoint := by
    rw [endpointOf, found]
    exact served
  have guarded (users : endpoint.isUsers = true) :
      ∃ route, Route.find request.uri.path = some route ∧ route.isProtected = true :=
    ⟨route, found, (Route.isProtected_eq served).trans users⟩
  cases endpoint with
  | documentation => trivial
  | metrics => exact ⟨⟨nofun, by simp, nofun⟩, fun _ => trivial⟩
  | healthCheck =>
    apply Program.performs_map
    exact Handlers.onQuery_performs (permitted_pass nofun) (permitted_send trivial) (permitted_receive trivial)
  | listUsers =>
    apply Program.performs_map
    exact Handlers.onQuery_performs (permitted_pass fun _ => guarded rfl) (permitted_send trivial)
      (permitted_receive trivial)
  | getUser segment =>
    apply Program.performs_map
    exact Handlers.getUsersById_performs (permitted_pass fun _ => guarded rfl)
      (fun _ => permitted_send trivial) (fun _ => permitted_receive trivial)
  | createUser =>
    apply Program.performs_map
    apply Program.performs_bind_returns (Handlers.appJson_performs ⟨nofun, by simp, nofun⟩)
      (Handlers.appJson_returns libs request)
    intro result extracted
    rcases extracted with ⟨detail, same⟩ | ⟨payload, read, same⟩
    · rw [same]
      trivial
    · rw [same]
      apply Handlers.createUser_performs (permitted_pass fun _ => guarded rfl) ⟨nofun, by simp, nofun⟩
      intro id name email checked
      have issues : Issues libs request (.insertUser id name email) := ⟨target, payload, read, checked⟩
      exact ⟨permitted_send issues, permitted_receive issues⟩

theorem routes_performs : (routes libs state request).Performs (Permitted libs request) := by
  unfold routes
  cases found : Route.find request.uri.path with
  | none => trivial
  | some route =>
    dsimp only
    split
    · exact jwtAuthMiddleware_performs permitted_deciding (permitted_pass nofun) (Route.serve_performs found)
    · exact Route.serve_performs found

theorem Endpoint.serve_returns {wanted : Response → Prop} (endpoint : Endpoint)
    (handled : ∀ result, Handlers.Sound result → wanted (Handlers.intoResponse result))
    (documentation : endpoint = .documentation → wanted (libs.swaggerUi request))
    (metrics : ∀ text, wanted (metricsResponse text)) : (endpoint.serve libs request).Returns wanted := by
  cases endpoint with
  | documentation => exact documentation rfl
  | metrics => exact metrics
  | healthCheck => exact Program.returns_map Handlers.healthCheck_sound handled
  | createUser => exact Program.returns_map (Handlers.postUsers_sound libs request) handled
  | listUsers => exact Program.returns_map Handlers.listUsers_sound handled
  | getUser segment => exact Program.returns_map (Handlers.getUsersById_sound libs segment) handled

/-- What holds of every response that a route can give. -/
theorem routes_returns {wanted : Response → Prop} (refused : ∀ response, Refusal response → wanted response)
    (handled : ∀ result, Handlers.Sound result → wanted (Handlers.intoResponse result))
    (documentation : wanted (libs.swaggerUi request)) (metrics : ∀ text, wanted (metricsResponse text))
    (unsupported : wanted methodNotAllowed) (unknown : wanted (fallback404Handler request.uri)) :
    (routes libs state request).Returns wanted := by
  have served (route : Route) : (route.serve libs request).Returns wanted := by
    unfold Route.serve
    cases route.endpoint request.method with
    | none => exact unsupported
    | some endpoint => exact endpoint.serve_returns handled (fun _ => documentation) metrics
  unfold routes
  cases Route.find request.uri.path with
  | none => exact unknown
  | some route =>
    dsimp only
    split
    · exact jwtAuthMiddleware_returns refused (served route)
    · exact served route

end Permissions

/-! ## Runs of the router -/

abbrev TimedOut (history : List (Event serviceInterface)) : Prop :=
  Program.Expired (I := serviceInterface) ServiceOp.deadline id history

/-- The history without the looks at the time. -/
abbrev untimed (history : List (Event serviceInterface)) : List (Event serviceInterface) :=
  Program.awaited (I := serviceInterface) ServiceOp.deadline history

theorem mem_untimed {op : ServiceOp} {reply : op.Reply} {history : List (Event serviceInterface)}
    (other : op ≠ .deadline) :
    (⟨op, reply⟩ : Event serviceInterface) ∈ untimed history ↔ (⟨op, reply⟩ : Event serviceInterface) ∈ history :=
  Program.mem_awaited other

section Finish

variable {request : Request} {response : Response}

@[simp] theorem finish_status : (finish request response).status = response.status := by
  unfold finish
  split
  · rfl
  · split
    · split <;> rfl
    · split <;> rfl

theorem finish_body (notHead : request.method ≠ .head) : (finish request response).body = response.body := by
  unfold finish
  split
  · rfl
  · split
    · rw [if_neg notHead]
    · split <;> rfl

theorem getAll_finish {name : String} (other : name ≠ "allow") :
    (finish request response).headers.getAll name = response.headers.getAll name := by
  unfold finish
  split
  · rfl
  · split
    · split <;> rfl
    · split
      · exact HeaderMap.getAll_insert_ne _ _ other.symm
      · rfl

end Finish

/-- What becomes of a response of the routes on its way through the layers. -/
def deliver (cors : CorsLayer) (request : Request) (response : Response) : Response :=
  finish request (secure (cors.decorate request response))

@[simp] theorem deliver_status {cors : CorsLayer} {request : Request} {response : Response} :
    (deliver cors request response).status = response.status := by
  unfold deliver
  rw [finish_status, secure_status, CorsLayer.decorate_status]

theorem deliver_body {cors : CorsLayer} {request : Request} {response : Response}
    (notHead : request.method ≠ .head) : (deliver cors request response).body = response.body := by
  unfold deliver
  rw [finish_body notHead, secure_body, CorsLayer.decorate_body]

theorem deliver_contentType {cors : CorsLayer} {request : Request} {response : Response} :
    (deliver cors request response).headers.getAll "content-type" =
      response.headers.getAll "content-type" := by
  have unsecured : "content-type" ∉ securityHeaders.map Prod.fst := by decide
  unfold deliver
  rw [getAll_finish (by decide), getAll_secure unsecured,
    CorsLayer.getAll_decorate (by decide) (by decide) (by decide)]

section Runs

variable {libs : Libraries} {state : AppState} {service : Request → ServiceProgram Response}
  {request : Request} {history : List (Event serviceInterface)} {rest : ServiceProgram Response}

/-- A run of the router follows the CORS layer and what is inside it, until it ends
or the time has run out while it waits. -/
theorem createRouter_runs (built : createRouter libs state = some service)
    (reached : (service request).Reaches history rest) :
    ∃ cors inner, buildCorsLayer state.config = some cors ∧
      (cors.layer (routes libs state) request).Reaches (untimed history) inner ∧
      ((¬ TimedOut history ∧
        ∀ response, rest = .done response → ∃ own, inner = .done own ∧ response = finish request (secure own)) ∨
       (TimedOut history ∧ rest = .done (finish request requestTimeout) ∧
        ∃ op next, inner = .call op next ∧ op.waits = true)) := by
  unfold createRouter at built
  obtain ⟨cors, layered, same⟩ := Option.map_eq_some_iff.mp built
  rw [← same] at reached
  obtain ⟨late, reached, finished⟩ := Program.reaches_map.mp reached
  have quiet : (securityHeadersMiddleware (cors.layer (routes libs state)) request).Performs
      (fun op => op ≠ ServiceOp.deadline) := by
    apply Program.performs_map
    unfold CorsLayer.layer
    split
    · trivial
    · apply Program.performs_map
      exact routes_performs.mono fun op permitted => permitted.untimed
  obtain ⟨middle, followed, outcome⟩ := Program.reaches_deadline quiet reached
  obtain ⟨inner, within, secured⟩ := Program.reaches_map.mp followed
  refine ⟨cors, inner, layered, within, ?_⟩
  rcases outcome with ⟨onTime, ended⟩ | ⟨timedOut, dropped, op, next, waiting, waits⟩
  · refine .inl ⟨onTime, fun response same => ?_⟩
    rw [finished] at same
    obtain ⟨own, lateDone, delivered⟩ := Program.map_eq_done.mp same
    obtain ⟨handled, innerDone, same⟩ := Program.map_eq_done.mp (secured.symm.trans (ended own lateDone))
    exact ⟨handled, innerDone, by rw [← delivered, same]⟩
  · refine .inr ⟨timedOut, by rw [finished, dropped]; rfl, ?_⟩
    rw [waiting] at secured
    cases inner with
    | done own => cases secured
    | call op' next' =>
      cases secured
      exact ⟨_, _, rfl, waits⟩

/-- The same for a request that is not a preflight request. -/
theorem createRouter_routes (built : createRouter libs state = some service)
    (notPreflight : request.method ≠ .options) (reached : (service request).Reaches history rest) :
    ∃ cors inner, buildCorsLayer state.config = some cors ∧
      (routes libs state request).Reaches (untimed history) inner ∧
      ((¬ TimedOut history ∧
        ∀ response, rest = .done response → ∃ own, inner = .done own ∧ response = deliver cors request own) ∨
       (TimedOut history ∧ rest = .done (finish request requestTimeout) ∧
        ∃ op next, inner = .call op next ∧ op.waits = true)) := by
  obtain ⟨cors, layer, layered, reached, outcome⟩ := createRouter_runs built reached
  unfold CorsLayer.layer at reached
  rw [if_neg notPreflight] at reached
  obtain ⟨inner, within, decorated⟩ := Program.reaches_map.mp reached
  refine ⟨cors, inner, layered, within, ?_⟩
  rcases outcome with ⟨onTime, ended⟩ | ⟨timedOut, dropped, op, next, waiting, waits⟩
  · refine .inl ⟨onTime, fun response same => ?_⟩
    obtain ⟨own, layerDone, delivered⟩ := ended response same
    obtain ⟨handled, innerDone, same⟩ := Program.map_eq_done.mp (decorated.symm.trans layerDone)
    exact ⟨handled, innerDone, by rw [delivered, ← same]; rfl⟩
  · refine .inr ⟨timedOut, dropped, ?_⟩
    rw [waiting] at decorated
    cases inner with
    | done own => cases decorated
    | call op' next' =>
      cases decorated
      exact ⟨_, _, rfl, waits⟩

/-- Preflight requests ask for nothing, and others only for what they may. -/
theorem permitted_history (built : createRouter libs state = some service)
    (reached : (service request).Reaches history rest) {op : ServiceOp} {reply : op.Reply}
    (other : op ≠ .deadline) (member : (⟨op, reply⟩ : Event serviceInterface) ∈ history) :
    request.method ≠ .options ∧ Permitted libs request op := by
  have seen := (mem_untimed other).mpr member
  by_cases preflight : request.method = .options
  · obtain ⟨cors, inner, _, layer, _⟩ := createRouter_runs built reached
    unfold CorsLayer.layer at layer
    rw [if_pos preflight] at layer
    rw [(Program.reaches_done.mp layer).1] at seen
    cases seen
  · obtain ⟨cors, inner, _, followed, _⟩ := createRouter_routes built preflight reached
    exact ⟨preflight, (followed.performs routes_performs).1 _ seen⟩

theorem timedOut_status {response : Response} (built : createRouter libs state = some service)
    (reached : (service request).Reaches history (.done response)) (timedOut : TimedOut history) :
    response.status = .REQUEST_TIMEOUT := by
  obtain ⟨cors, inner, _, _, outcome⟩ := createRouter_runs built reached
  rcases outcome with ⟨onTime, _⟩ | ⟨_, dropped, _⟩
  · exact absurd timedOut onTime
  · rw [Program.done.inj dropped, finish_status]
    rfl

theorem onTime_of_success {response : Response} (built : createRouter libs state = some service)
    (reached : (service request).Reaches history (.done response)) (succeeded : ¬ response.status.isError) :
    ¬ TimedOut history := by
  intro timedOut
  rw [timedOut_status built reached timedOut] at succeeded
  exact succeeded (by decide)

end Runs

/-! ## Libraries to evaluate the router with -/

def examplePayload : List UInt8 :=
  HeaderValue.ofString "\x7b\"name\": \" Ana \", \"email\": \"ana@example.com\"\x7d"

def exampleLibraries : Libraries where
  jwt := exampleLibrary
  jsonContentType headers :=
    if headers.get "content-type" = some (HeaderValue.ofString "application/json") then .ok ()
    else .error "Expected request with content type application/json"
  jsonPayload body :=
    if body = examplePayload then .ok ⟨" Ana ", "ana@example.com"⟩
    else .error "Failed to parse the request body as JSON"
  pathUuid segment := .ok ⟨segment⟩
  swaggerUi _ :=
    { status := .OK
      headers := HeaderMap.empty.append "content-type" (HeaderValue.ofString "text/html")
      body := .text "<!DOCTYPE html>" }

def exampleService (request : Request) : ServiceProgram Response :=
  (timeoutLayer (securityHeadersMiddleware
    (CorsLayer.permissive.layer (routes exampleLibraries exampleState))) request).map (finish request)

theorem exampleService_built : createRouter exampleLibraries exampleState = some exampleService := rfl

def plainRequest (method : Method) (path : String) : Request := ⟨method, ⟨path, path⟩, HeaderMap.empty, []⟩

end TemplateServico
