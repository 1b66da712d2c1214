import TemplateServico.Interaction.Alike
import TemplateServico.Routes

/-! What clients can learn about failures behind the service.

The texts of errors from the database and from the key endpoint are logged and never
sent. So two runs that differ in nothing else end with the same response, and neither
do the parts of the configuration that the router does not use make a difference.
-/

set_option autoImplicit false

namespace TemplateServico

open Http Interaction Postgres Handlers

/-- Replies that differ at most in what clients are not told. Of an error from the
database they are told whether it is taken for a conflict. -/
inductive Undisclosed : Similarity serviceInterface where
  | same {op : ServiceOp} (reply : op.Reply) : Undisclosed op reply reply
  | lookup {url : String} {fetched fetched' : Fetched String} : (∀ body, fetched ≠ .body body) →
      (∀ body, fetched' ≠ .body body) → Undisclosed (.jwks (.fetch url)) fetched fetched'
  | notSent {statement : Statement} {error error' : SqlxError} :
      isUniqueViolation error = isUniqueViolation error' →
      Undisclosed (.send statement) (.error error) (.error error')
  | refused {statement : Statement} {error error' : SqlxError} :
      isUniqueViolation error = isUniqueViolation error' →
      Undisclosed (.receive statement) (.error error) (.error error')

/-- The parts of the state that the router uses. -/
structure SameRouter (state state' : AppState) : Prop where
  environment : state.config.environment = state'.config.environment
  allowedOrigins : state.config.allowedOrigins = state'.config.allowedOrigins
  jwtIssuer : state.config.jwtIssuer = state'.config.jwtIssuer
  jwtAudience : state.config.jwtAudience = state'.config.jwtAudience
  jwksCache : state.jwksCache = state'.jwksCache

theorem undisclosed_exact {op : ServiceOp} {reply reply' : op.Reply}
    (plain : (∀ url, op ≠ .jwks (.fetch url)) ∧ Local op) (same : Undisclosed op reply reply') : reply = reply' := by
  cases same with
  | same => rfl
  | lookup _ _ => exact absurd rfl (plain.1 _)
  | notSent _ => exact absurd rfl (plain.2 _).1
  | refused _ => exact absurd rfl (plain.2 _).2

/-! ## Handlers -/

/-- Answers of the database that clients cannot tell apart. -/
inductive SameAnswer : Except SqlxError (List User) → Except SqlxError (List User) → Prop where
  | ok (rows : List User) : SameAnswer (.ok rows) (.ok rows)
  | error {error error' : SqlxError} : isUniqueViolation error = isUniqueViolation error' →
      SameAnswer (.error error) (.error error')

theorem database_sameResponse {error error' : SqlxError} (same : isUniqueViolation error = isUniqueViolation error') :
    (AppError.database error).intoResponse = (AppError.database error').intoResponse := by
  unfold AppError.intoResponse AppError.problem
  dsimp only
  rw [same]

abbrev SameResponse (first second : AppResult (StatusCode × Json)) : Prop := intoResponse first = intoResponse second

theorem query_alike (statement : Statement) : Alike Undisclosed SameAnswer (query statement) (query statement) := by
  refine .call _ fun sent sent' same => ?_
  cases same with
  | same =>
    cases sent with
    | error error => exact .done (.error rfl)
    | ok done =>
      refine .call _ fun answer answer' same => ?_
      cases same with
      | same =>
        cases answer with
        | error error => exact .done (.error rfl)
        | ok rows => exact .done (.ok rows)
      | refused same => exact .done (.error same)
  | notSent same => exact .done (.error same)

theorem onQuery_alike {point : Point} {statement : Statement}
    {answered : Except SqlxError (List User) → AppResult (StatusCode × Json)}
    (image : ∀ answer answer', SameAnswer answer answer' → SameResponse (answered answer) (answered answer')) :
    Alike Undisclosed SameResponse (onQuery point statement answered) (onQuery point statement answered) :=
  .call _ fun _ _ _ => (query_alike statement).map image

theorem healthCheck_alike : Alike Undisclosed SameResponse healthCheck healthCheck := by
  apply onQuery_alike
  intro answer answer' same
  cases same <;> rfl

theorem created_alike {answer answer' : Except SqlxError (List User)} (same : SameAnswer answer answer') :
    SameResponse (created answer) (created answer') := by
  cases same with
  | ok rows => rfl
  | error same => exact database_sameResponse same

theorem listUsers_alike : Alike Undisclosed SameResponse listUsers listUsers := by
  apply onQuery_alike
  intro answer answer' same
  cases same with
  | ok rows => rfl
  | error same => exact database_sameResponse same

theorem getUser_alike (id : Uuid) : Alike Undisclosed SameResponse (getUser id) (getUser id) := by
  apply onQuery_alike
  intro answer answer' same
  cases same with
  | ok rows => rfl
  | error same => exact database_sameResponse same

theorem createUser_alike (payload : CreateUserPayload) :
    Alike Undisclosed SameResponse (createUser payload) (createUser payload) := by
  refine .call _ fun _ _ _ => ?_
  cases checkPayload payload with
  | error error => exact .done rfl
  | ok values =>
    refine .call _ fun id id' same => ?_
    cases same
    exact (query_alike _).map fun answer answer' => created_alike

theorem postUsers_alike (libs : Libraries) (request : Request) :
    Alike Undisclosed SameResponse (postUsers libs request) (postUsers libs request) := by
  have extracted : (appJson libs request).Performs fun op : ServiceOp => (∀ url, op ≠ .jwks (.fetch url)) ∧ Local op :=
    appJson_performs ⟨nofun, local_of nofun nofun⟩
  apply (Alike.of_exact (fun op reply reply' => undisclosed_exact) extracted).bind
  intro result result' same
  subst same
  cases result with
  | error error => exact .done rfl
  | ok payload => exact createUser_alike payload

theorem getUsersById_alike (libs : Libraries) (segment : String) :
    Alike Undisclosed SameResponse (getUsersById libs segment) (getUsersById libs segment) := by
  unfold getUsersById
  cases appPath libs segment with
  | error error => exact .done rfl
  | ok id => exact getUser_alike id

/-! ## The router -/

section Router

variable {libs : Libraries} {state state' : AppState} {request : Request}

theorem Endpoint.serve_alike (endpoint : Endpoint) :
    Alike Undisclosed Eq (endpoint.serve libs request) (endpoint.serve libs request) := by
  cases endpoint with
  | documentation => exact .done rfl
  | metrics =>
    refine .call _ fun text text' same => ?_
    cases same
    exact .done rfl
  | healthCheck => exact healthCheck_alike.map fun _ _ same => same
  | createUser => exact (postUsers_alike libs request).map fun _ _ same => same
  | listUsers => exact listUsers_alike.map fun _ _ same => same
  | getUser segment => exact (getUsersById_alike libs segment).map fun _ _ same => same

theorem Route.serve_alike (route : Route) :
    Alike Undisclosed Eq (route.serve libs request) (route.serve libs request) := by
  unfold Route.serve
  cases route.endpoint request.method with
  | none => exact .done rfl
  | some endpoint => exact endpoint.serve_alike

/-- A lookup that fails, fails for all that clients know. -/
theorem getDecodingKey_alike {lib : Jsonwebtoken.Library} {cache : JwksCache} {kid : Option String} :
    Alike Undisclosed (fun found found' => found = found' ∨ ∃ reason reason', found = .error reason ∧ found' = .error reason')
      ((getDecodingKey lib cache kid).inject jwksEmbedding) ((getDecodingKey lib cache kid).inject jwksEmbedding) := by
  refine .call _ fun held held' same => ?_
  cases same
  cases held with
  | some json => exact .done (.inl rfl)
  | none =>
    refine .call _ fun fetched fetched' same => ?_
    cases same with
    | same =>
      cases fetched with
      | body json => exact .call _ fun _ _ _ => .done (.inl rfl)
      | _ => exact .done (.inl rfl)
    | lookup failed failed' =>
      cases fetched with
      | body json => exact absurd rfl (failed json)
      | _ =>
        cases fetched' with
        | body json => exact absurd rfl (failed' json)
        | _ => exact .done (.inr ⟨_, _, rfl, rfl⟩)

theorem validation_congr (same : SameRouter state state') (alg : Jsonwebtoken.Algorithm) :
    validation state.config alg = validation state'.config alg := by
  unfold validation
  rw [same.jwtIssuer, same.jwtAudience]

theorem jwtAuthMiddleware_alike (same : SameRouter state state') {next : Request → ServiceProgram Response}
    (inner : Alike Undisclosed Eq (next request) (next request)) :
    Alike Undisclosed Eq (jwtAuthMiddleware libs.jwt state request next)
      (jwtAuthMiddleware libs.jwt state' request next) := by
  have onward : Alike Undisclosed Eq (runNext next request) (runNext next request) := .call _ fun _ _ _ => inner
  unfold jwtAuthMiddleware
  rw [same.jwksCache]
  cases state'.jwksCache with
  | none => exact onward
  | some cache =>
  dsimp only
  cases extractBearerToken request with
  | none => exact .done rfl
  | some token =>
  dsimp only
  cases libs.jwt.decodeHeader token with
  | error reason => exact .done rfl
  | ok header =>
  apply getDecodingKey_alike.bind
  intro found found' agree
  rcases agree with agree | ⟨reason, reason', failed, failed'⟩
  · subst agree
    cases found with
    | error reason => exact .done rfl
    | ok key =>
      refine .call _ fun now now' same' => ?_
      cases same'
      rw [validation_congr same]
      cases libs.jwt.decode token key (validation state'.config header.alg) now with
      | ok claims => exact onward
      | error reason => exact .done rfl
  · rw [failed, failed']
    exact .done rfl

theorem routes_alike (same : SameRouter state state') :
    Alike Undisclosed Eq (routes libs state request) (routes libs state' request) := by
  unfold routes
  cases Route.find request.uri.path with
  | none => exact .done rfl
  | some route =>
    dsimp only
    split
    · exact jwtAuthMiddleware_alike same route.serve_alike
    · exact route.serve_alike

theorem createRouter_alike (same : SameRouter state state') {service service' : Request → ServiceProgram Response}
    (built : createRouter libs state = some service) (built' : createRouter libs state' = some service') :
    Alike Undisclosed Eq (service request) (service' request) := by
  obtain ⟨cors, layered, built⟩ := Option.map_eq_some_iff.mp built
  obtain ⟨cors', layered', built'⟩ := Option.map_eq_some_iff.mp built'
  have sameLayer : cors' = cors := by
    unfold buildCorsLayer at layered layered'
    rw [same.environment, same.allowedOrigins] at layered
    exact Option.some.inj (layered'.symm.trans layered)
  rw [← built, ← built', sameLayer]
  have inner : Alike Undisclosed Eq (securityHeadersMiddleware (cors.layer (routes libs state)) request)
      (securityHeadersMiddleware (cors.layer (routes libs state')) request) := by
    refine Alike.map ?_ fun _ _ same => congrArg secure same
    unfold CorsLayer.layer
    split
    · exact .done rfl
    · exact (routes_alike same).map fun _ _ same => congrArg _ same
  refine Alike.map (inner.deadline ?_ rfl) fun _ _ same => congrArg _ same
  intro reply reply' same
  cases same
  rfl

/-- Whatever goes wrong behind the service, two runs in which clients are told the
same, follow each other to the same response. -/
theorem failures_undisclosed (same : SameRouter state state') {service service' : Request → ServiceProgram Response}
    (built : createRouter libs state = some service) (built' : createRouter libs state' = some service')
    {history history' : List (Event serviceInterface)} (alike : SimilarHistory Undisclosed history history')
    {rest : ServiceProgram Response} (reached : (service request).Reaches history rest) :
    ∃ rest', (service' request).Reaches history' rest' ∧
      ∀ response, rest = .done response → rest' = .done response := by
  obtain ⟨rest', reached', ends⟩ := (createRouter_alike same built built').reaches alike reached
  refine ⟨rest', reached', ?_⟩
  intro response finished
  rw [finished] at ends
  obtain ⟨response', same, agree⟩ := ends.of_done
  rw [same, agree]

end Router

def otherDatabase : AppState :=
  { exampleState with config := { exampleState.config with databaseUrl := "postgres://app:secret@db/app" } }

def failingHealth (display : String) : List (Event serviceInterface) :=
  [passed .healthCheck, ⟨.deadline, false⟩, ⟨.send .selectOne, .error (.other display)⟩]

theorem failing_health_undisclosed : ∃ service response, createRouter exampleLibraries otherDatabase = some service ∧
    (exampleService (plainRequest .get "/health")).Reaches (failingHealth "connection refused") (.done response) ∧
    (service (plainRequest .get "/health")).Reaches (failingHealth "password authentication failed for user \"app\"")
      (.done response) := by
  obtain ⟨response, reached, _⟩ := Program.reaches_of_replay (exampleService (plainRequest .get "/health"))
    (failingHealth "connection refused") (fun _ => true) (by decide)
  have same : SameRouter exampleState otherDatabase := ⟨rfl, rfl, rfl, rfl, rfl⟩
  have alike : SimilarHistory Undisclosed (failingHealth "connection refused")
      (failingHealth "password authentication failed for user \"app\"") :=
    .cons (.mk (.same _)) (.cons (.mk (.same _)) (.cons (.mk (.notSent (by decide))) .nil))
  obtain ⟨rest, reached', ends⟩ := failures_undisclosed same exampleService_built rfl alike reached
  rw [ends response rfl] at reached'
  exact ⟨_, response, rfl, reached, reached'⟩

end TemplateServico
