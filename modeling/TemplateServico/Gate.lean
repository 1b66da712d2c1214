import TemplateServico.Service

/-! Which requests get past the token check, over whole runs of the service. -/

set_option autoImplicit false

namespace TemplateServico

open Http Interaction Jsonwebtoken

/-- The key that a header asks for: the first with its id, or the first at all. -/
def Selected (jwks : JwkSet) (kid : Option String) (jwk : Jwk) : Prop :=
  match kid with
  | some k => jwks.find k = some jwk
  | none => jwks.keys.head? = some jwk

-- The library tolerates an expiry that is up to a minute ago.
structure Credential (lib : Library) (request : Request) (json : String) (now : Nat) (token : String)
    (header : Header) (jwks : JwkSet) (jwk : Jwk) (key : DecodingKey) (payload : Payload)
    (claims : Claims) : Prop where
  bearer : ∃ value, request.headers.get "authorization" = some value ∧
    HeaderValue.toStr value = some ("Bearer " ++ token)
  headerRead : lib.decodeHeader token = .ok header
  document : lib.parseJwkSet json = .ok jwks
  selected : Selected jwks header.kid jwk
  built : lib.fromJwk jwk = .ok key
  family : jwk.keyType.family = header.alg.family
  signature : lib.verifies token key header.alg = true
  payloadRead : lib.payload token = some payload
  unexpired : ∃ exp : Nat, Json.field "exp" payload = some (some (.int exp)) ∧ now - 60 ≤ exp
  claimsRead : Claims.fromPayload payload = some claims
  -- A symmetric signature needs a symmetric key in the document.
  symmetric : (∀ jwk ∈ jwks.keys, jwk.keyType ≠ .octetKey) →
    header.alg ≠ .HS256 ∧ header.alg ≠ .HS384 ∧ header.alg ≠ .HS512

theorem extractBearerToken_eq {request : Request} {token : String}
    (bearer : extractBearerToken request = some token) :
    ∃ value, request.headers.get "authorization" = some value ∧
      HeaderValue.toStr value = some ("Bearer " ++ token) := by
  unfold extractBearerToken at bearer
  simp only [Option.bind_eq_bind, Option.bind_eq_some_iff] at bearer
  obtain ⟨value, present, text, visible, stripped⟩ := bearer
  rw [Text.stripPrefix_eq_some.mp stripped] at visible
  exact ⟨value, present, visible⟩

theorem Selected.mem {jwks : JwkSet} {kid : Option String} {jwk : Jwk} (selected : Selected jwks kid jwk) :
    jwk ∈ jwks.keys := by
  cases kid with
  | some k => exact List.mem_of_find?_eq_some selected
  | none => exact List.mem_of_head? selected

theorem validation_leeway (config : AppConfig) (alg : Algorithm) :
    (validation config alg).leeway = 60 ∧ (validation config alg).validateExp = true := by
  unfold validation
  cases config.jwtIssuer <;> cases config.jwtAudience <;> exact ⟨rfl, rfl⟩

theorem credential_of_admits {lib : Library} (documented : lib.Documented) {config : AppConfig}
    {request : Request} {json : String} {now : Nat} (admits : Admits lib config request json now) :
    ∃ token header jwks jwk key payload claims,
      Credential lib request json now token header jwks jwk key payload claims := by
  obtain ⟨token, header, key, payload, claims, bearer, chosen, valid⟩ := admits
  obtain ⟨jwks, jwk, parsed, found, built⟩ := selectKey_ok.mp chosen
  have selected : Selected jwks header.kid jwk := selectJwk_ok.mp found
  have family : jwk.keyType.family = header.alg.family :=
    (documented.fromJwk_family built).symm.trans (valid.family header.alg valid.algorithm)
  obtain ⟨leeway, checked⟩ := validation_leeway config header.alg
  refine ⟨token, header, jwks, jwk, key, payload, claims,
    { bearer := extractBearerToken_eq bearer
      headerRead := valid.headerRead
      document := parsed
      selected := selected
      built := built
      family := family
      signature := valid.signature
      payloadRead := valid.payloadRead
      unexpired := ⟨claims.exp, Claims.exp_field valid.claimsRead, ?_⟩
      claimsRead := valid.claimsRead
      symmetric := ?_ }⟩
  · have unexpired := valid.unexpired
    rw [notExpired, leeway, checked] at unexpired
    simpa using unexpired
  · intro asymmetric
    have kept := asymmetric jwk selected.mem
    refine ⟨?_, ?_, ?_⟩ <;> intro same <;> rw [same] at family <;> revert kept family <;>
      cases jwk.keyType <;> decide

/-- A request that the token check sees. -/
def Guarded (request : Request) : Prop :=
  request.method ≠ .options ∧ ∃ route, Route.find request.uri.path = some route ∧ route.isProtected = true

section Runs

variable {libs : Libraries} {state : AppState} {cache : JwksCache}
  {service : Request → ServiceProgram Response} {request : Request}

theorem routes_protected {route : Route} (found : Route.find request.uri.path = some route)
    (isProtected : route.isProtected = true) :
    routes libs state request = jwtAuthMiddleware libs.jwt state request (route.serve libs) := by
  unfold routes
  rw [found]
  exact if_pos isProtected

theorem guarded_of_handler (built : createRouter libs state = some service)
    {history : List (Event serviceInterface)} {rest : ServiceProgram Response}
    (reached : (service request).Reaches history rest) {point : Point} (users : point.isUsersHandler = true)
    (member : passed point ∈ history) : Guarded request := by
  obtain ⟨notPreflight, permitted⟩ := permitted_history built reached (by nofun) member
  exact ⟨notPreflight, permitted.guarded point rfl users⟩

theorem endpoint_route {endpoint : Endpoint} (target : endpointOf request = some endpoint) :
    ∃ route, Route.find request.uri.path = some route ∧ route.endpoint request.method = some endpoint ∧
      request.method ≠ .options := by
  obtain ⟨route, found, served⟩ := Option.bind_eq_some_iff.mp target
  refine ⟨route, found, served, ?_⟩
  intro preflight
  rw [preflight] at served
  cases route <;> cases served

theorem Deciding.isLocal {op : ServiceOp} (decides : Deciding op) : Handlers.Local op := by
  rcases decides with ⟨inner, same⟩ | same
  · rw [same]
    exact Handlers.local_of nofun nofun
  · rw [same]
    exact Handlers.local_of nofun nofun

/-- A request to a users handler is refused without a word to the database, or what
it says to the database is what the handler says. -/
theorem endpoint_runs (built : createRouter libs state = some service) {endpoint : Endpoint}
    (target : endpointOf request = some endpoint) (users : endpoint.isUsers = true)
    {history : List (Event serviceInterface)} {rest : ServiceProgram Response}
    (reached : (service request).Reaches history rest) :
    ((∀ event ∈ history, Handlers.Local event.1) ∧
      ∀ response, rest = .done response → TimedOut history ∨ response.status = .UNAUTHORIZED) ∨
    ∃ later inner, (endpoint.serve libs request).Reaches later inner ∧ (∀ event ∈ later, event ∈ history) ∧
      (∀ event ∈ history, Handlers.Local event.1 ∨ event ∈ later) ∧
      ((¬ TimedOut history ∧ ∀ response, rest = .done response → ∃ own, inner = .done own ∧
          response.status = own.status ∧ (request.method ≠ .head → response.body = own.body)) ∨
        (TimedOut history ∧ ∃ op next, inner = .call op next)) := by
  obtain ⟨route, found, served, notPreflight⟩ := endpoint_route target
  obtain ⟨cors, inner, _, followed, outcome⟩ := createRouter_routes built notPreflight reached
  rw [routes_protected found ((Route.isProtected_eq served).trans users)] at followed
  -- Looks at the time are no words to the database either.
  have seen (event : Event serviceInterface) (member : event ∈ history) :
      Handlers.Local event.1 ∨ event ∈ untimed history := by
    by_cases look : event.1 = .deadline
    · left
      rw [look]
      exact Handlers.local_of nofun nofun
    · exact .inr ((Program.mem_awaited look).mpr member)
  rcases jwtAuthMiddleware_next followed with ⟨before, later, split, decides, onward⟩ | ⟨decides, refused⟩
  · right
    unfold Route.serve at onward
    rw [served] at onward
    refine ⟨later, inner, onward, ?_, ?_, ?_⟩
    · intro event member
      have within : event ∈ untimed history := by
        rw [split]
        exact List.mem_append_right _ (List.mem_cons_of_mem _ member)
      exact List.mem_of_mem_filter within
    · intro event member
      rcases seen event member with isLocal | within
      · exact .inl isLocal
      rw [split, List.mem_append, List.mem_cons] at within
      rcases within with early | same | late
      · exact .inl (decides event early).isLocal
      · left
        rw [same]
        exact Handlers.local_of nofun nofun
      · exact .inr late
    · rcases outcome with ⟨onTime, ended⟩ | ⟨timedOut, _, op, next, waiting, _⟩
      · refine .inl ⟨onTime, fun response finished => ?_⟩
        obtain ⟨own, same, delivered⟩ := ended response finished
        rw [delivered]
        exact ⟨own, same, deliver_status, deliver_body⟩
      · exact .inr ⟨timedOut, op, next, waiting⟩
  · left
    constructor
    · intro event member
      exact (seen event member).elim (fun isLocal => isLocal) fun within => (decides event within).isLocal
    · intro response finished
      rcases outcome with ⟨_, ended⟩ | ⟨timedOut, _⟩
      · obtain ⟨own, answered, delivered⟩ := ended response finished
        rw [delivered, deliver_status]
        exact .inr (refused own answered).problem.1
      · exact .inl timedOut

/-- In every run of the service, a users handler runs for a request only after the
request's own lookup returned a document with a key for which its token is valid.
A request that is not let through is answered with status 401, unless its time runs
out first, and sends no statement. -/
theorem gate_sound (documented : libs.jwt.Documented) (enabled : state.jwksCache = some cache)
    (built : createRouter libs state = some service)
    {pool : Pool serviceInterface ServiceState Request Response}
    (reachable : (serviceMachine service).Reachable .initial pool) {position : Nat}
    {history : List (Event serviceInterface)} {program : ServiceProgram Response}
    (selected : pool.tasks[position]? = some ⟨request, history, program⟩) :
    (∀ point, point.isUsersHandler = true → passed point ∈ history →
      ∃ asked json now, asked.map jwksEmbedding.event ++ [⟨.clock, now⟩, passed .nextRun] <+: untimed history ∧
        (getJwksJson cache).Reaches asked (.done (.ok json)) ∧
        ∃ token header jwks jwk key payload claims,
          Credential libs.jwt request json now token header jwks jwk key payload claims) ∧
    (Guarded request → passed .nextRun ∉ history →
      (∀ statement reply, (⟨.send statement, reply⟩ : Event serviceInterface) ∉ history) ∧
      ∀ response, program = .done response → TimedOut history ∨ response.status = .UNAUTHORIZED) := by
  have reached : (service request).Reaches history program := reachable.reaches selected
  constructor
  · intro point users member
    have guarded := guarded_of_handler built reached users member
    obtain ⟨cors, inner, _, followed, _⟩ := createRouter_routes built guarded.1 reached
    obtain ⟨_, route, found, isProtected⟩ := guarded
    rw [routes_protected found isProtected] at followed
    have seen : passed point ∈ untimed history := (mem_untimed (by nofun)).mpr member
    rcases jwtAuthMiddleware_cases enabled followed with
      ⟨asked, json, now, later, split, fetched, accepts, _⟩ | ⟨decides, _⟩
    · refine ⟨asked, json, now, ⟨later, by simp [split]⟩, fetched, ?_⟩
      exact credential_of_admits documented ((accepts_iff_admits documented).mp accepts)
    · rcases decides _ seen with ⟨_, same⟩ | same
      · cases same
      · cases same
  · intro guarded stopped
    obtain ⟨cors, inner, _, followed, outcome⟩ := createRouter_routes built guarded.1 reached
    obtain ⟨_, route, found, isProtected⟩ := guarded
    rw [routes_protected found isProtected] at followed
    rcases jwtAuthMiddleware_next followed with ⟨before, later, split, _, _⟩ | ⟨decides, refused⟩
    · exact absurd ((mem_untimed (by nofun)).mp (by simp [split])) stopped
    · constructor
      · intro statement reply member
        exact ((decides _ ((mem_untimed (by nofun)).mpr member)).isLocal statement).1 rfl
      · intro response finished
        rcases outcome with ⟨_, ended⟩ | ⟨timedOut, _⟩
        · obtain ⟨own, answered, delivered⟩ := ended response finished
          rw [delivered, deliver_status]
          exact .inr (refused own answered).problem.1
        · exact .inl timedOut

end Runs

/-- The first request with a valid token fetches the key set and gets to its handler. -/
def fullTokenHistory : List (Event serviceInterface) :=
  [⟨.deadline, false⟩, ⟨.jwks .readCache, none⟩,
   ⟨.deadline, false⟩, ⟨.jwks (.fetch exampleCache.url), .body keySetText⟩,
   ⟨.deadline, false⟩, ⟨.jwks (.writeCache keySetText), ()⟩,
   ⟨.clock, 1000⟩, passed .nextRun, passed .listUsers]

def firstState : ServiceState := { ServiceState.initial with cachedJson := some keySetText }

theorem first_performed : (serviceMachine exampleService).Performed 0 .initial fullTokenHistory firstState :=
  .reply (.deadline _ _) (.reply (.readCache _) (.reply (.deadline _ _) (.reply (.fetch _ _ _)
    (.reply (.deadline _ _) (.reply (.writeCache _ _) (.reply (.clock _ _) (.reply (.pass _ _)
    (.reply (.pass _ _) (.nothing _)))))))))

theorem full_token_gate : ∃ asked json now token header jwks jwk key payload claims,
    (getJwksJson exampleCache).Reaches asked (.done (.ok json)) ∧
    Credential exampleLibrary (bearing "full") json now token header jwks jwk key payload claims := by
  obtain ⟨rest, reached⟩ : ∃ rest, (exampleService (bearing "full")).Reaches fullTokenHistory rest :=
    Program.reaches_of_isSome (by decide)
  have reachable := Machine.reachable_alone reached first_performed
  have selected : ([⟨bearing "full", fullTokenHistory, rest⟩] :
      List (Task serviceInterface Request Response))[0]? = some ⟨bearing "full", fullTokenHistory, rest⟩ := rfl
  obtain ⟨asked, json, now, _, fetched, credential⟩ :=
    (gate_sound (tableLibrary_documented _ _) rfl exampleService_built reachable selected).1
      .listUsers rfl (by simp [fullTokenHistory])
  obtain ⟨token, header, jwks, jwk, key, payload, claims, credential⟩ := credential
  exact ⟨asked, json, now, token, header, jwks, jwk, key, payload, claims, fetched, credential⟩

end TemplateServico
