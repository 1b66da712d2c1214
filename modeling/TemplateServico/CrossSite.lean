import TemplateServico.Authorship
import TemplateServico.CrossOrigin

/-! What pages of other origins can do to a process in production.

A browser sends what they ask for only if it is harmless by the Fetch standard, or if
the answer to a preflight request permits it.
-/

set_option autoImplicit false

namespace TemplateServico

open Http Interaction Postgres

/-- The media types that the `Json` extractor takes. -/
def IsJsonType (value : HeaderValue) : Prop :=
  Fetch.essence value = HeaderValue.ofString "application/json" ∨
    HeaderValue.ofString "application/" <+: Fetch.essence value ∧ HeaderValue.ofString "+json" <:+ Fetch.essence value

instance (value : HeaderValue) : Decidable (IsJsonType value) := inferInstanceAs (Decidable (_ ∨ _))

def Libraries.JsonTyped (libs : Libraries) : Prop :=
  ∀ headers, libs.jsonContentType headers = .ok () →
    ∃ value, headers.get "content-type" = some value ∧ IsJsonType value

theorem not_simple_of_json {value : HeaderValue} (json : IsJsonType value) :
    Fetch.essence value ∉ Fetch.simpleTypes := by
  intro simple
  unfold IsJsonType at json
  revert json
  generalize Fetch.essence value = type at simple
  simp only [Fetch.simpleTypes, List.map_cons, List.map_nil, List.mem_cons, List.not_mem_nil, or_false] at simple
  rcases simple with same | same | same <;> rw [same] <;> decide

def Answers (service : Request → ServiceProgram Response) (request : Request) (response : Response) : Prop :=
  ∃ history, (service request).Reaches history (.done response)

section Service

variable {libs : Libraries} {state : AppState} {service : Request → ServiceProgram Response} {request : Request}
  {page : Fetch.PageRequest}

/-- In production only listed origins are permitted anything, and nobody is permitted an
`authorization` header. -/
theorem permitted_page (built : createRouter libs state = some service)
    (production : state.config.environment = .production) {response : Response}
    (answered : Answers service page.preflight response) (permits : Fetch.Permits page response) :
    page.origin ∈ state.config.allowedOrigins.filterMap HeaderValue.parse ∧
      ∀ name ∈ page.headerNames, Text.asciiLowercase name ≠ "authorization" := by
  obtain ⟨history, reached⟩ := answered
  obtain ⟨cors, layered, atOnce⟩ := createRouter_preflight built page.preflight_method
  obtain ⟨plain, origins, _⟩ := production_layer production layered
  rw [atOnce] at reached
  have same := Program.done.inj (Program.reaches_done.mp reached).2
  have written : response.headers.getAll allowOriginField = (cors.allowOrigin.toHeader (some page.origin)).toList := by
    rw [same, getAll_finish_secure (by decide) (by decide), ← page.preflight_origin]
    exact allowOrigin_preflight
  have listed : page.origin ∈ state.config.allowedOrigins.filterMap HeaderValue.parse := by
    have readable := (corsCheck_iff written).mp permits.origin
    rw [origins] at readable
    simp only [AllowOrigin.toHeader, Option.filter_eq_some_iff, Option.some.injEq, decide_eq_true_eq] at readable
    rcases readable with ⟨star, member⟩ | ⟨_, member⟩
    · exact absurd member plain
    · exact member
  refine ⟨listed, ?_⟩
  obtain ⟨own, answered, permitted⟩ := preflight_permits built production (List.mem_filterMap.mp listed)
  rw [atOnce] at answered
  rw [same.trans (Program.done.inj answered)] at permits
  exact (permitted page rfl).mp permits

theorem insert_typed (built : createRouter libs state = some service) {history : List (Event serviceInterface)}
    {rest : ServiceProgram Response} (reached : (service request).Reaches history rest) {id : Uuid} {name email : String}
    (sent : (⟨.send (.insertUser id name email), .ok ()⟩ : Event serviceInterface) ∈ history) :
    libs.jsonContentType request.headers = .ok () := by
  obtain ⟨creates, _⟩ := sent_issues built reached sent
  rcases endpoint_runs built creates rfl reached with ⟨quiet, _⟩ | ⟨later, inner, handled, _, seen, _⟩
  · exact absurd rfl (quiet _ sent _).1
  have asked := (seen _ sent).resolve_left fun isLocal => (isLocal _).1 rfl
  cases typed : libs.jsonContentType request.headers with
  | ok _ => rfl
  | error text =>
    have refused : Handlers.postUsers libs request = .done (.error (.fromJsonRejection text)) := by
      unfold Handlers.postUsers Handlers.appJson
      rw [typed]
      rfl
    have handled : ((Handlers.postUsers libs request).map Handlers.intoResponse).Reaches later inner := handled
    rw [refused] at handled
    obtain ⟨empty, _⟩ := Program.reaches_done.mp handled
    rw [empty] at asked
    cases asked

end Service

/-- In production a page of another origin adds a row to the users table only if its origin
is an entry of ALLOWED_ORIGINS. With a JWKS_URL it does not even get to a users handler. -/
theorem pages_confined {libs : Libraries} {env : Environment} {raw : String} {process : Process}
    {service : Request → ServiceProgram Response} {page : Fetch.PageRequest} (typed : libs.JsonTyped)
    (given : env.get "ALLOWED_ORIGINS" = some raw) (production : envFromVar env = some .production)
    (built : createRouter libs (appState (load env)) = some service) (reachable : process.Reachable libs (load env))
    {position : Nat} {task : Task serviceInterface Request Response}
    (selected : process.requests.tasks[position]? = some task) (sent : Fetch.Sent (Answers service) page task.job) :
    (∀ url, env.get "JWKS_URL" = some url → ∀ point : Point, point.isUsersHandler = true → passed point ∉ task.history) ∧
      ∀ user, (position, user) ∈ process.requests.shared.service.journal → Listed raw page.origin := by
  have run := pooled_service ((orderly_reachable reachable).requests service built)
  have live : (appState (load env)).config.environment = .production := load_recognised production
  constructor
  · intro url gated point users member
    obtain ⟨_, _, _, ⟨token, _, _, _, bearer, _⟩, _⟩ :=
      handled_from_endpoint (appState_cache gated) built run selected users member
    obtain ⟨value, present, visible⟩ := extractBearerToken_eq bearer
    obtain ⟨name, header, authorization⟩ := sent.bearer value _ present visible
    obtain ⟨response, answered, permits⟩ := sent.asks (page.authorization_unsafe name header authorization)
    exact (permitted_page built live answered permits).2 name header authorization
  · intro user recorded
    obtain ⟨creator, id, name, email, same, inserted, _⟩ := journal_sent run recorded
    cases same.symm.trans selected
    obtain ⟨value, present, json⟩ := typed _ (insert_typed built (run.reaches selected) inserted)
    obtain ⟨name, unsafeName, _⟩ := sent.contentType value present (not_simple_of_json json)
    obtain ⟨response, answered, permits⟩ := sent.asks unsafeName
    have listed := (permitted_page built live answered permits).1
    have parsed : Field.get .allowedOrigins (load env) = Field.read .allowedOrigins (some raw) := load_given nofun given
    have parsed : (load env).allowedOrigins = parseAllowedOrigins raw := parsed
    rw [show (appState (load env)).config = load env from rfl, parsed, mem_parsedOrigins] at listed
    exact listed

/-! ## A page that creates a user -/

def signupPage : Fetch.PageRequest where
  method := .post
  uri := ⟨"/users", "/users"⟩
  origin := HeaderValue.ofString "https://b.example"
  headerNames := ["Content-Type"]
  unsafeNames := ["Content-Type"]
  unsafe_subset := by simp
  authorization_unsafe := by decide
  useCorsPreflight := false

def signup : Request :=
  { method := .post
    uri := ⟨"/users", "/users"⟩
    headers := (HeaderMap.empty.append "origin" (HeaderValue.ofString "https://b.example")).append "content-type"
      (HeaderValue.ofString "application/json")
    body := examplePayload }

def signupService : Request → ServiceProgram Response :=
  (createRouter exampleLibraries (appState (load productionVariables))).get (by decide)

theorem signupService_built : createRouter exampleLibraries (appState (load productionVariables)) = some signupService :=
  (Option.some_get _).symm

theorem signup_sent : Fetch.Sent (Answers signupService) signupPage signup where
  method := rfl
  uri := rfl
  bearer := by
    intro value token present
    have absent : signup.headers.get "authorization" = none := by decide
    cases absent.symm.trans present
  contentType := fun _ _ _ => ⟨"Content-Type", by decide, by decide⟩
  permitted := by
    have listed : ∃ entry ∈ (load productionVariables).allowedOrigins, HeaderValue.parse entry = some signupPage.origin :=
      ⟨"https://b.example", by decide, by decide⟩
    obtain ⟨response, answered, permits⟩ := preflight_permits signupService_built (by decide) listed
    exact .inr ⟨response, ⟨[], by rw [answered]; exact .start _⟩, (permits signupPage rfl).mpr (by decide)⟩

def signupHistory : List (Event serviceInterface) :=
  [passed .nextRun, ⟨.deadline, false⟩, ⟨.receiveBody, .ok ()⟩, passed .createUser, ⟨.newUuid, exampleUser.id⟩,
   ⟨.deadline, false⟩, ⟨.send exampleInsert, .ok ()⟩]

theorem signup_process : ∃ (process : Process) (task : Task serviceInterface Request Response),
    process.Reachable exampleLibraries (load productionVariables) ∧ process.requests.tasks[0]? = some task ∧
      task.job = signup ∧ (0, exampleUser) ∈ process.requests.shared.service.journal := by
  obtain ⟨process, reachable, serving, running, fresh⟩ := serving_process signupService_built
  obtain ⟨executed, served, _, _, recorded, _⟩ := creating_executed none
  obtain ⟨rest, reached⟩ : ∃ rest, (signupService signup).Reaches signupHistory rest :=
    Program.reaches_of_isSome (by decide)
  have pending : (pooledMachine True signupService).Performed 0 .initial signupHistory
      ⟨{ creatingState with cachedJson := none }, _⟩ :=
    .reply (pooled_local (Handlers.local_of nofun nofun) nofun (.pass _ _)) <|
    .reply (.onTime _) <| .reply (pooled_local (Handlers.local_of nofun nofun) nofun (.receiveBody _ _)) <|
    .reply (pooled_local (Handlers.local_of nofun nofun) nofun (.pass _ _)) <|
    .reply (pooled_local (Handlers.local_of nofun nofun) nofun (.newUuid _ _)) <|
    .reply (.onTime _) <| .reply (.send List.not_mem_nil (by decide) (.send _ rfl)) (.nothing _)
  have stored : (pooledMachine True signupService).Performed 0 .initial (signupHistory ++ []) ⟨executed, _⟩ :=
    pending.trans (.environment (.serves served) (.nothing _))
  rw [List.append_nil] at stored
  have joined := joined_process signupService_built reachable serving running reached (by rw [fresh]; exact stored)
  refine ⟨_, ⟨signup, signupHistory, rest⟩, joined, by rw [fresh]; rfl, rfl, ?_⟩
  change (0, exampleUser) ∈ executed.journal
  rw [recorded]
  exact List.mem_singleton_self _

theorem signup_listed : ∃ process : Process, (0, exampleUser) ∈ process.requests.shared.service.journal ∧
    Listed "https://a.example, https://b.example" signupPage.origin := by
  obtain ⟨process, task, reachable, selected, same, recorded⟩ := signup_process
  have typed : exampleLibraries.JsonTyped := by
    intro headers accepted
    refine ⟨HeaderValue.ofString "application/json", ?_, by decide⟩
    by_contra other
    have refused : exampleLibraries.jsonContentType headers =
        .error "Expected request with content type application/json" := if_neg other
    cases refused.symm.trans accepted
  have given : productionVariables.get "ALLOWED_ORIGINS" = some "https://a.example, https://b.example" := by decide
  have recognised : envFromVar productionVariables = some .production := by decide
  have sent : Fetch.Sent (Answers signupService) signupPage task.job := same ▸ signup_sent
  have confined := pages_confined typed given recognised signupService_built reachable selected sent
  exact ⟨process, recorded, confined.2 exampleUser recorded⟩

end TemplateServico
