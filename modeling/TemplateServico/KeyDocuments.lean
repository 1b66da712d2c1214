import TemplateServico.Interaction.Origin
import TemplateServico.Gate

/-! Which key documents tokens are checked against, over whole runs.

A document gets into the cache only from a request that found the cache empty and
asked the configured endpoint. Once one is there, the endpoint is left alone.
-/

set_option autoImplicit false

namespace TemplateServico

open Http Interaction Jsonwebtoken

/-- The endpoint is asked only by who found the cache empty, and only what it
answered is stored. -/
def lookupReason (cache : JwksCache) : Reason serviceInterface
  | past, .jwks (.fetch url) => url = cache.url ∧ (⟨.jwks .readCache, none⟩ : Event serviceInterface) ∈ past
  | past, .jwks (.writeCache json) => (⟨.jwks (.fetch cache.url), .body json⟩ : Event serviceInterface) ∈ past
  | _, _ => True

theorem lookupReason_stable (cache : JwksCache) : (lookupReason cache).Stable where
  grow := by
    intro past more op grown reason
    cases op with
    | jwks op =>
      cases op with
      | readCache => trivial
      | fetch url => exact ⟨reason.1, grown reason.2⟩
      | writeCache json => exact grown reason
    | _ => trivial

def Unkeyed (op : ServiceOp) : Prop := ∀ inner, op ≠ .jwks inner

theorem lookupReason_free {cache : JwksCache} (past : List (Event serviceInterface)) (op : ServiceOp)
    (other : Unkeyed op) : lookupReason cache past op := by
  cases op with
  | jwks inner => exact absurd rfl (other inner)
  | _ => trivial

section Programs

variable {libs : Libraries} {state : AppState} {cache : JwksCache} {request : Request}

theorem getDecodingKey_justified (lib : Library) (cache : JwksCache) (kid : Option String)
    (past : List (Event serviceInterface)) :
    ((getDecodingKey lib cache kid).inject jwksEmbedding).Justified (lookupReason cache) past := by
  refine ⟨trivial, fun held => ?_⟩
  cases held with
  | some json => trivial
  | none =>
    refine ⟨⟨rfl, List.mem_cons_self⟩, fun fetched => ?_⟩
    cases fetched with
    | body json => exact ⟨List.mem_cons_self, fun _ => trivial⟩
    | _ => trivial

theorem Route.serve_unkeyed (route : Route) : (route.serve libs request).Performs Unkeyed := by
  unfold Route.serve
  cases route.endpoint request.method with
  | none => trivial
  | some endpoint =>
  cases endpoint with
  | documentation => trivial
  | metrics => exact ⟨nofun, fun _ => trivial⟩
  | healthCheck => exact Program.performs_map (Handlers.onQuery_performs nofun nofun nofun)
  | listUsers => exact Program.performs_map (Handlers.onQuery_performs nofun nofun nofun)
  | getUser segment => exact Program.performs_map (Handlers.getUsersById_performs nofun nofun nofun)
  | createUser =>
    apply Program.performs_map
    apply Program.performs_bind (Handlers.appJson_performs nofun)
    intro result
    cases result with
    | error error => trivial
    | ok payload => exact Handlers.createUser_performs nofun nofun fun _ _ _ _ => ⟨nofun, nofun⟩

theorem Route.serve_justified (route : Route) (past : List (Event serviceInterface)) :
    (route.serve libs request).Justified (lookupReason cache) past :=
  Program.justified_of_performs route.serve_unkeyed lookupReason_free past

theorem jwtAuthMiddleware_justified (enabled : state.jwksCache = some cache)
    {next : Request → ServiceProgram Response}
    (inner : ∀ past, (next request).Justified (lookupReason cache) past) (past : List (Event serviceInterface)) :
    (jwtAuthMiddleware libs.jwt state request next).Justified (lookupReason cache) past := by
  unfold jwtAuthMiddleware
  rw [enabled]
  dsimp only
  cases extractBearerToken request with
  | none => trivial
  | some token =>
  dsimp only
  cases libs.jwt.decodeHeader token with
  | error reason => trivial
  | ok header =>
  apply Program.justified_bind (getDecodingKey_justified _ _ _ _)
  intro found more _
  cases found with
  | error reason => trivial
  | ok key =>
    refine ⟨trivial, fun now => ?_⟩
    dsimp only
    cases libs.jwt.decode token key (validation state.config header.alg) now with
    | ok claims => exact ⟨trivial, fun _ => inner _⟩
    | error reason => trivial

theorem createRouter_justified (enabled : state.jwksCache = some cache) {service : Request → ServiceProgram Response}
    (built : createRouter libs state = some service) : (service request).Justified (lookupReason cache) [] := by
  obtain ⟨cors, _, same⟩ := Option.map_eq_some_iff.mp built
  rw [← same]
  apply Program.justified_map
  unfold timeoutLayer
  refine Program.justified_deadline (lookupReason_stable cache) (fun past => lookupReason_free past .deadline nofun) ?_
  apply Program.justified_map
  unfold CorsLayer.layer
  split
  · trivial
  apply Program.justified_map
  unfold routes
  cases Route.find request.uri.path with
  | none => trivial
  | some route =>
    dsimp only
    split
    · exact jwtAuthMiddleware_justified enabled route.serve_justified []
    · exact route.serve_justified []

end Programs

/-! ## Runs -/

section Runs

variable {libs : Libraries} {state : AppState} {cache : JwksCache} {service : Request → ServiceProgram Response}
  {request : Request} {pool later : Pool serviceInterface ServiceState Request Response}

def Held (state : ServiceState) (json : String) : Prop := state.cachedJson = some json

def Found (event : Event serviceInterface) (json : String) : Prop := event = ⟨.jwks .readCache, some json⟩

/-- The endpoint answered a request with a document. -/
def FetchedFrom (cache : JwksCache) (event : Event serviceInterface) (json : String) : Prop :=
  event = ⟨.jwks (.fetch cache.url), .body json⟩

theorem documents_sourced (enabled : state.jwksCache = some cache) (built : createRouter libs state = some service) :
    (serviceMachine service).Sourced Held Found (FetchedFrom cache) where
  perform := by
    intro position request history op next shared reply shared' json reached performed gained
    cases performed with
    | readCache =>
      rcases gained with held | found
      · exact .inl held
      · -- Only what is held is found.
        simp only [Found, Sigma.mk.injEq, heq_eq_eq, true_and] at found
        exact .inl found
    | writeCache _ stored =>
      rcases gained with held | found
      · have same : stored = json := Option.some.inj held
        have fetched := reached.calledFor (lookupReason_stable cache) (createRouter_justified enabled built)
        exact .inr ⟨_, List.mem_append_left _ fetched, same ▸ rfl⟩
      · cases found
    | _ =>
      rcases gained with held | found
      · exact .inl held
      · cases found
  environment := by
    intro shared shared' json served held
    cases served with
    | executes sent executed => exact held

theorem gained_from_endpoint (enabled : state.jwksCache = some cache) (built : createRouter libs state = some service)
    (reachable : (serviceMachine service).Reachable .initial pool) {json : String}
    (gained : Held pool.shared json ∨ Machine.Seen pool (Found · json)) : Machine.Seen pool (FetchedFrom cache · json) := by
  refine (documents_sourced enabled built).reachable (fun json held => ?_) reachable gained
  cases held

/-- The document that a request has got and the time that it has read, just before it was let through. -/
def Consulted (cache : JwksCache) (history : List (Event serviceInterface)) (json : String) (now : Nat) : Prop :=
  ∃ asked, asked.map jwksEmbedding.event ++ [⟨.clock, now⟩, passed .nextRun] <+: untimed history ∧
    (getJwksJson cache).Reaches asked (.done (.ok json))

/-- The document that a handler's token was valid for. -/
theorem handled_from_endpoint (enabled : state.jwksCache = some cache) (built : createRouter libs state = some service)
    (reachable : (serviceMachine service).Reachable .initial pool) {position : Nat} {history : List (Event serviceInterface)}
    {program : ServiceProgram Response} (selected : pool.tasks[position]? = some ⟨request, history, program⟩)
    {point : Point} (users : point.isUsersHandler = true) (member : passed point ∈ history) :
    ∃ json now, Consulted cache history json now ∧ Accepts libs.jwt state.config request json now ∧
      Machine.Seen pool (FetchedFrom cache · json) := by
  have reached : (service request).Reaches history program := reachable.reaches selected
  obtain ⟨notPreflight, route, found, isProtected⟩ := guarded_of_handler built reached users member
  obtain ⟨cors, inner, _, followed, _⟩ := createRouter_routes built notPreflight reached
  rw [routes_protected found isProtected] at followed
  have seen : passed point ∈ untimed history := (mem_untimed (by nofun)).mpr member
  rcases jwtAuthMiddleware_cases enabled followed with ⟨asked, json, now, onward, split, fetched, accepts, _⟩ | ⟨decides, _⟩
  swap
  · rcases decides _ seen with ⟨_, same⟩ | same
    · cases same
    · cases same
  refine ⟨json, now, ⟨asked, ⟨onward, by simp [split]⟩, fetched⟩, accepts, ?_⟩
  have inHistory {event : Event (jwksInterface String)} (asks : event ∈ asked) : jwksEmbedding.event event ∈ history := by
    have within : jwksEmbedding.event event ∈ untimed history := by
      rw [split]
      exact List.mem_append_left _ (List.mem_map_of_mem asks)
    exact List.mem_of_mem_filter within
  rcases getJwksJson_complete fetched with ⟨held, same, result⟩ | ⟨_, _, _, _, failed⟩ | ⟨body, same, result⟩
  · cases result
    have read : (⟨.readCache, some json⟩ : Event (jwksInterface String)) ∈ asked := by simp [same]
    exact gained_from_endpoint enabled built reachable (.inr ⟨position, _, _, selected, inHistory read, rfl⟩)
  · cases failed
  · cases result
    have answered : (⟨.fetch cache.url, .body json⟩ : Event (jwksInterface String)) ∈ asked := by simp [same]
    exact ⟨position, _, _, selected, inHistory answered, rfl⟩

/-- Every document that is held, and every document that a handler's token was
valid for, is an answer of the configured endpoint to some request of the run. -/
theorem documents_from_endpoint (enabled : state.jwksCache = some cache)
    (built : createRouter libs state = some service) (reachable : (serviceMachine service).Reachable .initial pool) :
    (∀ json, pool.shared.cachedJson = some json → Machine.Seen pool (FetchedFrom cache · json)) ∧
    ∀ (position : Nat) (task : Task serviceInterface Request Response) (point : Point),
      pool.tasks[position]? = some task → point.isUsersHandler = true → passed point ∈ task.history → ∃ json now,
        Consulted cache task.history json now ∧ Accepts libs.jwt state.config task.job json now ∧
          Machine.Seen pool (FetchedFrom cache · json) := by
  refine ⟨fun json held => gained_from_endpoint enabled built reachable (.inl held), ?_⟩
  intro position task point selected users member
  exact handled_from_endpoint enabled built reachable selected users member

/-- There is a document, and requests from a position on never found that there is none. -/
structure Filled (start : Nat) (state : ServiceState) (position : Nat) (history : List (Event serviceInterface)) : Prop where
  held : state.cachedJson ≠ none
  found : start ≤ position → (⟨.jwks .readCache, none⟩ : Event serviceInterface) ∉ history

theorem filled_linked (service : Request → ServiceProgram Response) (start : Nat) :
    (serviceMachine service).Linked (Filled start) where
  own := by
    intro position request op next state reply state' history filled _ performed
    have kept : state'.cachedJson ≠ none := by
      cases performed with
      | writeCache json => nofun
      | _ => exact filled.held
    refine ⟨kept, fun fresh member => ?_⟩
    rcases List.mem_append.mp member with earlier | last
    · exact filled.found fresh earlier
    · cases List.mem_singleton.mp last
      cases held : state.cachedJson with
      | none => exact filled.held held
      | some json =>
        have performed : Performs position (.jwks .readCache) state none state' := performed
        generalize answer : (none : Option String) = reply at performed
        cases performed
        rw [held] at answer
        cases answer
  other := by
    intro position acting op state reply state' history _ filled performed
    refine ⟨?_, filled.found⟩
    cases performed with
    | writeCache json => nofun
    | _ => exact filled.held
  environment := by
    intro position state state' history filled served
    refine ⟨?_, filled.found⟩
    cases served with
    | executes sent executed => exact filled.held

/-- Once the cache is filled, requests that are still to come neither ask the endpoint
nor store anything: what they use was fetched by a request before them. -/
theorem endpoint_spared (enabled : state.jwksCache = some cache) (built : createRouter libs state = some service)
    (reachable : (serviceMachine service).Reachable .initial pool) (filled : pool.shared.cachedJson ≠ none)
    (steps : (serviceMachine service).Steps pool later) {position : Nat} (fresh : pool.tasks.length ≤ position)
    {task : Task serviceInterface Request Response} (selected : later.tasks[position]? = some task) :
    (∀ url fetched, (⟨.jwks (.fetch url), fetched⟩ : Event serviceInterface) ∉ task.history) ∧
    ∀ json, (⟨.jwks (.writeCache json), ()⟩ : Event serviceInterface) ∉ task.history := by
  have start : Filled pool.tasks.length pool.shared position (pool.historyAt position) := by
    refine ⟨filled, fun _ => ?_⟩
    rw [Machine.historyAt_of_fresh fresh]
    exact List.not_mem_nil
  have ends := (filled_linked service pool.tasks.length).steps reachable steps position start
  rw [Machine.historyAt_of_task selected] at ends
  have reached : (service task.job).Reaches task.history task.program := (reachable.steps steps).reaches selected
  have reasons {event : Event serviceInterface} (member : event ∈ task.history) : lookupReason cache task.history event.1 :=
    reached.calledFor_of_mem (lookupReason_stable cache) (createRouter_justified enabled built) member
  have spared : ∀ url fetched, (⟨.jwks (.fetch url), fetched⟩ : Event serviceInterface) ∉ task.history :=
    fun url fetched member => ends.found fresh (reasons member).2
  exact ⟨spared, fun json member => spared _ _ (reasons member)⟩

end Runs

/-! ## The first two requests of a client -/

theorem first_document_from_endpoint : ∃ pool json now, Consulted exampleCache fullTokenHistory json now ∧
    Accepts exampleLibrary exampleState.config (bearing "full") json now ∧
    Machine.Seen (R := Request) (S := ServiceState) (A := Response) pool (FetchedFrom exampleCache · json) := by
  obtain ⟨rest, reached⟩ : ∃ rest, (exampleService (bearing "full")).Reaches fullTokenHistory rest :=
    Program.reaches_of_isSome (by decide)
  have reachable := Machine.reachable_alone reached first_performed
  obtain ⟨json, now, consulted, accepts, seen⟩ := (documents_from_endpoint rfl exampleService_built reachable).2 0
    ⟨bearing "full", fullTokenHistory, rest⟩ .listUsers rfl rfl (by simp [fullTokenHistory])
  exact ⟨_, json, now, consulted, accepts, seen⟩

def secondTokenHistory : List (Event serviceInterface) :=
  [⟨.deadline, false⟩, ⟨.jwks .readCache, some keySetText⟩, ⟨.clock, 1000⟩, passed .nextRun, passed .listUsers]

/-- The second request finds the document, whatever the first one does with it. -/
theorem second_steps (first : Task serviceInterface Request Response) : ∃ rest,
    (exampleService (bearing "full")).Reaches secondTokenHistory rest ∧ (serviceMachine exampleService).Steps
      ⟨firstState, [first]⟩ ⟨firstState, [first, ⟨bearing "full", secondTokenHistory, rest⟩]⟩ := by
  obtain ⟨rest, reached⟩ : ∃ rest, (exampleService (bearing "full")).Reaches secondTokenHistory rest :=
    Program.reaches_of_isSome (by decide)
  have performed : (serviceMachine exampleService).Performed 1 firstState secondTokenHistory firstState :=
    .reply (.deadline _ _) (.reply (.readCache _) (.reply (.clock _ _) (.reply (.pass _ _) (.reply (.pass _ _)
      (.nothing _)))))
  have spawned : (serviceMachine exampleService).Step ⟨firstState, [first]⟩
      ⟨firstState, [first, ⟨bearing "full", [], exampleService (bearing "full")⟩]⟩ := .spawn _ (bearing "full")
  have fresh : [first, ⟨bearing "full", [], exampleService (bearing "full")⟩][1]? =
      some ⟨bearing "full", [], exampleService (bearing "full")⟩ := rfl
  exact ⟨rest, reached, .head spawned (Machine.steps_performed performed reached fresh)⟩

theorem second_spares_endpoint : ∃ rest, (exampleService (bearing "full")).Reaches secondTokenHistory rest ∧
    ∀ url fetched, (⟨.jwks (.fetch url), fetched⟩ : Event serviceInterface) ∉ secondTokenHistory := by
  obtain ⟨first, reached⟩ : ∃ rest, (exampleService (bearing "full")).Reaches fullTokenHistory rest :=
    Program.reaches_of_isSome (by decide)
  have reachable := Machine.reachable_alone reached first_performed
  obtain ⟨second, reached', steps⟩ := second_steps ⟨bearing "full", fullTokenHistory, first⟩
  exact ⟨second, reached', (endpoint_spared rfl exampleService_built reachable nofun steps
    (Nat.le_refl 1) rfl).1⟩

end TemplateServico
