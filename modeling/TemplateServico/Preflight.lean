import TemplateServico.Cors
import TemplateServico.Fetch

/-! What a browser makes of the answers to preflight requests in production. -/

set_option autoImplicit false

namespace TemplateServico

open Http Interaction

section Layer

variable {cors : CorsLayer} {request : Request}

theorem preflight_distinct : (([("vary", CorsLayer.vary)] ++
    CorsLayer.optional "access-control-allow-methods" cors.allowMethods ++
    CorsLayer.optional "access-control-allow-headers" cors.allowHeaders ++ cors.origin request).map Prod.fst).Nodup := by
  unfold CorsLayer.origin
  cases cors.allowMethods <;> cases cors.allowHeaders <;>
    cases cors.allowOrigin.toHeader (request.headers.get "origin") <;> simp [CorsLayer.optional]

theorem allowMethods_preflight {methods : HeaderValue} (allowed : cors.allowMethods = some methods) :
    (cors.preflight request).headers.getAll "access-control-allow-methods" = [methods] := by
  unfold CorsLayer.preflight
  apply HeaderMap.getAll_extend preflight_distinct
  simp [CorsLayer.mem_optional, allowed]

theorem allowHeaders_preflight {names : HeaderValue} (allowed : cors.allowHeaders = some names) :
    (cors.preflight request).headers.getAll "access-control-allow-headers" = [names] := by
  unfold CorsLayer.preflight
  apply HeaderMap.getAll_extend preflight_distinct
  simp [CorsLayer.mem_optional, allowed]

theorem getAll_finish_secure {response : Response} {name : String} (other : name ≠ "allow")
    (unsecured : name ∉ securityHeaders.map Prod.fst) :
    (finish request (secure response)).headers.getAll name = response.headers.getAll name := by
  rw [getAll_finish other, getAll_secure unsecured]

end Layer

/-- A preflight request is answered at once. -/
theorem createRouter_preflight {libs : Libraries} {state : AppState} {service : Request → ServiceProgram Response}
    (built : createRouter libs state = some service) {request : Request} (preflight : request.method = .options) :
    ∃ cors, buildCorsLayer state.config = some cors ∧
      service request = .done (finish request (secure (cors.preflight request))) := by
  obtain ⟨cors, layered, same⟩ := Option.map_eq_some_iff.mp built
  refine ⟨cors, layered, ?_⟩
  rw [← same]
  unfold timeoutLayer securityHeadersMiddleware CorsLayer.layer
  dsimp only
  rw [if_pos preflight]
  rfl

section Production

variable {libs : Libraries} {state : AppState} {service : Request → ServiceProgram Response} {page : Fetch.PageRequest}

/-- The answer to the preflight request of a listed origin permits whatever has no
`authorization` header, and nothing else. -/
theorem preflight_permits (built : createRouter libs state = some service)
    (production : state.config.environment = .production)
    (listed : ∃ entry ∈ state.config.allowedOrigins, HeaderValue.parse entry = some page.origin) :
    ∃ response, service page.preflight = .done response ∧ ∀ request : Fetch.PageRequest,
      request.origin = page.origin → (Fetch.Permits request response ↔
        ∀ name ∈ request.headerNames, Text.asciiLowercase name ≠ "authorization") := by
  obtain ⟨cors, layered, answered⟩ := createRouter_preflight built page.preflight_method
  obtain ⟨_, origins, methods, headers⟩ := production_layer production layered
  refine ⟨_, answered, fun request same => Fetch.permits_star ?_ ?_ ?_ ?_⟩
  · apply Fetch.corsCheck_self
    rw [getAll_finish_secure (by decide) (by decide), same]
    refine allowOrigin_preflight.trans ?_
    rw [page.preflight_origin, origins]
    have member : page.origin ∈ state.config.allowedOrigins.filterMap HeaderValue.parse := List.mem_filterMap.mpr listed
    rw [AllowOrigin.toHeader, Option.filter_some, if_pos (decide_eq_true member)]
    rfl
  · rw [finish_status, secure_status, CorsLayer.preflight_status]
    decide
  · apply Fetch.extract_star
    rw [getAll_finish_secure (by decide) (by decide)]
    exact allowMethods_preflight methods
  · apply Fetch.extract_star
    rw [getAll_finish_secure (by decide) (by decide)]
    exact allowHeaders_preflight headers

/-- In production no page of a listed origin may send a request with an
`authorization` header, to whatever path. The same request without that header may
be sent. -/
theorem preflight_never_permits (built : createRouter libs state = some service)
    (production : state.config.environment = .production)
    (listed : ∃ entry ∈ state.config.allowedOrigins, HeaderValue.parse entry = some page.origin)
    (authorized : ∃ name ∈ page.headerNames, Text.asciiLowercase name = "authorization") :
    ∃ response, service page.preflight = .done response ∧ ¬ Fetch.Permits page response ∧
      Fetch.Permits (page.filterHeaders fun name => decide (Text.asciiLowercase name ≠ "authorization")) response := by
  obtain ⟨response, answered, permits⟩ := preflight_permits built production listed
  refine ⟨response, answered, ?_, ?_⟩
  · rw [permits page rfl]
    intro without
    obtain ⟨name, member, same⟩ := authorized
    exact without name member same
  · apply (permits (page.filterHeaders _) rfl).mpr
    intro name member
    exact of_decide_eq_true (List.mem_filter.mp member).2

end Production

/-! ## A page that lists users -/

def preflightState : AppState := { exampleState with config := productionConfig "https://app.example" }

/-- It sends the token that the middleware asks for. -/
def usersPage : Fetch.PageRequest where
  method := .get
  uri := ⟨"/users", "/users"⟩
  origin := HeaderValue.ofString "https://app.example"
  headerNames := ["Accept", "Authorization"]
  unsafeNames := ["Authorization"]
  unsafe_subset := by simp
  authorization_unsafe := by decide
  useCorsPreflight := false

theorem usersPage_listed :
    ∃ entry ∈ preflightState.config.allowedOrigins, HeaderValue.parse entry = some usersPage.origin :=
  ⟨"https://app.example", by decide, by decide⟩

theorem preflightState_built : ∃ service, createRouter exampleLibraries preflightState = some service := by
  have layered : (buildCorsLayer preflightState.config).isSome = true := by decide
  obtain ⟨cors, layered⟩ := Option.isSome_iff_exists.mp layered
  unfold createRouter
  rw [layered]
  exact ⟨_, rfl⟩

theorem users_page_not_permitted : preflightState.config.jwksUrl ≠ none ∧
    ∃ service response, createRouter exampleLibraries preflightState = some service ∧
      service usersPage.preflight = .done response ∧ ¬ Fetch.Permits usersPage response := by
  obtain ⟨service, built⟩ := preflightState_built
  obtain ⟨response, answered, permits⟩ := preflight_permits built rfl usersPage_listed
  refine ⟨by decide, service, response, built, answered, ?_⟩
  rw [permits usersPage rfl]
  intro without
  exact without "Authorization" (by decide) (by decide)

theorem users_page_without_token_permitted : ∃ service response,
    createRouter exampleLibraries preflightState = some service ∧
      service usersPage.preflight = .done response ∧ ¬ Fetch.Permits usersPage response ∧
      Fetch.Permits (usersPage.filterHeaders fun name => decide (Text.asciiLowercase name ≠ "authorization")) response := by
  obtain ⟨service, built⟩ := preflightState_built
  have authorized : ∃ name ∈ usersPage.headerNames, Text.asciiLowercase name = "authorization" :=
    ⟨"Authorization", by decide, by decide⟩
  obtain ⟨response, answered, both⟩ := preflight_never_permits built rfl usersPage_listed authorized
  exact ⟨service, response, built, answered, both⟩

end TemplateServico
