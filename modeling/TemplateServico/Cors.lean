import TemplateServico.Routes

/-! From the text of the allowed origins to the header of a response, in production. -/

set_option autoImplicit false

namespace TemplateServico

open Http Interaction

def allowOriginField : String := "access-control-allow-origin"

/-- An entry of the text that stands for an origin. -/
def Usable (raw entry : String) : Prop :=
  entry ≠ "" ∧ (HeaderValue.ofString entry).all HeaderValue.isValid = true ∧
    ∃ segment ∈ Text.split ',' raw, entry = Text.trim segment

/-- A header value that is, byte by byte, a usable entry. -/
def Listed (raw : String) (origin : HeaderValue) : Prop :=
  ∃ entry, Usable raw entry ∧ origin = HeaderValue.ofString entry

theorem mem_parsedOrigins {raw : String} {origin : HeaderValue} :
    origin ∈ (parseAllowedOrigins raw).filterMap HeaderValue.parse ↔ Listed raw origin := by
  rw [List.mem_filterMap]
  constructor
  · intro ⟨entry, member, parsed⟩
    obtain ⟨segment, split, trimmed, nonempty⟩ := mem_parseAllowedOrigins.mp member
    obtain ⟨same, visible⟩ := parse_eq_some.mp parsed
    rw [same] at visible
    exact ⟨entry, ⟨nonempty, visible, segment, split, trimmed⟩, same⟩
  · intro ⟨entry, ⟨nonempty, visible, segment, split, trimmed⟩, same⟩
    refine ⟨entry, mem_parseAllowedOrigins.mpr ⟨segment, split, trimmed, nonempty⟩, parse_eq_some.mpr ⟨same, ?_⟩⟩
    rw [same]
    exact visible

theorem production_layer {config : AppConfig} {cors : CorsLayer} (production : config.environment = .production)
    (built : buildCorsLayer config = some cors) :
    wildcard ∉ config.allowedOrigins.filterMap HeaderValue.parse ∧
      cors.allowOrigin = .list (config.allowedOrigins.filterMap HeaderValue.parse) ∧
      cors.allowMethods = some wildcard ∧ cors.allowHeaders = some wildcard := by
  unfold buildCorsLayer at built
  rw [if_pos (AppEnvironment.isProduction_iff.mpr production)] at built
  obtain ⟨allowOrigin, listed, same⟩ := Option.map_eq_some_iff.mp built
  obtain ⟨plain, list⟩ := AllowOrigin.ofList_eq_some.mp listed
  rw [← same]
  exact ⟨plain, list, rfl, rfl⟩

theorem buildCorsLayer_production {config : AppConfig} {raw : String} {cors : CorsLayer}
    (production : config.environment = .production) (parsed : config.allowedOrigins = parseAllowedOrigins raw)
    (built : buildCorsLayer config = some cors) :
    ∃ origins, cors.allowOrigin = .list origins ∧ wildcard ∉ origins ∧
      ∀ origin, origin ∈ origins ↔ Listed raw origin := by
  obtain ⟨plain, list, _⟩ := production_layer production built
  rw [parsed] at plain list
  exact ⟨_, list, plain, fun origin => mem_parsedOrigins⟩

section Layer

variable {cors : CorsLayer} {request : Request} {response : Response}

theorem getAll_optional {headers : HeaderMap} {fields : List (String × HeaderValue)} {name : String}
    {value : Option HeaderValue} (absent : headers.getAll name = []) (others : ∀ entry ∈ fields, entry.1 ≠ name) :
    (headers.extend (fields ++ CorsLayer.optional name value)).getAll name = value.toList := by
  rw [HeaderMap.extend_append]
  cases value with
  | none => exact (HeaderMap.getAll_extend_ne headers others).trans absent
  | some value => exact HeaderMap.getAll_insert_self _ name value

theorem allowOrigin_preflight : (cors.preflight request).headers.getAll allowOriginField =
    (cors.allowOrigin.toHeader (request.headers.get "origin")).toList := by
  unfold CorsLayer.preflight CorsLayer.origin
  apply getAll_optional rfl
  intro entry member same
  simp only [List.mem_append, List.mem_singleton, CorsLayer.mem_optional] at member
  rcases member with (vary | methods) | headers
  · rw [vary] at same
    revert same
    decide
  · rw [methods.1] at same
    revert same
    decide
  · rw [headers.1] at same
    revert same
    decide

theorem allowOrigin_decorate (silent : response.headers.getAll allowOriginField = []) :
    (cors.decorate request response).headers.getAll allowOriginField =
      (cors.allowOrigin.toHeader (request.headers.get "origin")).toList := by
  unfold CorsLayer.decorate CorsLayer.origin
  apply getAll_optional
  · rw [HeaderMap.getAll_append_ne _ _ (by decide)]
    exact silent
  · intro entry member same
    rw [(CorsLayer.mem_optional.mp member).1] at same
    revert same
    decide

end Layer

section Routes

variable {libs : Libraries} {state : AppState} {request : Request}

theorem problem_silent (problem : ProblemDetails) :
    problem.intoResponse.headers.getAll allowOriginField = [] := by
  unfold ProblemDetails.intoResponse
  exact HeaderMap.getAll_append_ne _ _ (by decide)

theorem routes_silent (silent : ∀ request, (libs.swaggerUi request).headers.getAll allowOriginField = []) :
    (routes libs state request).Returns fun response => response.headers.getAll allowOriginField = [] := by
  apply routes_returns
  · intro response ⟨detail, same⟩
    rw [same]
    exact problem_silent _
  · intro result _
    cases result with
    | error error => exact problem_silent _
    | ok value => exact HeaderMap.getAll_append_ne _ _ (by decide)
  · exact silent request
  · intro text
    exact HeaderMap.getAll_append_ne _ _ (by decide)
  · rfl
  · exact problem_silent _

theorem allowOrigin_layer (silent : ∀ request, (libs.swaggerUi request).headers.getAll allowOriginField = [])
    {cors : CorsLayer} {history : List (Event serviceInterface)} {response : Response}
    (reached : (cors.layer (routes libs state) request).Reaches history (.done response)) :
    response.headers.getAll allowOriginField =
      (cors.allowOrigin.toHeader (request.headers.get "origin")).toList := by
  unfold CorsLayer.layer at reached
  split at reached
  · obtain ⟨_, same⟩ := Program.reaches_done.mp reached
    rw [Program.done.inj same]
    exact allowOrigin_preflight
  · obtain ⟨own, followed, same⟩ := Program.reaches_map_done.mp reached
    rw [← same]
    exact allowOrigin_decorate (followed.returns (routes_silent silent))

/-- In production a response that passes the layer names exactly the request's own
origin, and only if it is a usable entry of the text. What else is in the text makes
no difference. -/
theorem production_cors_exact {config : AppConfig} {raw : String} {cors : CorsLayer}
    (production : config.environment = .production) (parsed : config.allowedOrigins = parseAllowedOrigins raw)
    (built : buildCorsLayer config = some cors)
    (silent : ∀ request, (libs.swaggerUi request).headers.getAll allowOriginField = [])
    {history : List (Event serviceInterface)} {response : Response}
    (reached : (cors.layer (routes libs state) request).Reaches history (.done response)) :
    (∀ origin, request.headers.get "origin" = some origin → Listed raw origin →
      response.headers.getAll allowOriginField = [origin]) ∧
    (∀ value ∈ response.headers.getAll allowOriginField,
      request.headers.get "origin" = some value ∧ Listed raw value ∧ value ≠ wildcard) ∧
    ∀ config' raw' cors' history' response', config'.environment = .production →
      config'.allowedOrigins = parseAllowedOrigins raw' → buildCorsLayer config' = some cors' →
      (∀ entry, Usable raw entry ↔ Usable raw' entry) →
      (cors'.layer (routes libs state) request).Reaches history' (.done response') →
      response'.headers.getAll allowOriginField = response.headers.getAll allowOriginField := by
  obtain ⟨origins, list, plain, listed⟩ := buildCorsLayer_production production parsed built
  have written := allowOrigin_layer silent reached
  rw [list] at written
  refine ⟨?_, ?_, ?_⟩
  · intro origin asked usable
    rw [written, asked]
    simp [AllowOrigin.toHeader, listed, usable]
  · intro value member
    rw [written] at member
    simp only [AllowOrigin.toHeader, Option.mem_toList, Option.filter_eq_some_iff,
      decide_eq_true_eq] at member
    obtain ⟨asked, inList⟩ := member
    refine ⟨asked, (listed value).mp inList, ?_⟩
    intro same
    rw [same] at inList
    exact plain inList
  · intro config' raw' cors' history' response' production' parsed' built' same reached'
    obtain ⟨origins', list', _, listed'⟩ := buildCorsLayer_production production' parsed' built'
    have alike (origin : HeaderValue) : origin ∈ origins' ↔ origin ∈ origins := by
      rw [listed, listed']
      unfold Listed
      simp only [same]
    rw [written, allowOrigin_layer silent reached', list']
    simp only [AllowOrigin.toHeader, alike]

end Routes

def productionConfig (raw : String) : AppConfig :=
  { exampleConfig with environment := .production, allowedOrigins := parseAllowedOrigins raw }

def preflightFrom (origin : String) : Request :=
  { method := .options
    uri := ⟨"/users", "/users"⟩
    headers := HeaderMap.empty.append "origin" (HeaderValue.ofString origin)
    body := [] }

/-- The second entry has a control character. The third has none, but is not ASCII. -/
def exampleOrigins : String := "https://a.example:80,bad\n7, bad\u00e9,https://b.example "

def exampleCors : CorsLayer :=
  { allowOrigin := .list [HeaderValue.ofString "https://a.example:80", HeaderValue.ofString "bad\u00e9",
      HeaderValue.ofString "https://b.example"]
    allowMethods := some wildcard
    allowHeaders := some wildcard
    exposeHeaders := none }

theorem exampleCors_built : buildCorsLayer (productionConfig exampleOrigins) = some exampleCors := by decide

theorem exampleCors_answers (origin : String) :
    (exampleCors.layer (routes exampleLibraries exampleState) (preflightFrom origin)).Reaches [] (.done
      (exampleCors.preflight (preflightFrom origin))) := .start _

/-- An origin that is not ASCII is named to its owner, as an entry of the text is like it. -/
theorem other_origin_allowed :
    buildCorsLayer (productionConfig exampleOrigins) = some exampleCors ∧
    (exampleCors.layer (routes exampleLibraries exampleState) (preflightFrom "bad\u00e9")).Reaches [] (.done
      (exampleCors.preflight (preflightFrom "bad\u00e9"))) ∧
    (exampleCors.preflight (preflightFrom "bad\u00e9")).headers.getAll allowOriginField =
      [HeaderValue.ofString "bad\u00e9"] ∧
    ∀ segment ∈ Text.split ',' exampleOrigins, HeaderValue.ofString (Text.trim segment) = HeaderValue.ofString "bad\u00e9" →
      (HeaderValue.ofString (Text.trim segment)).all HeaderValue.isVisibleAscii = false :=
  ⟨exampleCors_built, exampleCors_answers _, by decide, by decide⟩

theorem last_origin_allowed :
    (exampleCors.preflight (preflightFrom "https://b.example")).headers.getAll allowOriginField =
      [HeaderValue.ofString "https://b.example"] := by
  have silent (request : Request) : (exampleLibraries.swaggerUi request).headers.getAll allowOriginField = [] :=
    HeaderMap.getAll_append_ne _ _ (by decide)
  have usable : Usable exampleOrigins "https://b.example" :=
    ⟨by decide, by decide, "https://b.example ", by decide, by decide⟩
  have named := production_cors_exact rfl rfl exampleCors_built silent (exampleCors_answers "https://b.example")
  exact named.1 _ (by decide) ⟨_, usable, rfl⟩

end TemplateServico
