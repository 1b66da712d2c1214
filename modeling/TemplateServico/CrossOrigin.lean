import TemplateServico.Deployment
import TemplateServico.Preflight
import TemplateServico.Startup

/-! Which responses a browser shows to pages of other origins, from the variables that
a process was started with.
-/

set_option autoImplicit false

namespace TemplateServico

open Http Interaction

theorem corsCheck_iff {origin : HeaderValue} {response : Response} {value : Option HeaderValue}
    (found : response.headers.getAll allowOriginField = value.toList) :
    Fetch.CorsCheck origin response ↔ value = some wildcard ∨ value = some origin := by
  have found : response.headers.getAll "access-control-allow-origin" = value.toList := found
  unfold Fetch.CorsCheck
  rw [found]
  cases value with
  | none => simp
  | some value => simp [Fetch.star, wildcard]

section Router

variable {libs : Libraries} {state : AppState} {service : Request → ServiceProgram Response} {request : Request}
  {history : List (Event serviceInterface)} {response : Response}

/-- A response in time has passed the layer. The one that says that the time ran out
has not. -/
theorem allowOrigin_router (built : createRouter libs state = some service)
    (silent : ∀ request, (libs.swaggerUi request).headers.getAll allowOriginField = [])
    (reached : (service request).Reaches history (.done response)) :
    ∃ cors value, buildCorsLayer state.config = some cors ∧ response.headers.getAll allowOriginField = value.toList ∧
      (¬ TimedOut history ∧ value = cors.allowOrigin.toHeader (request.headers.get "origin") ∨
        TimedOut history ∧ value = none) := by
  obtain ⟨cors, inner, layered, within, outcome⟩ := createRouter_runs built reached
  rcases outcome with ⟨onTime, ended⟩ | ⟨timedOut, dropped, _⟩
  · obtain ⟨own, done, delivered⟩ := ended response rfl
    rw [done] at within
    refine ⟨cors, _, layered, ?_, .inl ⟨onTime, rfl⟩⟩
    rw [delivered, getAll_finish_secure (by decide) (by decide)]
    exact allowOrigin_layer silent within
  · refine ⟨cors, none, layered, ?_, .inr ⟨timedOut, rfl⟩⟩
    rw [Program.done.inj dropped, getAll_finish (by decide)]
    rfl

theorem readable_iff (built : createRouter libs state = some service)
    (silent : ∀ request, (libs.swaggerUi request).headers.getAll allowOriginField = [])
    (reached : (service request).Reaches history (.done response)) {origin : HeaderValue}
    (sent : request.headers.get "origin" = some origin) :
    Fetch.CorsCheck origin response ↔ ¬ TimedOut history ∧ (state.config.environment = .production →
      origin ∈ state.config.allowedOrigins.filterMap HeaderValue.parse) := by
  obtain ⟨cors, value, layered, found, outcome⟩ := allowOrigin_router built silent reached
  rw [corsCheck_iff found]
  rcases outcome with ⟨onTime, written⟩ | ⟨timedOut, nothing⟩
  · rw [written, sent, and_iff_right onTime]
    by_cases production : state.config.environment = .production
    · obtain ⟨plain, listed, _⟩ := production_layer production layered
      rw [listed, forall_prop_of_true production]
      simp only [AllowOrigin.toHeader, Option.filter_eq_some_iff, Option.some.injEq, decide_eq_true_eq]
      constructor
      · rintro (⟨same, member⟩ | ⟨_, member⟩)
        · exact absurd member plain
        · exact member
      · intro member
        exact .inr ⟨trivial, member⟩
    · have permissive := permissive_iff.mpr production
      cases layered.symm.trans permissive
      exact iff_of_true (.inl rfl) fun production' => absurd production' production
  · rw [nothing]
    exact iff_of_false (by simp) fun readable => readable.1 timedOut

end Router

/-- In a process that was started with ALLOWED_ORIGINS and a recognised environment, a
browser shows a response to a page exactly if the time had not run out and, in
production, the page's origin is an entry of that very text. -/
theorem deployed_readable {libs : Libraries} {env : Environment} {raw : String} {environment : AppEnvironment}
    {process : Process} (silent : ∀ request, (libs.swaggerUi request).headers.getAll allowOriginField = [])
    (given : env.get "ALLOWED_ORIGINS" = some raw) (recognised : envFromVar env = some environment)
    (reachable : process.Reachable libs (load env)) {position : Nat} {request : Request}
    {history : List (Event serviceInterface)} {response : Response}
    (answered : process.requests.tasks[position]? = some ⟨request, history, .done response⟩) {origin : HeaderValue}
    (sent : request.headers.get "origin" = some origin) :
    Fetch.CorsCheck origin response ↔ ¬ TimedOut history ∧ (environment = .production → Listed raw origin) := by
  obtain ⟨service, built, run⟩ :=
    (orderly_reachable reachable).service (List.ne_nil_of_mem (List.mem_of_getElem? answered))
  have parsed : Field.get .allowedOrigins (load env) = Field.read .allowedOrigins (some raw) := load_given nofun given
  have parsed : (load env).allowedOrigins = parseAllowedOrigins raw := parsed
  have readable := readable_iff built silent (run.reaches answered) sent
  rw [show (appState (load env)).config = load env from rfl, load_recognised recognised, parsed,
    mem_parsedOrigins] at readable
  exact readable

def productionVariables : Environment :=
  ⟨[("ENVIRONMENT", "Production"), ("PORT", "abc"), ("ALLOWED_ORIGINS", "https://a.example, https://b.example")],
    by decide⟩

/-- A production process that has answered a preflight request at once, although `envy`
rejects its variables. -/
theorem preflight_process : ∃ (process : Process) (response : Response),
    process.Reachable exampleLibraries (load productionVariables) ∧
      process.requests.tasks[0]? = some ⟨preflightFrom "https://b.example", [], .done response⟩ := by
  obtain ⟨service, built⟩ : ∃ service, createRouter exampleLibraries (appState (load productionVariables)) = some service :=
    Option.isSome_iff_exists.mp (by decide)
  obtain ⟨process, reachable, serving, running, fresh⟩ := serving_process built
  have preflight : (preflightFrom "https://b.example").method = .options := rfl
  obtain ⟨_, _, answered⟩ := createRouter_preflight built preflight
  have joined := joined_process built reachable serving running (.start (service (preflightFrom "https://b.example"))) (.nothing _)
  exact ⟨_, _, joined, by rw [fresh, answered]; rfl⟩

theorem preflight_process_readable : ¬ Accepted productionVariables ∧ ∃ (process : Process) (response : Response),
    process.Reachable exampleLibraries (load productionVariables) ∧
      process.requests.tasks[0]? = some ⟨preflightFrom "https://b.example", [], .done response⟩ ∧
      Fetch.CorsCheck (HeaderValue.ofString "https://b.example") response := by
  obtain ⟨process, response, reachable, answered⟩ := preflight_process
  have silent (request : Request) : (exampleLibraries.swaggerUi request).headers.getAll allowOriginField = [] :=
    HeaderMap.getAll_append_ne _ _ (by decide)
  have given : productionVariables.get "ALLOWED_ORIGINS" = some "https://a.example, https://b.example" := by decide
  have recognised : envFromVar productionVariables = some .production := by decide
  have usable : Usable "https://a.example, https://b.example" "https://b.example" :=
    ⟨by decide, by decide, " https://b.example", by decide, by decide⟩
  have sent : (preflightFrom "https://b.example").headers.get "origin" = some (HeaderValue.ofString "https://b.example") := by
    decide
  have readable := deployed_readable silent given recognised reachable answered sent
  refine ⟨by decide, process, response, reachable, answered, readable.mpr ⟨?_, fun _ => ⟨_, usable, rfl⟩⟩⟩
  simp [TimedOut, Program.Expired]

end TemplateServico
