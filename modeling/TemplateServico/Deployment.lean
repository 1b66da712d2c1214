import TemplateServico.Agreement
import TemplateServico.KeyDocuments
import TemplateServico.Process

/-! What the variables of a process promise for its whole life. -/

set_option autoImplicit false

namespace TemplateServico

open Http Interaction Jsonwebtoken

theorem load_given {env : Environment} {field : Field} {value : String} (other : field ≠ .environment)
    (given : env.get field.var = some value) : field.get (load env) = field.read (some value) := by
  by_cases accepted : Accepted env
  · rw [load_of_accepted accepted, get_settle other, text_of_get (accepted.single field) field.lowercase_var given]
  · rw [load_of_rejected accepted, get_settle other, given]

section Runs

variable {libs : Libraries} {env : Environment} {url : String} {process : Process}

theorem appState_cache (given : env.get "JWKS_URL" = some url) : (appState (load env)).jwksCache = some ⟨url⟩ := by
  have read : Field.get .jwksUrl (load env) = Field.read .jwksUrl (some url) := load_given nofun given
  exact congrArg (Option.map JwksCache.mk) read

theorem Orderly.service {config : AppConfig} (orderly : Orderly libs config process)
    (accepted : process.requests.tasks ≠ []) : ∃ service, createRouter libs (appState config) = some service ∧
      (serviceMachine service).Reachable .initial (process.requests.view PooledState.service) := by
  obtain ⟨_, atServe⟩ := orderly.accepted accepted
  rcases main_stage atServe with starting | ⟨built, _⟩
  · exact absurd (starting.waiting _ _ rfl) not_prepares_serve
  · obtain ⟨service, built⟩ := Option.ne_none_iff_exists'.mp built
    exact ⟨service, built, pooled_service (orderly.requests service built)⟩

/-- A process that was started with a JWKS_URL runs no users handler without a token that was
valid when the request read the clock, by a key of the document that the request got. This
very URL has returned it. -/
theorem deployed_gate (documented : libs.jwt.Documented) (given : env.get "JWKS_URL" = some url)
    (reachable : process.Reachable libs (load env)) {position : Nat} {task : Task serviceInterface Request Response}
    (selected : process.requests.tasks[position]? = some task) {point : Point} (users : point.isUsersHandler = true)
    (member : passed point ∈ task.history) :
    ∃ json now token header jwks jwk key payload claims, Consulted ⟨url⟩ task.history json now ∧
      Credential libs.jwt task.job json now token header jwks jwk key payload claims ∧
      Machine.Seen process.requests (FetchedFrom ⟨url⟩ · json) := by
  have orderly := orderly_reachable reachable
  obtain ⟨service, built, run⟩ := orderly.service (List.ne_nil_of_mem (List.mem_of_getElem? selected))
  obtain ⟨json, now, consulted, accepts, seen⟩ :=
    handled_from_endpoint (appState_cache given) built run selected users member
  obtain ⟨token, header, jwks, jwk, key, payload, claims, credential⟩ :=
    credential_of_admits documented ((accepts_iff_admits documented).mp accepts)
  exact ⟨json, now, token, header, jwks, jwk, key, payload, claims, consulted, credential, seen⟩

end Runs

/-! ## A process with a token of its own -/

def gatedVariables : Environment :=
  ⟨[("DATABASE_URL", "postgres://localhost/test"), ("JWKS_URL", "https://auth.example/jwks.json"),
    ("JWT_AUDIENCE", "api"), ("JWT_ISSUER", "https://auth.example")], by decide⟩

theorem load_gatedVariables : load gatedVariables = exampleConfig := by decide

/-- The request that is let through, in a process that has just accepted it. -/
theorem gated_process : ∃ (process : Process) (rest : ServiceProgram Response),
    process.Reachable exampleLibraries (load gatedVariables) ∧
      process.requests.tasks[0]? = some ⟨bearing "full", fullTokenHistory, rest⟩ := by
  rw [load_gatedVariables]
  obtain ⟨process, reachable, serving, running, fresh⟩ := serving_process exampleService_built
  obtain ⟨rest, reached⟩ : ∃ rest, (exampleService (bearing "full")).Reaches fullTokenHistory rest :=
    Program.reaches_of_isSome (by decide)
  have performed : (pooledMachine True exampleService).Performed 0 .initial fullTokenHistory _ :=
    .reply (.onTime _) <| .reply (pooled_local (Handlers.local_of nofun nofun) nofun (.readCache _)) <|
    .reply (.onTime _) <| .reply (pooled_local (Handlers.local_of nofun nofun) nofun (.fetch _ _ _)) <|
    .reply (.onTime _) <| .reply (pooled_local (Handlers.local_of nofun nofun) nofun (.writeCache _ _)) <|
    .reply (pooled_local (Handlers.local_of nofun nofun) nofun (.clock _ _)) <|
    .reply (pooled_local (Handlers.local_of nofun nofun) nofun (.pass _ _)) <|
    .reply (pooled_local (Handlers.local_of nofun nofun) nofun (.pass _ _)) (.nothing _)
  have joined := joined_process exampleService_built reachable serving running reached (by rw [fresh]; exact performed)
  exact ⟨_, rest, joined, by rw [fresh]; rfl⟩

theorem gated_process_credential : ∃ (process : Process) (json : String) (now : Nat) (token : String)
    (header : Header) (jwks : JwkSet) (jwk : Jwk) (key : DecodingKey) (payload : Payload) (claims : Claims),
    Consulted ⟨"https://auth.example/jwks.json"⟩ fullTokenHistory json now ∧
      Credential exampleLibrary (bearing "full") json now token header jwks jwk key payload claims ∧
      Machine.Seen process.requests (FetchedFrom ⟨"https://auth.example/jwks.json"⟩ · json) := by
  obtain ⟨process, rest, reachable, selected⟩ := gated_process
  have given : gatedVariables.get "JWKS_URL" = some "https://auth.example/jwks.json" := by decide
  have listed : passed .listUsers ∈ fullTokenHistory := by simp [fullTokenHistory]
  obtain ⟨json, now, token, header, jwks, jwk, key, payload, claims, consulted, credential, seen⟩ :=
    deployed_gate (tableLibrary_documented _ _) given reachable selected rfl listed
  exact ⟨process, json, now, token, header, jwks, jwk, key, payload, claims, consulted, credential, seen⟩

end TemplateServico
