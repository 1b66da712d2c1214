import TemplateServico.Routes
import TemplateServico.Telemetry

/-! The program of the process, from its configuration to its exit. -/

set_option autoImplicit false

namespace TemplateServico

open Http Interaction Postgres

inductive MainError where
  | sqlx (error : SqlxError)
  | migrate (display : String)
  | redis (display : String)
  | io (display : String)

/-- How the process ends: as `main` returns, by a panic, or from outside. -/
inductive Exit where
  | success
  | failed (error : MainError)
  | panicked
  | killed

inductive Attempt where
  | createPool (databaseUrl : String)
  | runMigrations
  | connectRedis (url : String)
  | bind (address : String)
  | serve
  deriving DecidableEq, Repr

inductive MainOp where
  | initTracing (environment : AppEnvironment) (otelServiceName otlpEndpoint : Option String)
  | attempt (attempt : Attempt)
  -- Whether the recorder of the metrics could be installed in `create_router`.
  | metricHandle
  | closePool
  | shutdownTracerProvider
  deriving DecidableEq, Repr

abbrev MainOp.Reply : MainOp → Type
  | .attempt _ => Except MainError Unit
  | .metricHandle => Bool
  | .initTracing _ _ _ | .closePool | .shutdownTracerProvider => Unit

abbrev mainInterface : Interface := ⟨MainOp, MainOp.Reply⟩

abbrev MainProgram := Program mainInterface Exit

def attempt (op : Attempt) (next : MainProgram) : MainProgram :=
  .call (.attempt op) fun
    | .error error => .done (.failed error)
    | .ok () => next

-- No handler uses the Redis cache, so the state for the handlers is without it.
def appState (config : AppConfig) : AppState := ⟨config, config.jwksUrl.map JwksCache.mk⟩

def connectRedis (redisUrl : Option String) (next : MainProgram) : MainProgram :=
  match redisUrl with
  | some url => attempt (.connectRedis url) next
  | none => next

def address (config : AppConfig) : String := config.host ++ ":" ++ toString config.port.toNat

/-- Whether there is a tracer provider to shut down. -/
def exportsTraces (config : AppConfig) : Bool := config.otlpEndpoint.isSome && config.environment.isProduction

def shutDown (config : AppConfig) : MainProgram :=
  .call .closePool fun _ =>
    if exportsTraces config then .call .shutdownTracerProvider fun _ => .done .success else .done .success

-- The recorder also needs a port of its own, which may be taken.
def installMetrics (next : MainProgram) : MainProgram :=
  .call .metricHandle fun installed => if installed then next else .done .panicked

def main (libs : Libraries) (config : AppConfig) : MainProgram :=
  .call (.initTracing config.environment (some config.otelServiceName) config.otlpEndpoint) fun _ =>
    attempt (.createPool config.databaseUrl) <|
    attempt .runMigrations <|
    connectRedis config.redisUrl <|
    match createRouter libs (appState config) with
    | none => .done .panicked
    | some _ => installMetrics <| attempt (.bind (address config)) <| attempt .serve <| shutDown config

/-! ## Starting and serving -/

abbrev succeeded (op : Attempt) : Event mainInterface := ⟨.attempt op, .ok ()⟩

/-- What succeeds before the router is built. -/
def prepared (config : AppConfig) : List Attempt :=
  [Attempt.createPool config.databaseUrl, .runMigrations] ++ config.redisUrl.toList.map .connectRedis

/-- All that has happened once requests are accepted. -/
def started (config : AppConfig) : List (Event mainInterface) :=
  ⟨.initTracing config.environment (some config.otelServiceName) config.otlpEndpoint, ()⟩ ::
    ((prepared config).map succeeded ++ [⟨.metricHandle, true⟩, succeeded (.bind (address config))])

structure Prepares (config : AppConfig) (op : MainOp) : Prop where
  tracing : ∀ environment name endpoint, op = .initTracing environment name endpoint →
    environment = config.environment ∧ endpoint = config.otlpEndpoint
  notServe : op ≠ .attempt .serve
  notClose : op ≠ .closePool
  notShutdown : op ≠ .shutdownTracerProvider

theorem prepares_initTracing (config : AppConfig) (name : Option String) :
    Prepares config (.initTracing config.environment name config.otlpEndpoint) := by
  refine ⟨fun environment other endpoint same => ?_, nofun, nofun, nofun⟩
  cases same
  exact ⟨rfl, rfl⟩

theorem prepares_attempt {config : AppConfig} {op : Attempt} (notServe : op ≠ .serve) : Prepares config (.attempt op) :=
  ⟨nofun, fun same => notServe (MainOp.attempt.inj same), nofun, nofun⟩

/-- Before requests are accepted there are only preparations, and no success. -/
structure Starting (panics : Prop) (config : AppConfig) (history : List (Event mainInterface)) (rest : MainProgram) :
    Prop where
  past : ∀ event ∈ history, Prepares config event.1
  waiting : ∀ op next, rest = .call op next → Prepares config op
  ended : ∀ exit, rest = .done exit → exit = .panicked ∧ (panics ∨ ⟨.metricHandle, false⟩ ∈ history) ∨
    ∃ op error, op ≠ .serve ∧ exit = .failed error ∧ ⟨.attempt op, .error error⟩ ∈ history

/-- A program that leads through some events to what is said of the rest, unless it ends before. -/
def LeadsTo (panics : Prop) (config : AppConfig) (events : List (Event mainInterface))
    (onward : List (Event mainInterface) → MainProgram → Prop) (program : MainProgram) : Prop :=
  ∀ history rest, program.Reaches history rest → Starting panics config history rest ∨
    ∃ later, history = events ++ later ∧ onward later rest

variable {panics : Prop} {config : AppConfig} {history events : List (Event mainInterface)} {rest program : MainProgram}
  {onward : List (Event mainInterface) → MainProgram → Prop}

theorem Starting.cons {event : Event mainInterface} (starting : Starting panics config history rest)
    (prepares : Prepares config event.1) : Starting panics config (event :: history) rest := by
  refine ⟨List.forall_mem_cons.mpr ⟨prepares, starting.past⟩, starting.waiting, fun exit same => ?_⟩
  rcases starting.ended exit same with ⟨panicked, reason⟩ | ⟨op, error, notServe, failed, member⟩
  · exact .inl ⟨panicked, reason.imp_right (List.mem_cons_of_mem _)⟩
  · exact .inr ⟨op, error, notServe, failed, List.mem_cons_of_mem _ member⟩

theorem starting_call {op : MainOp} {next : op.Reply → MainProgram} (prepares : Prepares config op) :
    Starting panics config [] (.call op next) := by
  refine ⟨by simp, fun other next same => ?_, nofun⟩
  cases same
  exact prepares

theorem LeadsTo.attempt {op : Attempt} (leads : LeadsTo panics config events onward program) (notServe : op ≠ .serve) :
    LeadsTo panics config (succeeded op :: events) onward (attempt op program) := by
  have prepares : Prepares config (.attempt op) := prepares_attempt notServe
  intro history rest reached
  rcases Program.reaches_call.mp reached with ⟨empty, same⟩ | ⟨reply, later, split, replied⟩
  · rw [empty, same]
    exact .inl (starting_call prepares)
  rw [split]
  cases reply with
  | error error =>
    obtain ⟨empty, same⟩ := Program.reaches_done.mp replied
    rw [empty, same]
    refine .inl ⟨by simpa using prepares, nofun, fun exit finished => ?_⟩
    cases finished
    exact .inr ⟨op, error, notServe, rfl, List.mem_cons_self⟩
  | ok done =>
    rcases leads later rest replied with starting | ⟨more, same, reached⟩
    · exact .inl (starting.cons prepares)
    · exact .inr ⟨more, by rw [same]; rfl, reached⟩

theorem prepares_metricHandle (config : AppConfig) : Prepares config .metricHandle := ⟨nofun, nofun, nofun, nofun⟩

theorem LeadsTo.installMetrics (leads : LeadsTo panics config events onward program) :
    LeadsTo panics config (⟨.metricHandle, true⟩ :: events) onward (installMetrics program) := by
  intro history rest reached
  rcases Program.reaches_call.mp reached with ⟨empty, same⟩ | ⟨installed, later, split, replied⟩
  · rw [empty, same]
    exact .inl (starting_call (prepares_metricHandle config))
  rw [split]
  cases installed with
  | false =>
    obtain ⟨empty, same⟩ := Program.reaches_done.mp replied
    rw [empty, same]
    refine .inl ⟨by simpa using prepares_metricHandle config, nofun, fun exit finished => ?_⟩
    cases finished
    exact .inl ⟨rfl, .inr List.mem_cons_self⟩
  | true =>
    rcases leads later rest replied with starting | ⟨more, same, reached⟩
    · exact .inl (starting.cons (prepares_metricHandle config))
    · exact .inr ⟨more, by rw [same]; rfl, reached⟩

theorem LeadsTo.prepared (leads : LeadsTo panics config events onward program) :
    LeadsTo panics config ((prepared config).map succeeded ++ events) onward
      (TemplateServico.attempt (.createPool config.databaseUrl) <| TemplateServico.attempt .runMigrations <|
        connectRedis config.redisUrl program) := by
  have connected : LeadsTo panics config ((config.redisUrl.toList.map Attempt.connectRedis).map succeeded ++ events) onward
      (connectRedis config.redisUrl program) := by
    cases config.redisUrl with
    | none => exact leads
    | some url => exact leads.attempt nofun
  have migrated : LeadsTo panics config (succeeded .runMigrations :: _) onward
      (TemplateServico.attempt .runMigrations (connectRedis config.redisUrl program)) := connected.attempt nofun
  have created : LeadsTo panics config (succeeded (.createPool config.databaseUrl) :: _) onward
      (TemplateServico.attempt (.createPool config.databaseUrl) _) := migrated.attempt nofun
  simpa [TemplateServico.prepared] using created

theorem started_prepares (config : AppConfig) : ∀ event ∈ started config, Prepares config event.1 := by
  intro event member
  rcases List.mem_cons.mp member with first | attempted
  · rw [first]
    exact prepares_initTracing config _
  rcases List.mem_append.mp attempted with early | late
  · obtain ⟨op, among, same⟩ := List.mem_map.mp early
    rw [← same]
    apply prepares_attempt
    rintro rfl
    simp [prepared] at among
  · simp only [List.mem_cons, List.not_mem_nil, or_false] at late
    rcases late with handle | bound
    · rw [handle]
      exact prepares_metricHandle config
    · rw [bound]
      exact prepares_attempt nofun

/-- Where a run of `main` is once it has made its preparations. -/
inductive Serving (config : AppConfig) : List (Event mainInterface) → MainProgram → Prop where
  | waiting : Serving config (started config) (attempt .serve (shutDown config))
  | failed (error : MainError) :
      Serving config (started config ++ [⟨.attempt .serve, .error error⟩]) (.done (.failed error))
  | closing : Serving config (started config ++ [succeeded .serve]) (shutDown config)
  | exporting : exportsTraces config = true →
      Serving config (started config ++ [succeeded .serve] ++ [⟨.closePool, ()⟩])
        (.call .shutdownTracerProvider fun _ => .done .success)
  | unexported : exportsTraces config = false →
      Serving config (started config ++ [succeeded .serve] ++ [⟨.closePool, ()⟩]) (.done .success)
  | exported : exportsTraces config = true →
      Serving config (started config ++ [succeeded .serve] ++ [⟨.closePool, ()⟩] ++ [⟨.shutdownTracerProvider, ()⟩])
        (.done .success)

theorem Serving.reply {op : MainOp} {next : op.Reply → MainProgram} (serving : Serving config history (.call op next))
    (reply : op.Reply) : Serving config (history ++ [⟨op, reply⟩]) (next reply) := by
  generalize same : Program.call (I := mainInterface) op next = rest at serving
  cases serving with
  | waiting =>
    cases same
    cases reply with
    | error error => exact .failed error
    | ok done => exact .closing
  | closing =>
    cases same
    dsimp only
    split
    next exports => exact .exporting exports
    next silent => exact .unexported (Bool.eq_false_iff.mpr silent)
  | exporting exports =>
    cases same
    exact .exported exports
  | failed => cases same
  | unexported => cases same
  | exported => cases same

theorem Serving.late {op : MainOp} {next : op.Reply → MainProgram} (serving : Serving config history (.call op next)) :
    op = .attempt .serve ∨ op = .closePool ∨ op = .shutdownTracerProvider := by
  generalize same : Program.call (I := mainInterface) op next = rest at serving
  cases serving <;> cases same <;> simp

theorem Serving.reaches {later : List (Event mainInterface)} (serving : Serving config history program)
    (reached : program.Reaches later rest) : Serving config (history ++ later) rest := by
  induction reached generalizing history with
  | start => rwa [List.append_nil]
  | reply reply _ ih =>
    have onward := ih (serving.reply reply)
    rwa [List.append_assoc] at onward

abbrev Stage (router : Option (Request → ServiceProgram Response)) (config : AppConfig)
    (history : List (Event mainInterface)) (rest : MainProgram) : Prop :=
  Starting (router = none) config history rest ∨ router ≠ none ∧ Serving config history rest

section Stages

variable {router : Option (Request → ServiceProgram Response)} {op : MainOp} {next : op.Reply → MainProgram}

/-- Before `closePool` is asked for, there are only preparations in the past. -/
theorem Stage.early (stage : Stage router config history (.call op next)) (notClose : op ≠ .closePool)
    (notShutdown : op ≠ .shutdownTracerProvider) : ∀ event ∈ history, Prepares config event.1 := by
  rcases stage with starting | ⟨_, serving⟩
  · exact starting.past
  generalize same : Program.call (I := mainInterface) op next = rest at serving
  cases serving with
  | waiting => exact started_prepares config
  | failed => cases same
  | closing =>
    cases same
    exact absurd rfl notClose
  | exporting =>
    cases same
    exact absurd rfl notShutdown
  | unexported => cases same
  | exported => cases same

theorem Stage.prepares (stage : Stage router config history (.call op next)) (notServe : op ≠ .attempt .serve)
    (notClose : op ≠ .closePool) (notShutdown : op ≠ .shutdownTracerProvider) : Prepares config op := by
  rcases stage with starting | ⟨_, serving⟩
  · exact starting.waiting op next rfl
  generalize same : Program.call (I := mainInterface) op next = rest at serving
  cases serving with
  | waiting =>
    cases same
    exact absurd rfl notServe
  | failed => cases same
  | closing =>
    cases same
    exact absurd rfl notClose
  | exporting =>
    cases same
    exact absurd rfl notShutdown
  | unexported => cases same
  | exported => cases same

theorem Stage.of_serve {next : Except MainError Unit → MainProgram}
    (stage : Stage router config history (.call (.attempt .serve) next)) :
    history = started config ∧ Program.call (I := mainInterface) (.attempt .serve) next = attempt .serve (shutDown config) := by
  rcases stage with starting | ⟨_, serving⟩
  · exact absurd rfl (starting.waiting _ next rfl).notServe
  generalize same : Program.call (I := mainInterface) (.attempt .serve) next = rest at serving
  cases serving with
  | waiting =>
    cases same
    exact ⟨rfl, rfl⟩
  | failed => cases same
  | closing => cases same
  | exporting => cases same
  | unexported => cases same
  | exported => cases same

theorem Stage.of_closed (stage : Stage router config history rest) (closed : ⟨.closePool, ()⟩ ∈ history) :
    succeeded .serve ∈ history := by
  have notStarted : (⟨.closePool, ()⟩ : Event mainInterface) ∉ started config :=
    fun member => (started_prepares config _ member).notClose rfl
  rcases stage with starting | ⟨_, serving⟩
  · exact absurd rfl (starting.past _ closed).notClose
  cases serving with
  | waiting => exact absurd closed notStarted
  | failed => simp [notStarted] at closed
  | closing => simp [notStarted] at closed
  | exporting => simp
  | unexported => simp
  | exported => simp

end Stages

theorem main_stage {libs : Libraries} (reached : (main libs config).Reaches history rest) :
    Stage (createRouter libs (appState config)) config history rest := by
  rcases Program.reaches_call.mp reached with ⟨empty, same⟩ | ⟨_, later, split, replied⟩
  · rw [empty, same]
    exact .inl (starting_call (prepares_initTracing config _))
  rw [split]
  have first := prepares_initTracing config (some config.otelServiceName)
  cases built : createRouter libs (appState config) with
  | none =>
    have leads : LeadsTo (none = (none : Option (Request → ServiceProgram Response))) config [] (fun _ _ => False)
        (.done .panicked) := by
      intro history rest reached
      obtain ⟨empty, same⟩ := Program.reaches_done.mp reached
      rw [empty, same]
      refine .inl ⟨by simp, nofun, fun exit finished => ?_⟩
      cases finished
      exact .inl ⟨rfl, .inl rfl⟩
    rw [built] at replied
    rcases leads.prepared later rest replied with starting | ⟨more, _, impossible⟩
    · exact .inl (starting.cons first)
    · exact impossible.elim
  | some service =>
    have bound : LeadsTo (some service = none) config [succeeded (.bind (address config))]
        (attempt .serve (shutDown config)).Reaches (attempt (.bind (address config)) <| attempt .serve (shutDown config)) :=
      LeadsTo.attempt (fun history _ reached => .inr ⟨history, rfl, reached⟩) nofun
    have leads := bound.installMetrics
    rw [built] at replied
    rcases leads.prepared later rest replied with starting | ⟨more, same, reached⟩
    · exact .inl (starting.cons first)
    · have split : ⟨.initTracing config.environment (some config.otelServiceName) config.otlpEndpoint, ()⟩ :: later =
          started config ++ more := by
        rw [same]
        simp [started]
      rw [split]
      exact .inr ⟨nofun, Serving.waiting.reaches reached⟩

end TemplateServico
