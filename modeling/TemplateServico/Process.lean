import TemplateServico.Completion
import TemplateServico.Interaction.Origin
import TemplateServico.Main

/-! The life of a process: `main`, the requests it accepts, and the signals it gets.

What the libraries do is assumed here. `axum::serve` accepts nothing more once
`shutdown_signal` has returned, and returns when all it has accepted is answered;
`Pool::close` returns when all connections are back; OpenTelemetry has no provider left
after `shutdown_tracer_provider`. No client hangs up before it has its answer, or stalls.
-/

set_option autoImplicit false

namespace TemplateServico

open Http Interaction Postgres

/-- Why `shutdown_signal` returns. Where it cannot listen for a signal, it does not wait for one. -/
inductive ShutdownSignal where
  | ctrlC
  | terminate
  | unheard (error : String)

structure Process where
  history : List (Event mainInterface)
  program : MainProgram
  telemetry : Telemetry
  shutdown : Option ShutdownSignal
  requests : Pool serviceInterface PooledState Request Response

namespace Process

def start (libs : Libraries) (config : AppConfig) : Process :=
  ⟨[], main libs config, .initial, none, ⟨.initial, []⟩⟩

def advance (process : Process) (op : MainOp) (reply : op.Reply) (rest : MainProgram) : Process :=
  { process with history := process.history ++ [⟨op, reply⟩], program := rest }

/-- A step of the process. Where nothing fails, no `?` ends `main` and nobody kills it. -/
inductive Step (failing : Prop) (libs : Libraries) (config : AppConfig) (process : Process) : Process → Prop where
  | initTracing {environment : AppEnvironment} {name endpoint : Option String} {next : Unit → MainProgram}
      (built : Except String Unit) : process.program = .call (.initTracing environment name endpoint) next →
      Step failing libs config process
        { process.advance (.initTracing environment name endpoint) () (next ()) with
          telemetry := process.telemetry.initTracing built environment name endpoint }
  | succeeds {op : Attempt} {next : Except MainError Unit → MainProgram} :
      process.program = .call (.attempt op) next → op ≠ .serve →
      Step failing libs config process (process.advance (.attempt op) (.ok ()) (next (.ok ())))
  | fails {op : Attempt} {next : Except MainError Unit → MainProgram} (error : MainError) : failing →
      process.program = .call (.attempt op) next →
      Step failing libs config process (process.advance (.attempt op) (.error error) (next (.error error)))
  | metrics {next : Bool → MainProgram} (installed : Bool) : (installed = false → failing) →
      process.program = .call .metricHandle next →
      Step failing libs config process (process.advance .metricHandle installed (next installed))
  | accepts {service : Request → ServiceProgram Response} {next : Except MainError Unit → MainProgram}
      (request : Request) : process.program = .call (.attempt .serve) next → process.shutdown = none →
      createRouter libs (appState config) = some service →
      Step failing libs config process
        { process with
          requests := { process.requests with tasks := process.requests.tasks ++ [⟨request, [], service request⟩] } }
  -- The handlers of SIGINT and SIGTERM are there while the server runs.
  | signal {next : Except MainError Unit → MainProgram} (reason : ShutdownSignal) :
      (∀ error, reason = .unheard error → failing) → process.program = .call (.attempt .serve) next →
      process.shutdown = none → Step failing libs config process { process with shutdown := some reason }
  | works {service : Request → ServiceProgram Response} {requests : Pool serviceInterface PooledState Request Response} :
      createRouter libs (appState config) = some service → (∀ exit, process.program ≠ .done exit) →
      (pooledMachine failing service).Works process.requests requests →
      Step failing libs config process { process with requests := requests }
  -- The server stops when it was told to and the requests under way are answered.
  | served {next : Except MainError Unit → MainProgram} : process.program = .call (.attempt .serve) next →
      process.shutdown ≠ none → process.requests.Finished →
      Step failing libs config process (process.advance (.attempt .serve) (.ok ()) (next (.ok ())))
  -- The pool waits for its connections.
  | closes {next : Unit → MainProgram} : process.program = .call .closePool next →
      process.requests.shared.leases.held = [] → process.requests.shared.leases.returning = [] →
      Step failing libs config process (process.advance .closePool () (next ()))
  | shutsDownTracing {next : Unit → MainProgram} : process.program = .call .shutdownTracerProvider next →
      Step failing libs config process
        { process.advance .shutdownTracerProvider () (next ()) with
          telemetry := process.telemetry.shutdownTracerProvider }
  | killed : failing → (∀ exit, process.program ≠ .done exit) →
      Step failing libs config process { process with program := .done .killed }

abbrev Steps (failing : Prop) (libs : Libraries) (config : AppConfig) : Process → Process → Prop :=
  Relation.ReflTransGen (Step failing libs config)

def Reachable (libs : Libraries) (config : AppConfig) (process : Process) : Prop :=
  Steps True libs config (start libs config) process

end Process

/-! ## What holds of a process at any time -/

structure Orderly (libs : Libraries) (config : AppConfig) (process : Process) : Prop where
  followed : ∃ rest, (main libs config).Reaches process.history rest ∧
    (process.program = rest ∨ process.program = .done .killed)
  requests : ∀ service, createRouter libs (appState config) = some service →
    (pooledMachine True service).Reachable .initial process.requests
  accepted : process.requests.tasks ≠ [] → started config <+: process.history ∧
    (main libs config).Reaches (started config) (attempt .serve (shutDown config))
  served : succeeded .serve ∈ process.history → process.shutdown ≠ none ∧ process.requests.Finished
  closed : ⟨.closePool, ()⟩ ∈ process.history →
    process.requests.shared.leases.held = [] ∧ process.requests.shared.leases.returning = []
  exported : process.telemetry.provider ≠ none →
    exportsTraces config = true ∧ ⟨.shutdownTracerProvider, ()⟩ ∉ process.history

section Runs

variable {libs : Libraries} {config : AppConfig} {process later : Process} {failing : Prop}

theorem orderly_start (libs : Libraries) (config : AppConfig) : Orderly libs config (.start libs config) where
  followed := ⟨_, .start _, .inl rfl⟩
  requests := fun _ _ => .refl
  accepted := fun some => absurd rfl some
  served := nofun
  closed := nofun
  exported := fun some => absurd rfl some

theorem Orderly.reached (orderly : Orderly libs config process) {op : MainOp} {next : op.Reply → MainProgram}
    (waiting : process.program = .call op next) : (main libs config).Reaches process.history (.call op next) := by
  obtain ⟨rest, reached, same | killed⟩ := orderly.followed
  · rwa [← waiting, same]
  · rw [waiting] at killed
    cases killed

theorem Orderly.stage (orderly : Orderly libs config process) {op : MainOp} {next : op.Reply → MainProgram}
    (waiting : process.program = .call op next) :
    Stage (createRouter libs (appState config)) config process.history (.call op next) :=
  main_stage (orderly.reached waiting)

theorem Orderly.advance (orderly : Orderly libs config process) {op : MainOp} {next : op.Reply → MainProgram}
    (waiting : process.program = .call op next) (reply : op.Reply) {telemetry : Telemetry}
    (served : ⟨op, reply⟩ = succeeded .serve → process.shutdown ≠ none ∧ process.requests.Finished)
    (closed : ⟨op, reply⟩ = (⟨.closePool, ()⟩ : Event mainInterface) →
      process.requests.shared.leases.held = [] ∧ process.requests.shared.leases.returning = [])
    (exported : telemetry.provider ≠ none → exportsTraces config = true ∧
      ⟨.shutdownTracerProvider, ()⟩ ∉ process.history ++ [(⟨op, reply⟩ : Event mainInterface)]) :
    Orderly libs config { process.advance op reply (next reply) with telemetry := telemetry } where
  followed := ⟨_, (orderly.reached waiting).snoc reply, .inl rfl⟩
  requests := orderly.requests
  accepted := by
    intro some
    obtain ⟨past, reached⟩ := orderly.accepted some
    exact ⟨past.trans (List.prefix_append _ _), reached⟩
  served := by
    intro member
    rcases List.mem_append.mp member with old | new
    · exact orderly.served old
    · exact served (List.mem_singleton.mp new).symm
  closed := by
    intro member
    rcases List.mem_append.mp member with old | new
    · exact orderly.closed old
    · exact closed (List.mem_singleton.mp new).symm
  exported := exported

theorem Orderly.exported_snoc (orderly : Orderly libs config process) {event : Event mainInterface}
    (other : (⟨.shutdownTracerProvider, ()⟩ : Event mainInterface) ≠ event)
    (installed : process.telemetry.provider ≠ none) :
    exportsTraces config = true ∧ ⟨.shutdownTracerProvider, ()⟩ ∉ process.history ++ [event] := by
  obtain ⟨exports, absent⟩ := orderly.exported installed
  refine ⟨exports, ?_⟩
  rw [List.mem_append, List.mem_singleton]
  exact not_or.mpr ⟨absent, other⟩

theorem Orderly.step (orderly : Orderly libs config process) (step : process.Step True libs config later) :
    Orderly libs config later := by
  cases step with
  | @initTracing environment name endpoint next built waiting =>
    have stage := orderly.stage waiting
    have past := stage.early nofun nofun
    obtain ⟨sameEnvironment, sameEndpoint⟩ := (stage.prepares nofun nofun nofun).tracing _ _ _ rfl
    refine orderly.advance waiting () nofun nofun fun installed => ?_
    have absent : (⟨.shutdownTracerProvider, ()⟩ : Event mainInterface) ∉
        process.history ++ [⟨.initTracing environment name endpoint, ()⟩] := by
      rw [List.mem_append, List.mem_singleton]
      rintro (old | new)
      · exact (past _ old).notShutdown rfl
      · cases new
    rcases Telemetry.initTracing_provider environment name endpoint process.telemetry with same | ⟨production, url, given, _⟩
    · rw [same] at installed
      exact ⟨(orderly.exported installed).1, absent⟩
    · refine ⟨?_, absent⟩
      unfold exportsTraces
      rw [← sameEnvironment, ← sameEndpoint, production, given]
      rfl
  | succeeds waiting notServe =>
    refine orderly.advance waiting (.ok ()) (fun same => ?_) nofun (orderly.exported_snoc nofun)
    cases same
    exact absurd rfl notServe
  | fails error _ waiting => exact orderly.advance waiting (.error error) nofun nofun (orderly.exported_snoc nofun)
  | metrics installed _ waiting => exact orderly.advance waiting installed nofun nofun (orderly.exported_snoc nofun)
  | @accepts service next request waiting running built =>
    have atServe := (orderly.stage waiting).of_serve
    have past := (orderly.stage waiting).early nofun nofun
    refine ⟨orderly.followed, ?_, ?_, ?_, orderly.closed, orderly.exported⟩
    · intro other built'
      rw [built] at built'
      cases built'
      exact (orderly.requests service built).steps (.single (.spawn _ request))
    · intro _
      have reached := orderly.reached waiting
      rw [atServe.1] at reached ⊢
      exact ⟨List.prefix_refl _, atServe.2 ▸ reached⟩
    · intro member
      exact absurd rfl (past _ member).notServe
  | signal reason _ waiting running =>
    have past := (orderly.stage waiting).early nofun nofun
    exact ⟨orderly.followed, orderly.requests, orderly.accepted, fun member => absurd rfl (past _ member).notServe,
      orderly.closed, orderly.exported⟩
  | @works service requests built alive works =>
    have kept : succeeded .serve ∈ process.history → requests.tasks = process.requests.tasks ∧
        PooledServes True process.requests.shared requests.shared :=
      fun member => works.of_finished (orderly.served member).2
    refine ⟨orderly.followed, ?_, ?_, ?_, ?_, orderly.exported⟩
    · intro other built'
      rw [built] at built'
      cases built'
      exact (orderly.requests service built).steps (.single works.1)
    · intro some
      apply orderly.accepted
      intro none
      exact some (List.length_eq_zero_iff.mp (by rw [works.2, none]; rfl))
    · intro member
      obtain ⟨told, finished⟩ := orderly.served member
      refine ⟨told, ?_⟩
      unfold Pool.Finished
      rw [(kept member).1]
      exact finished
    · intro member
      obtain ⟨rest, reached, _⟩ := orderly.followed
      obtain ⟨held, returning⟩ := orderly.closed member
      have idle {position : Nat} : position ∉ process.requests.shared.leases.returning := by simp [returning]
      obtain ⟨_, served⟩ := kept ((main_stage reached).of_closed member)
      generalize after : requests.shared = shared at served ⊢
      cases served with
      | serves => exact ⟨held, returning⟩
      | reclaims member => exact absurd member idle
      | closes _ member => exact absurd member idle
  | served waiting told finished =>
    exact orderly.advance waiting (.ok ()) (fun _ => ⟨told, finished⟩) nofun (orderly.exported_snoc nofun)
  | closes waiting held returning =>
    exact orderly.advance waiting () nofun (fun _ => ⟨held, returning⟩) (orderly.exported_snoc nofun)
  | shutsDownTracing waiting => exact orderly.advance waiting () nofun nofun fun installed => absurd rfl installed
  | killed _ alive =>
    obtain ⟨rest, reached, _⟩ := orderly.followed
    exact ⟨⟨rest, reached, .inr rfl⟩, orderly.requests, orderly.accepted, orderly.served, orderly.closed,
      orderly.exported⟩

theorem orderly_reachable (reachable : process.Reachable libs config) : Orderly libs config process := by
  induction reachable with
  | refl => exact orderly_start libs config
  | tail _ step ih => exact ih.step step

theorem Orderly.serving (orderly : Orderly libs config process) (accepted : process.requests.tasks ≠ [])
    {rest : MainProgram} (reached : (main libs config).Reaches process.history rest) :
    Serving config process.history rest := by
  obtain ⟨⟨later, split⟩, atServe⟩ := orderly.accepted accepted
  rw [← split] at reached ⊢
  exact Serving.waiting.reaches (reached.after atServe)

theorem Orderly.exit (orderly : Orderly libs config process) {exit : Exit} (ended : process.program = .done exit)
    (notKilled : exit ≠ .killed) :
    process.requests.tasks = [] ∧ Starting (createRouter libs (appState config) = none) config process.history
      (.done exit) ∨ Serving config process.history (.done exit) := by
  obtain ⟨rest, reached, same | killed⟩ := orderly.followed
  · rw [ended] at same
    rw [← same] at reached
    by_cases accepted : process.requests.tasks = []
    · rcases main_stage reached with starting | ⟨_, serving⟩
      · exact .inl ⟨accepted, starting⟩
      · exact .inr serving
    · exact .inr (orderly.serving accepted reached)
  · rw [ended] at killed
    exact absurd (Program.done.inj killed) notKilled

/-- Success means that the server was told to stop, every request answered, every connection back, and no tracer left. -/
theorem Orderly.exit_success (orderly : Orderly libs config process) (ended : process.program = .done .success) :
    process.shutdown ≠ none ∧ process.requests.Finished ∧ process.requests.shared.leases.held = [] ∧
      process.requests.shared.leases.returning = [] ∧ process.telemetry.provider = none := by
  have events : succeeded .serve ∈ process.history ∧ ⟨.closePool, ()⟩ ∈ process.history ∧
      (exportsTraces config = true → ⟨.shutdownTracerProvider, ()⟩ ∈ process.history) := by
    rcases orderly.exit ended nofun with ⟨_, starting⟩ | serving
    · rcases starting.ended .success rfl with ⟨panicked, _⟩ | ⟨_, _, _, failed, _⟩
      · cases panicked
      · cases failed
    · generalize process.history = history at serving
      cases serving with
      | unexported silent => simp [silent]
      | exported => simp
  obtain ⟨served, closed, exported⟩ := events
  obtain ⟨told, finished⟩ := orderly.served served
  obtain ⟨held, returning⟩ := orderly.closed closed
  refine ⟨told, finished, held, returning, ?_⟩
  by_contra installed
  obtain ⟨exports, absent⟩ := orderly.exported installed
  exact absent (exported exports)

/-- How a process can have ended on its own: told to and with nothing left to do, or by an
error or a panic that came before any request, or by an error of the server. -/
theorem process_exits (reachable : process.Reachable libs config) {exit : Exit}
    (ended : process.program = .done exit) :
    (exit = .success → process.shutdown ≠ none ∧ process.requests.Finished ∧
      process.requests.shared.leases.held = [] ∧ process.requests.shared.leases.returning = [] ∧
      process.telemetry.provider = none) ∧
    (∀ error, exit = .failed error → ∃ op, ⟨.attempt op, .error error⟩ ∈ process.history ∧
      (op = .serve ∨ process.requests.tasks = [])) ∧
    (exit = .panicked → process.requests.tasks = [] ∧
      (createRouter libs (appState config) = none ∨ ⟨.metricHandle, false⟩ ∈ process.history)) := by
  have orderly := orderly_reachable reachable
  refine ⟨fun success => orderly.exit_success (success ▸ ended), fun error failed => ?_, fun panicked => ?_⟩
  · rw [failed] at ended
    rcases orderly.exit ended nofun with ⟨none, starting⟩ | serving
    · rcases starting.ended _ rfl with ⟨panicked, _⟩ | ⟨op, other, _, same, member⟩
      · cases panicked
      · cases same
        exact ⟨op, member, .inr none⟩
    · refine ⟨.serve, ?_, .inl rfl⟩
      generalize process.history = history at serving
      cases serving
      simp
  · rw [panicked] at ended
    rcases orderly.exit ended nofun with ⟨none, starting⟩ | serving
    · rcases starting.ended _ rfl with ⟨_, reason⟩ | ⟨_, _, _, failed, _⟩
      · exact ⟨none, reason⟩
      · cases failed
    · generalize process.history = history at serving
      cases serving

/-! ## Shutting down -/

/-- A process that was told to stop, and that has not failed. -/
structure Stopping (libs : Libraries) (config : AppConfig) (accepted : Nat) (process : Process) : Prop where
  reachable : process.Reachable libs config
  told : process.shutdown ≠ none
  serving : Serving config process.history process.program
  unfailed : ∀ error, ⟨.attempt .serve, .error error⟩ ∉ process.history
  accepted : process.requests.tasks.length = accepted

theorem Process.Step.mono (step : process.Step False libs config later) : process.Step True libs config later := by
  cases step with
  | initTracing built waiting => exact .initTracing built waiting
  | succeeds waiting notServe => exact .succeeds waiting notServe
  | fails _ impossible => exact impossible.elim
  | metrics installed possible waiting => exact .metrics installed (fun _ => trivial) waiting
  | accepts request waiting running built => exact .accepts request waiting running built
  | signal reason _ waiting running => exact .signal reason (fun _ _ => trivial) waiting running
  | works built alive works => exact .works built alive ⟨pooledMachine_mono (fun _ => trivial) works.1, works.2⟩
  | served waiting told finished => exact .served waiting told finished
  | closes waiting held returning => exact .closes waiting held returning
  | shutsDownTracing waiting => exact .shutsDownTracing waiting
  | killed impossible => exact impossible.elim

theorem not_prepares_serve : ¬ Prepares config (.attempt .serve) := fun prepares => prepares.notServe rfl

theorem not_prepares_closePool : ¬ Prepares config .closePool := fun prepares => prepares.notClose rfl

theorem Orderly.router (orderly : Orderly libs config process) {op : MainOp} {next : op.Reply → MainProgram}
    (waiting : process.program = .call op next) (late : ¬ Prepares config op) :
    ∃ service, createRouter libs (appState config) = some service := by
  rcases orderly.stage waiting with starting | ⟨built, _⟩
  · exact absurd (starting.waiting op next rfl) late
  · exact Option.ne_none_iff_exists'.mp built

variable {accepted : Nat}

theorem Stopping.advance (stopping : Stopping libs config accepted process) {op : MainOp}
    {next : op.Reply → MainProgram} (waiting : process.program = .call op next) (reply : op.Reply)
    {telemetry : Telemetry} (unfailed : ∀ error, (⟨.attempt .serve, .error error⟩ : Event mainInterface) ≠ ⟨op, reply⟩)
    (step : process.Step False libs config
      { process.advance op reply (next reply) with telemetry := telemetry }) :
    Stopping libs config accepted { process.advance op reply (next reply) with telemetry := telemetry } := by
  have serving := stopping.serving
  rw [waiting] at serving
  refine ⟨stopping.reachable.tail step.mono, stopping.told, serving.reply reply, fun error member => ?_,
    stopping.accepted⟩
  rcases List.mem_append.mp member with old | new
  · exact stopping.unfailed error old
  · exact unfailed error (List.mem_singleton.mp new)

/-- What a process that stops can still do: `main` goes on, or the requests do. -/
theorem Stopping.step (stopping : Stopping libs config accepted process) (step : process.Step False libs config later) :
    Stopping libs config accepted later ∧
      (Program.Child later.program process.program ∨ later.program = process.program ∧
        ∃ service, createRouter libs (appState config) = some service ∧
          (pooledMachine False service).Works process.requests later.requests) := by
  have child {op : MainOp} {next : op.Reply → MainProgram} (waiting : process.program = .call op next)
      (reply : op.Reply) : Program.Child (next reply) process.program := by
    rw [waiting]
    exact .reply (I := mainInterface) reply
  have late {op : MainOp} {next : op.Reply → MainProgram} (waiting : process.program = .call op next) :
      op = .attempt .serve ∨ op = .closePool ∨ op = .shutdownTracerProvider := by
    have serving := stopping.serving
    rw [waiting] at serving
    exact serving.late
  have taken := step
  cases step with
  | initTracing built waiting => rcases late waiting with same | same | same <;> cases same
  | succeeds waiting notServe =>
    rcases late waiting with same | same | same
    · exact absurd (MainOp.attempt.inj same) notServe
    · cases same
    · cases same
  | fails _ impossible => exact impossible.elim
  | metrics installed _ waiting => rcases late waiting with same | same | same <;> cases same
  | accepts request waiting running => exact absurd running stopping.told
  | signal reason _ waiting running => exact absurd running stopping.told
  | works built alive works =>
    exact ⟨⟨stopping.reachable.tail taken.mono, stopping.told, stopping.serving, stopping.unfailed,
      works.2.trans stopping.accepted⟩, .inr ⟨rfl, _, built, works⟩⟩
  | served waiting => exact ⟨stopping.advance waiting (.ok ()) nofun taken, .inl (child waiting _)⟩
  | closes waiting => exact ⟨stopping.advance waiting () nofun taken, .inl (child waiting _)⟩
  | shutsDownTracing waiting => exact ⟨stopping.advance waiting () nofun taken, .inl (child waiting _)⟩
  | killed impossible => exact impossible.elim

theorem held_of_finished {service : Request → ServiceProgram Response}
    {pool : Pool serviceInterface PooledState Request Response}
    (built : createRouter libs (appState config) = some service)
    (reachable : (pooledMachine True service).Reachable .initial pool) (finished : pool.Finished) :
    pool.shared.leases.held = [] := by
  rw [List.eq_nil_iff_forall_not_mem]
  intro position held
  obtain ⟨task, statement, selected, _, _, expecting⟩ := waiting_task built reachable held
  obtain ⟨response, ended⟩ := finished task (List.mem_of_getElem? selected)
  rcases expecting with ⟨_, _, same⟩ | ⟨_, same⟩
  · rw [ended] at same
    cases same
  · rw [ended] at same
    cases same

theorem Stopping.progress (stopping : Stopping libs config accepted process)
    (running : process.program ≠ .done .success) : ∃ later, process.Step False libs config later := by
  have orderly := orderly_reachable stopping.reachable
  obtain ⟨history, program, telemetry, shutdown, requests⟩ := process
  have serving : Serving config history program := stopping.serving
  cases serving with
  | waiting =>
    obtain ⟨service, built⟩ := orderly.router rfl not_prepares_serve
    by_cases finished : requests.Finished
    · exact ⟨_, .served rfl stopping.told finished⟩
    · simp only [Pool.Finished, not_forall] at finished
      obtain ⟨task, member, unfinished⟩ := finished
      obtain ⟨later, works⟩ := progress_possible built (orderly.requests service built) member unfinished
      refine ⟨_, .works built ?_ works⟩
      intro exit ended
      cases ended
  | failed error => exact absurd (List.mem_append_right _ (List.mem_singleton_self _)) (stopping.unfailed error)
  | closing =>
    obtain ⟨service, built⟩ := orderly.router rfl not_prepares_closePool
    have finished : requests.Finished := (orderly.served (List.mem_append_right _ (List.mem_singleton_self _))).2
    have held := held_of_finished built (orderly.requests service built) finished
    cases returning : requests.shared.leases.returning with
    | nil => exact ⟨_, .closes rfl held returning⟩
    | cons position rest =>
      have leased : position ∈ requests.shared.leases.held ++ requests.shared.leases.returning := by
        rw [returning]
        exact List.mem_append_right _ List.mem_cons_self
      obtain ⟨later, works⟩ := lease_moves built (orderly.requests service built) leased
      refine ⟨_, .works built ?_ works⟩
      intro exit ended
      cases ended
  | exporting exports => exact ⟨_, .shutsDownTracing rfl⟩
  | unexported => exact absurd rfl running
  | exported => exact absurd rfl running

theorem Stopping.acc (stopping : Stopping libs config accepted process) :
    Acc (fun later process : Process => process.Step False libs config later) process := by
  generalize same : process.program = program
  induction program using Program.child_wellFounded.induction generalizing process with
  | _ program ends =>
    -- While `main` waits, the requests that are left have to come to an end.
    have waiting (service : Request → ServiceProgram Response)
        (built : createRouter libs (appState config) = some service)
        (requests : Pool serviceInterface PooledState Request Response)
        (busy : Acc (fun later pool => (pooledMachine False service).Works pool later) requests) :
        ∀ process, Stopping libs config accepted process → process.program = program →
          process.requests = requests → Acc (fun later process : Process => process.Step False libs config later) process := by
      induction busy with
      | intro requests _ rest =>
        intro process stopping same here
        constructor
        intro later step
        obtain ⟨stopping', onward | ⟨same', other, built', works⟩⟩ := stopping.step step
        · exact ends later.program (same ▸ onward) stopping' rfl
        · rw [built] at built'
          cases built'
          exact rest later.requests (here ▸ works) later stopping' (same'.trans same) rfl
    constructor
    intro later step
    obtain ⟨stopping', onward | ⟨same', service, built, works⟩⟩ := stopping.step step
    · exact ends later.program (same ▸ onward) stopping' rfl
    · have reachable := (orderly_reachable stopping'.reachable).requests service built
      exact waiting service built later.requests (works_terminate reachable) later stopping' (same'.trans same) rfl

theorem Stopping.completes (stopping : Stopping libs config accepted process) :
    Inevitable (fun process later : Process => process.Step False libs config later)
      (fun final => Stopping libs config accepted final ∧ final.program = .done .success) process := by
  refine Inevitable.of_acc stopping.acc (fun _ _ stopping step => (stopping.step step).1) ?_ stopping
  intro process stopping running
  exact stopping.progress fun ended => running ⟨stopping, ended⟩

theorem stopping_of_signal (reachable : process.Reachable libs config) (told : process.shutdown ≠ none)
    {next : Except MainError Unit → MainProgram} (serving : process.program = .call (.attempt .serve) next) :
    Stopping libs config process.requests.tasks.length process := by
  have stage := (orderly_reachable reachable).stage serving
  have past := stage.early nofun nofun
  refine ⟨reachable, told, ?_, fun error member => absurd rfl (past _ member).notServe, rfl⟩
  obtain ⟨history, same⟩ := stage.of_serve
  rw [serving, history, same]
  exact .waiting

/-- Once the server has been told to stop, and if nothing fails from then on, then in whatever
order things happen every request that was accepted is answered, every connection goes
back to the pool, the tracer is shut down, and the process exits with success. -/
theorem shutdown_completes (reachable : process.Reachable libs config) (told : process.shutdown ≠ none)
    {next : Except MainError Unit → MainProgram} (serving : process.program = .call (.attempt .serve) next) :
    Inevitable (fun process later : Process => process.Step False libs config later) (fun final =>
      final.program = .done .success ∧ final.requests.Finished ∧
        final.requests.tasks.length = process.requests.tasks.length ∧
        final.requests.shared.leases.held = [] ∧ final.requests.shared.leases.returning = [] ∧
        final.telemetry.provider = none) process := by
  apply (stopping_of_signal reachable told serving).completes.mono
  intro final ⟨stopping, ended⟩
  obtain ⟨_, finished, held, returning, exported⟩ := (orderly_reachable stopping.reachable).exit_success ended
  exact ⟨ended, finished, stopping.accepted, held, returning, exported⟩

end Runs

/-! ## Processes that serve -/

section Serving

variable {libs : Libraries} {config : AppConfig} {service : Request → ServiceProgram Response} {process : Process}

/-- A process whose router can be built may come to serve. -/
theorem serving_process (built : createRouter libs (appState config) = some service) : ∃ process : Process,
    process.Reachable libs config ∧ process.program = attempt .serve (shutDown config) ∧ process.shutdown = none ∧
      process.requests = ⟨.initial, []⟩ := by
  let onward := installMetrics <| attempt (.bind (address config)) <| attempt .serve <| shutDown config
  have routed : main libs config =
      .call (.initTracing config.environment (some config.otelServiceName) config.otlpEndpoint) fun _ =>
        attempt (.createPool config.databaseUrl) <| attempt .runMigrations <| connectRedis config.redisUrl onward := by
    unfold main
    rw [built]
  obtain ⟨prepared, reachable, program, waiting, requests⟩ : ∃ process : Process, process.Reachable libs config ∧
      process.program = onward ∧ process.shutdown = none ∧ process.requests = ⟨.initial, []⟩ := by
    cases url : config.redisUrl with
    | none =>
      rw [url] at routed
      exact ⟨_, .head (.initTracing (.ok ()) routed) <| .head (.succeeds rfl nofun) <| .single (.succeeds rfl nofun),
        rfl, rfl, rfl⟩
    | some url' =>
      rw [url] at routed
      exact ⟨_, .head (.initTracing (.ok ()) routed) <| .head (.succeeds rfl nofun) <| .head (.succeeds rfl nofun) <|
        .single (.succeeds rfl nofun), rfl, rfl, rfl⟩
  have served : Process.Steps True libs config prepared _ :=
    .head (.metrics true nofun program) <| .single (.succeeds rfl nofun)
  exact ⟨_, reachable.trans served, rfl, waiting, requests⟩

theorem steps_of_works {requests : Pool serviceInterface PooledState Request Response}
    (built : createRouter libs (appState config) = some service) (alive : ∀ exit, process.program ≠ .done exit)
    (works : Relation.ReflTransGen (pooledMachine True service).Works process.requests requests) :
    Process.Steps True libs config process { process with requests := requests } := by
  induction works with
  | refl => exact .refl
  | tail _ works ih => exact ih.tail (.works built alive works)

theorem joined_process (built : createRouter libs (appState config) = some service)
    (reachable : process.Reachable libs config) (serving : process.program = attempt .serve (shutDown config))
    (running : process.shutdown = none) {request : Request} {history : List (Event serviceInterface)}
    {rest : ServiceProgram Response} {final : PooledState} (reached : (service request).Reaches history rest)
    (performed : (pooledMachine True service).Performed process.requests.tasks.length process.requests.shared history final) :
    Process.Reachable libs config
      { process with requests := ⟨final, process.requests.tasks ++ [⟨request, history, rest⟩]⟩ } := by
  have accepted := reachable.tail (.accepts request serving running built)
  have fresh : (process.requests.tasks ++ [⟨request, [], service request⟩])[process.requests.tasks.length]? =
      some ⟨request, [], service request⟩ := by simp
  have steps := Machine.steps_performed performed reached fresh
  rw [List.set_append_right _ _ (Nat.le_refl _), Nat.sub_self] at steps
  have alive (exit : Exit) : process.program ≠ .done exit := by
    rw [serving]
    nofun
  exact accepted.trans (steps_of_works built alive (Machine.works_of_steps steps (by simp)))

end Serving

/-! ## A process with two requests -/

/-- The statement of the first is on its way and the second has just come, when the
process is told to stop. -/
theorem stopping_example : ∃ (process : Process) (next : Except MainError Unit → MainProgram),
    process.Reachable exampleLibraries exampleConfig ∧ process.requests.historyAt 0 = sendingHealth ∧
      process.requests.tasks.length = 2 ∧ process.shutdown ≠ none ∧ process.program = .call (.attempt .serve) next := by
  obtain ⟨process, reachable, serving, running, fresh⟩ := serving_process exampleService_built
  obtain ⟨rest, reached⟩ : ∃ rest, (exampleService (plainRequest .get "/health")).Reaches sendingHealth rest :=
    Program.reaches_of_isSome (by decide)
  have performed : (pooledMachine True exampleService).Performed 0 .initial sendingHealth _ :=
    .reply (pooled_local (Handlers.local_of nofun nofun) nofun (.pass _ _)) (.reply (.onTime _)
      (.reply (.send List.not_mem_nil (by decide) (.send _ rfl)) (.nothing _)))
  have first := joined_process exampleService_built reachable serving running reached (by rw [fresh]; exact performed)
  have second := joined_process exampleService_built first serving running
    (.start (exampleService (bearing "full"))) (.nothing _)
  refine ⟨_, _, second.tail (.signal .terminate nofun serving running), ?_, ?_, nofun, serving⟩
  · rw [fresh]
    rfl
  · rw [fresh]
    rfl

theorem process_exits_answered : ∃ process : Process, process.requests.tasks.length = 2 ∧
    process.program = .done .success ∧ process.requests.Finished := by
  obtain ⟨process, next, reachable, _, two, told, serving⟩ := stopping_example
  obtain ⟨final, _, stopping, ended⟩ := (stopping_of_signal reachable told serving).completes.reaches
  exact ⟨final, stopping.accepted.trans two, ended, ((process_exits stopping.reachable ended).1 rfl).2.1⟩

theorem requests_shut_down : ∃ process : Process, process.requests.historyAt 0 = sendingHealth ∧
    Inevitable (fun process later : Process => process.Step False exampleLibraries exampleConfig later) (fun final =>
      final.program = .done .success ∧ final.requests.Finished ∧ final.requests.tasks.length = 2) process := by
  obtain ⟨process, next, reachable, sending, two, told, serving⟩ := stopping_example
  refine ⟨process, sending, (shutdown_completes reachable told serving).mono ?_⟩
  intro final ⟨ended, finished, same, _⟩
  exact ⟨ended, finished, same.trans two⟩

end TemplateServico
