import TemplateServico.Interaction.Progress

/-! The recorder of the metrics, in a process that may make many routers at once.

There can be one recorder in a process. The lock lets only one caller at a time install it,
and the others wait for that one. The library that installs it is a parameter.
-/

set_option autoImplicit false

namespace TemplateServico.Metrics

open Interaction

/-- A handle renders what one recorder has seen. -/
structure Handle where
  recorder : Nat
  deriving DecidableEq, Repr

inductive MetricsOp where
  -- The handle in the lock. Who finds the lock empty is to fill it.
  | enter
  -- No reply stands for a panic.
  | pair
  | store (handle : Handle)

def MetricsOp.Reply : MetricsOp → Type
  | .enter | .pair => Option Handle
  | .store _ => Unit

abbrev metricsInterface : Interface := ⟨MetricsOp, MetricsOp.Reply⟩

def install : Program metricsInterface (Option Handle) :=
  .call .pair fun
    | none => .done none
    | some handle => .call (.store handle) fun _ => .done (some handle)

/-- `get_or_init` in `create_router`. There is no handle after a panic. -/
def metricHandle : Program metricsInterface (Option Handle) :=
  .call .enter fun
    | some handle => .done (some handle)
    | none => install

/-! ## The library -/

/-- `PrometheusMetricLayer::pair`: the recorder of the process, what is returned, and the recorder afterwards. -/
abbrev Pairing := Option Handle → Option Handle → Option Handle → Prop

/-- What is documented of it. It panics if there is a recorder, and may panic for other
reasons, such as a port that is taken. -/
structure Pairing.Documented (pairing : Pairing) : Prop where
  installs : ∀ before handle after, pairing before (some handle) after → before = none ∧ after = some handle
  panics : ∀ before after, pairing before none after → after = before
  ends : ∀ before, ∃ handle? after, pairing before handle? after

/-! ## The lock -/

inductive Lock where
  | empty
  | running (position : Nat)
  | full (handle : Handle)
  deriving DecidableEq, Repr

structure MetricsState where
  lock : Lock
  recorder : Option Handle

def MetricsState.initial : MetricsState := ⟨.empty, none⟩

variable {pairing : Pairing}

-- While the lock is being filled, nobody else has a reply to `enter`.
inductive Performs (pairing : Pairing) (position : Nat) (state : MetricsState) :
    (op : MetricsOp) → op.Reply → MetricsState → Prop where
  | finds {handle : Handle} : state.lock = .full handle → Performs pairing position state .enter (some handle) state
  | enters : state.lock = .empty →
      Performs pairing position state .enter none { state with lock := .running position }
  | pairs {handle : Handle} {after : Option Handle} : pairing state.recorder (some handle) after →
      Performs pairing position state .pair (some handle) { state with recorder := after }
  -- A panic leaves the lock empty.
  | panics {after : Option Handle} : pairing state.recorder none after →
      Performs pairing position state .pair none ⟨.empty, after⟩
  | stores (handle : Handle) : Performs pairing position state (.store handle) () { state with lock := .full handle }

def metricsMachine (pairing : Pairing) : Machine metricsInterface MetricsState Unit (Option Handle) :=
  ⟨fun _ => metricHandle, fun position op state reply state' => Performs pairing position state op reply state',
    fun _ _ => False⟩

/-! ## Where each caller is -/

inductive Stage (pairing : Pairing) (state : MetricsState) (position : Nat) :
    Program metricsInterface (Option Handle) → Prop where
  | starts : state.lock ≠ .running position → Stage pairing state position metricHandle
  | installs : state.lock = .running position → state.recorder = none → Stage pairing state position install
  | stores (handle : Handle) : state.lock = .running position → state.recorder = some handle →
      Stage pairing state position (.call (.store handle) fun _ => .done (some handle))
  | ends (handle : Handle) : state.lock = .full handle → state.recorder = some handle →
      Stage pairing state position (.done (some handle))
  -- The library panics even where there is no recorder.
  | panicked : state.lock ≠ .running position → (∃ after, pairing none none after) →
      Stage pairing state position (.done none)

/-- Callers that are not filling the lock. -/
def Outside (pairing : Pairing) (program : Program metricsInterface (Option Handle)) : Prop :=
  program = metricHandle ∨ program = .done none ∧ ∃ after, pairing none none after

theorem Stage.outside {state : MetricsState} {position : Nat} {program : Program metricsInterface (Option Handle)}
    (outside : Outside pairing program) (free : state.lock ≠ .running position) : Stage pairing state position program := by
  rcases outside with same | ⟨same, reason⟩
  · rw [same]
    exact .starts free
  · rw [same]
    exact .panicked free reason

abbrev MetricsPool := Pool metricsInterface MetricsState Unit (Option Handle)

structure Orderly (pairing : Pairing) (pool : MetricsPool) : Prop where
  stages : ∀ (position : Nat) (task : Task metricsInterface Unit (Option Handle)),
    pool.tasks[position]? = some task → Stage pairing pool.shared position task.program
  vacant : pool.shared.lock = .empty → pool.shared.recorder = none
  full : ∀ handle, pool.shared.lock = .full handle → pool.shared.recorder = some handle
  running : ∀ position, pool.shared.lock = .running position → position < pool.tasks.length

section Steps

variable {state : MetricsState} {position : Nat} {program : Program metricsInterface (Option Handle)}

theorem Stage.of_running {holder : Nat} (stage : Stage pairing state position program)
    (running : state.lock = .running holder) (other : position ≠ holder) : Outside pairing program := by
  cases stage with
  | starts => exact .inl rfl
  | installs own _ =>
    cases own.symm.trans running
    exact absurd rfl other
  | stores _ own _ =>
    cases own.symm.trans running
    exact absurd rfl other
  | ends _ full _ => cases full.symm.trans running
  | panicked _ reason => exact .inr ⟨rfl, reason⟩

theorem Stage.of_empty (stage : Stage pairing state position program) (empty : state.lock = .empty) :
    Outside pairing program := by
  cases stage with
  | starts => exact .inl rfl
  | installs own _ => cases own.symm.trans empty
  | stores _ own _ => cases own.symm.trans empty
  | ends _ full _ => cases full.symm.trans empty
  | panicked _ reason => exact .inr ⟨rfl, reason⟩

end Steps

theorem Orderly.step (documented : pairing.Documented) {pool later : MetricsPool} (orderly : Orderly pairing pool)
    (step : (metricsMachine pairing).Step pool later) : Orderly pairing later := by
  cases step with
  | spawn job =>
    refine ⟨fun position task selected => ?_, orderly.vacant, orderly.full, fun position running => ?_⟩
    · rcases Nat.lt_or_ge position pool.tasks.length with old | fresh
      · rw [List.getElem?_append_left old] at selected
        exact orderly.stages position task selected
      · rw [List.getElem?_append_right fresh] at selected
        obtain ⟨_, same⟩ := List.getElem?_eq_some_iff.mp selected
        rw [List.getElem_singleton] at same
        rw [← same]
        refine .starts fun running => ?_
        exact absurd (orderly.running position running) (Nat.not_lt.mpr fresh)
    · rw [List.length_append]
      exact Nat.lt_add_right _ (orderly.running position running)
  | @perform acting job history op next reply shared found performed =>
    have bound := (List.getElem?_eq_some_iff.mp found).1
    have stage := orderly.stages acting _ found
    have advance {state : MetricsState} {task : Task metricsInterface Unit (Option Handle)}
        (own : Stage pairing state acting task.program)
        (others : ∀ position program, position ≠ acting → Stage pairing pool.shared position program →
          Stage pairing state position program)
        (vacant : state.lock = .empty → state.recorder = none)
        (full : ∀ handle, state.lock = .full handle → state.recorder = some handle)
        (running : ∀ position, state.lock = .running position → position < pool.tasks.length) :
        Orderly pairing ⟨state, pool.tasks.set acting task⟩ := by
      refine ⟨fun position other selected => ?_, vacant, full, by simpa using running⟩
      by_cases same : acting = position
      · rw [same, List.getElem?_set_self (same ▸ bound)] at selected
        cases selected
        exact same ▸ own
      · simp only [List.getElem?_set_ne same] at selected
        exact others position other.program (Ne.symm same) (orderly.stages position other selected)
    generalize waiting : Program.call op next = program at stage
    cases stage with
    | starts notHolder =>
      cases waiting
      cases performed with
      | @finds handle full =>
        exact advance (.ends handle full (orderly.full handle full)) (fun _ _ _ stage => stage) orderly.vacant orderly.full
          orderly.running
      | enters empty =>
        refine advance (.installs rfl (orderly.vacant empty)) (fun position program other stage => ?_) nofun nofun ?_
        · exact .outside (stage.of_empty empty) fun running => other (Lock.running.inj running).symm
        · intro position running
          rw [← Lock.running.inj running]
          exact bound
    | installs running vacant =>
      cases waiting
      cases performed with
      | @pairs handle after paired =>
        obtain ⟨_, installed⟩ := documented.installs _ _ _ paired
        refine advance (.stores handle running installed) (fun position program other stage => ?_) ?_ ?_ orderly.running
        · exact .outside (stage.of_running running other) fun same => other (Lock.running.inj (same.symm.trans running))
        · intro empty
          cases running.symm.trans empty
        · intro other full
          cases running.symm.trans full
      | @panics after paired =>
        have kept := documented.panics _ _ paired
        refine advance (.panicked nofun ⟨after, vacant ▸ paired⟩) (fun position program other stage => ?_)
          (fun _ => kept.trans vacant) nofun nofun
        exact .outside (stage.of_running running other) nofun
    | stores handle running present =>
      cases waiting
      cases performed with
      | stores =>
        refine advance (.ends handle rfl present) (fun position program other stage => ?_) nofun ?_ nofun
        · exact .outside (stage.of_running running other) nofun
        · intro other full
          rw [← Lock.full.inj full]
          exact present
    | ends handle full present => cases waiting
    | panicked => cases waiting
  | environment changed => exact changed.elim

theorem orderly_reachable (documented : pairing.Documented) {pool : MetricsPool}
    (reachable : (metricsMachine pairing).Reachable .initial pool) : Orderly pairing pool := by
  induction reachable with
  | refl => exact ⟨nofun, fun _ => rfl, nofun, nofun⟩
  | tail _ step ih => exact ih.step documented step

/-! ## All callers come to an end -/

theorem Orderly.progress (documented : pairing.Documented) {pool : MetricsPool} (orderly : Orderly pairing pool)
    {task : Task metricsInterface Unit (Option Handle)} (member : task ∈ pool.tasks) (pending : ¬ task.Finished) :
    ∃ later, (metricsMachine pairing).Works pool later := by
  obtain ⟨position, bound, same⟩ := List.getElem_of_mem member
  have selected : pool.tasks[position]? = some task := List.getElem?_eq_some_iff.mpr ⟨bound, same⟩
  obtain ⟨job, history, program⟩ := task
  have stage : Stage pairing pool.shared position program := orderly.stages position _ selected
  have starting (outside : Outside pairing program) : program = metricHandle :=
    outside.resolve_right fun ended => pending ⟨_, ended.1⟩
  cases holder : pool.shared.lock with
  | empty =>
    cases starting (stage.of_empty holder)
    exact ⟨_, Machine.Works.perform selected (.enters holder)⟩
  | full handle =>
    cases stage with
    | starts => exact ⟨_, Machine.Works.perform selected (.finds holder)⟩
    | installs running _ => cases running.symm.trans holder
    | stores _ running _ => cases running.symm.trans holder
    | ends handle => exact absurd ⟨_, rfl⟩ pending
    | panicked => exact absurd ⟨_, rfl⟩ pending
  | running acting =>
    -- Whoever holds the lock can go on.
    obtain ⟨⟨job', history', program'⟩, found⟩ : ∃ holding, pool.tasks[acting]? = some holding :=
      ⟨_, List.getElem?_eq_getElem (orderly.running acting holder)⟩
    have own : Stage pairing pool.shared acting program' := orderly.stages acting _ found
    cases own with
    | starts free => exact absurd holder free
    | installs _ vacant =>
      obtain ⟨handle?, after, paired⟩ := documented.ends pool.shared.recorder
      cases handle? with
      | none => exact ⟨_, Machine.Works.perform found (.panics paired)⟩
      | some handle => exact ⟨_, Machine.Works.perform found (.pairs paired)⟩
    | stores handle => exact ⟨_, Machine.Works.perform found (.stores handle)⟩
    | ends _ full _ => cases full.symm.trans holder
    | panicked free => exact absurd holder free

theorem Orderly.stage {pool : MetricsPool} (orderly : Orderly pairing pool) {task : Task metricsInterface Unit (Option Handle)}
    (member : task ∈ pool.tasks) : ∃ position, Stage pairing pool.shared position task.program := by
  obtain ⟨position, bound, same⟩ := List.getElem_of_mem member
  exact ⟨position, orderly.stages position task (List.getElem?_eq_some_iff.mpr ⟨bound, same⟩)⟩

/-- Nobody asks for a second recorder. -/
theorem Orderly.asks {pool : MetricsPool} (orderly : Orderly pairing pool) {task : Task metricsInterface Unit (Option Handle)}
    (member : task ∈ pool.tasks) {next : Option Handle → Program metricsInterface (Option Handle)}
    (asking : task.program = .call .pair next) : pool.shared.recorder = none := by
  obtain ⟨position, stage⟩ := orderly.stage member
  rw [asking] at stage
  generalize waiting : Program.call (I := metricsInterface) .pair next = program at stage
  cases stage with
  | installs _ vacant => exact vacant
  | starts => cases waiting
  | stores => cases waiting
  | ends => cases waiting
  | panicked => cases waiting

theorem Orderly.done {pool : MetricsPool} (orderly : Orderly pairing pool) {task : Task metricsInterface Unit (Option Handle)}
    (member : task ∈ pool.tasks) {handle : Handle} (ended : task.program = .done (some handle)) :
    pool.shared.recorder = some handle := by
  obtain ⟨position, stage⟩ := orderly.stage member
  rw [ended] at stage
  cases stage with
  | ends _ _ present => exact present

theorem panicked_pairing {history : List (Event metricsInterface)} (reached : metricHandle.Reaches history (.done none)) :
    (⟨.pair, none⟩ : Event metricsInterface) ∈ history := by
  rcases Program.reaches_call.mp reached with ⟨_, same⟩ | ⟨found, later, split, onward⟩
  · cases same
  cases found with
  | some handle => cases (Program.reaches_done.mp onward).2
  | none =>
    rcases Program.reaches_call.mp onward with ⟨_, same⟩ | ⟨paired, last, split', onward⟩
    · cases same
    cases paired with
    | none =>
      rw [split, split']
      exact List.mem_cons_of_mem _ List.mem_cons_self
    | some handle =>
      rcases Program.reaches_call.mp onward with ⟨_, same⟩ | ⟨_, _, _, onward⟩
      · cases same
      · cases (Program.reaches_done.mp onward).2

theorem recorder_kept (documented : pairing.Documented) (handle : Handle) :
    (metricsMachine pairing).Kept fun state => state.recorder = some handle where
  perform := by
    intro position op state reply state' present performed
    cases performed with
    | pairs paired => cases present.symm.trans (documented.installs _ _ _ paired).1
    | panics paired => exact (documented.panics _ _ paired).trans present
    | _ => exact present
  environment := fun _ changed => changed.elim

theorem Orderly.reason {pool : MetricsPool} (orderly : Orderly pairing pool)
    {task : Task metricsInterface Unit (Option Handle)} (member : task ∈ pool.tasks) (ended : task.program = .done none) :
    ∃ after, pairing none none after := by
  obtain ⟨position, stage⟩ := orderly.stage member
  rw [ended] at stage
  cases stage with
  | panicked _ reason => exact reason

/-- A call panics only where the library does so without a recorder. -/
structure Shared (pairing : Pairing) (pool : MetricsPool) : Prop where
  unrivalled : ∀ task ∈ pool.tasks, ∀ next, task.program = .call .pair next → pool.shared.recorder = none
  panicked : ∀ task ∈ pool.tasks, task.program = .done none →
    (⟨.pair, none⟩ : Event metricsInterface) ∈ task.history ∧ ∃ after, pairing none none after
  returned : ∀ task ∈ pool.tasks, ∀ handle, task.program = .done (some handle) → pool.shared.recorder = some handle

theorem shared_reachable (documented : pairing.Documented) {pool : MetricsPool}
    (reachable : (metricsMachine pairing).Reachable .initial pool) : Shared pairing pool := by
  have orderly := orderly_reachable documented reachable
  refine ⟨fun task member next asking => orderly.asks member asking, fun task member ended => ?_,
    fun task member handle ended => orderly.done member ended⟩
  obtain ⟨position, selected⟩ := List.mem_iff_getElem?.mp member
  have reached : metricHandle.Reaches task.history task.program := reachable.reaches selected
  rw [ended] at reached
  exact ⟨panicked_pairing reached, orderly.reason member ended⟩

/-- However many routers are made at once, one recorder is installed and never replaced, no
call tries to install a second one, and all come to an end: those that the library did not
let panic have the handle of that recorder. -/
theorem routers_share_recorder (documented : pairing.Documented) {pool : MetricsPool}
    (reachable : (metricsMachine pairing).Reachable .initial pool) : Shared pairing pool ∧
    (∀ later handle, (metricsMachine pairing).Steps pool later → pool.shared.recorder = some handle →
      later.shared.recorder = some handle) ∧
    Inevitable (metricsMachine pairing).Works (fun final => ∃ handle, ∀ task ∈ final.tasks,
      task.program = .done (some handle) ∨
        task.program = .done none ∧ (⟨.pair, none⟩ : Event metricsInterface) ∈ task.history) pool := by
  refine ⟨shared_reachable documented reachable, ?_, ?_⟩
  · intro later handle steps present
    exact (recorder_kept documented handle).steps steps present
  · let Here := (metricsMachine pairing).Reachable MetricsState.initial
    have onward (first second : MetricsPool) (here : Here first) (works : (metricsMachine pairing).Works first second) :
        Here second := here.tail works.1
    have acc : Acc (fun later pool => (metricsMachine pairing).Works pool later) pool :=
      Machine.works_acc Here (fun _ => 0) onward (fun _ _ _ changed => changed.elim) reachable
    refine Inevitable.of_acc acc onward (fun final here unfinished => ?_) reachable
    by_contra stuck
    apply unfinished
    have orderly := orderly_reachable documented here
    have shared := shared_reachable documented here
    have finished (task : Task metricsInterface Unit (Option Handle)) (member : task ∈ final.tasks) : task.Finished := by
      by_contra pending
      exact stuck (orderly.progress documented member pending)
    refine ⟨final.shared.recorder.getD ⟨0⟩, fun task member => ?_⟩
    obtain ⟨handle?, ended⟩ := finished task member
    cases handle? with
    | none => exact .inr ⟨ended, (shared.panicked task member ended).1⟩
    | some handle =>
      left
      rw [shared.returned task member handle ended]
      exact ended

/-! ## Two callers at once -/

/-- A library that has its port. -/
def examplePairing : Pairing := fun before handle? after =>
  before = none ∧ handle? = some ⟨0⟩ ∧ after = some ⟨0⟩ ∨ before ≠ none ∧ handle? = none ∧ after = before

theorem examplePairing_documented : examplePairing.Documented where
  installs := by
    rintro before handle after (⟨vacant, returned, installed⟩ | ⟨_, panicked, _⟩)
    · exact ⟨vacant, installed.trans returned.symm⟩
    · cases panicked
  panics := by
    rintro before after (⟨_, returned, _⟩ | ⟨_, _, kept⟩)
    · cases returned
    · exact kept
  ends := by
    intro before
    cases before with
    | none => exact ⟨_, _, .inl ⟨rfl, rfl, rfl⟩⟩
    | some handle => exact ⟨_, _, .inr ⟨nofun, rfl, rfl⟩⟩

theorem two_routers_share_recorder : ∃ (final : MetricsPool) (handle : Handle), final.tasks.length = 2 ∧
    ∀ task ∈ final.tasks, task.program = .done (some handle) ∨
      task.program = .done none ∧ (⟨.pair, none⟩ : Event metricsInterface) ∈ task.history := by
  have spawned : (metricsMachine examplePairing).Reachable .initial
      ⟨.initial, [⟨(), [], metricHandle⟩, ⟨(), [], metricHandle⟩]⟩ := .head (.spawn _ ()) (.single (.spawn _ ()))
  obtain ⟨final, works, handle, share⟩ := (routers_share_recorder examplePairing_documented spawned).2.2.reaches
  have both (later : MetricsPool) (works : Relation.ReflTransGen (metricsMachine examplePairing).Works
      ⟨.initial, [⟨(), [], metricHandle⟩, ⟨(), [], metricHandle⟩]⟩ later) : later.tasks.length = 2 := by
    induction works with
    | refl => rfl
    | tail _ works ih => exact works.2.trans ih
  exact ⟨final, handle, both final works, share⟩

end TemplateServico.Metrics
