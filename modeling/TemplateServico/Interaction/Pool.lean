import TemplateServico.Interaction.Program
import Mathlib.Logic.Relation
import Mathlib.Data.List.Basic

/-! Any number of programs taking turns over one shared state.

A machine gives each job its program and says which replies a request may get
in which shared state. Every step answers one pending request of one task, so
a run of the machine is one interleaving of all the tasks' requests.
-/

set_option autoImplicit false

namespace TemplateServico.Interaction

variable {I : Interface} {S R A : Type}

/-- A job with the replies it has had and the program that is left of it. -/
structure Task (I : Interface) (R A : Type) where
  job : R
  history : List (Event I)
  program : Program I A

structure Pool (I : Interface) (S R A : Type) where
  shared : S
  tasks : List (Task I R A)

structure Machine (I : Interface) (S R A : Type) where
  body : R → Program I A
  -- The task at a position makes a request, gets a reply and leaves a shared state.
  perform : Nat → (op : I.Op) → S → I.Reply op → S → Prop
  -- What happens to the shared state without any task.
  environment : S → S → Prop

def Pool.historyAt (pool : Pool I S R A) (position : Nat) : List (Event I) :=
  match pool.tasks[position]? with
  | some task => task.history
  | none => []

namespace Machine

variable (machine : Machine I S R A)

inductive Step : Pool I S R A → Pool I S R A → Prop where
  | spawn (pool : Pool I S R A) (job : R) :
      Step pool { pool with tasks := pool.tasks ++ [⟨job, [], machine.body job⟩] }
  | perform {pool : Pool I S R A} {position : Nat} {job : R} {history : List (Event I)} {op : I.Op}
      {next : I.Reply op → Program I A} {reply : I.Reply op} {shared : S} :
      pool.tasks[position]? = some ⟨job, history, .call op next⟩ →
      machine.perform position op pool.shared reply shared →
      Step pool ⟨shared, pool.tasks.set position ⟨job, history ++ [⟨op, reply⟩], next reply⟩⟩
  | environment {pool : Pool I S R A} {shared : S} :
      machine.environment pool.shared shared → Step pool { pool with shared := shared }

abbrev Steps : Pool I S R A → Pool I S R A → Prop := Relation.ReflTransGen machine.Step

def Reachable (initial : S) (pool : Pool I S R A) : Prop := machine.Steps ⟨initial, []⟩ pool

variable {machine} {initial : S} {pool later : Pool I S R A}

theorem Reachable.steps (reachable : machine.Reachable initial pool) (steps : machine.Steps pool later) :
    machine.Reachable initial later :=
  Relation.ReflTransGen.trans reachable steps

structure Kept (machine : Machine I S R A) (property : S → Prop) : Prop where
  perform : ∀ {position op shared reply shared'}, property shared →
    machine.perform position op shared reply shared' → property shared'
  environment : ∀ {shared shared'}, property shared → machine.environment shared shared' →
    property shared'

theorem Kept.step {property : S → Prop} (kept : machine.Kept property) (step : machine.Step pool later)
    (holds : property pool.shared) : property later.shared := by
  cases step with
  | spawn job => exact holds
  | perform _ performed => exact kept.perform holds performed
  | environment changed => exact kept.environment holds changed

theorem Kept.steps {property : S → Prop} (kept : machine.Kept property)
    (steps : machine.Steps pool later) (holds : property pool.shared) : property later.shared := by
  induction steps with
  | refl => exact holds
  | tail _ step ih => exact kept.step step ih

theorem Kept.reachable {property : S → Prop} (kept : machine.Kept property)
    (reachable : machine.Reachable initial pool) (holds : property initial) : property pool.shared :=
  kept.steps reachable holds

theorem step_task (step : machine.Step pool later) {position : Nat} {after : Task I R A}
    (selected : later.tasks[position]? = some after) :
    pool.tasks[position]? = some after ∨
    (pool.tasks[position]? = none ∧ after = ⟨after.job, [], machine.body after.job⟩) ∨
    ∃ history op next reply, pool.tasks[position]? = some ⟨after.job, history, .call op next⟩ ∧
      machine.perform position op pool.shared reply later.shared ∧
      after = ⟨after.job, history ++ [⟨op, reply⟩], next reply⟩ := by
  cases step with
  | spawn job =>
    rcases Nat.lt_or_ge position pool.tasks.length with old | fresh
    · left
      simpa [List.getElem?_append_left old] using selected
    · right; left
      rw [List.getElem?_append_right fresh] at selected
      have last : position - pool.tasks.length = 0 := by
        have bound := (List.getElem?_eq_some_iff.mp selected).1
        simp only [List.length_singleton] at bound
        omega
      rw [last] at selected
      simp only [List.getElem?_cons_zero, Option.some.injEq] at selected
      subst selected
      exact ⟨List.getElem?_eq_none fresh, rfl⟩
  | @perform acting job history op next reply shared found performed =>
    by_cases same : acting = position
    · subst same
      right; right
      have bound := (List.getElem?_eq_some_iff.mp found).1
      simp only [List.getElem?_set_self bound, Option.some.injEq] at selected
      subst selected
      exact ⟨history, op, next, reply, found, performed, rfl⟩
    · left
      simpa [List.getElem?_set_ne same] using selected
  | environment changed => exact .inl selected

/-- A property of single tasks that a fresh task has and that replies keep
holds of every task of a reachable pool. -/
theorem Reachable.task (property : Nat → Task I R A → Prop)
    (fresh : ∀ position job, property position ⟨job, [], machine.body job⟩)
    (replied : ∀ position job history op next reply,
      property position ⟨job, history, .call op next⟩ →
      property position ⟨job, history ++ [⟨op, reply⟩], next reply⟩)
    (reachable : machine.Reachable initial pool) {position : Nat} {task : Task I R A}
    (selected : pool.tasks[position]? = some task) : property position task := by
  induction reachable generalizing task with
  | refl => simp at selected
  | tail _ step ih =>
    rcases step_task step selected with
      old | ⟨_, same⟩ | ⟨history, op, next, reply, old, _, same⟩
    · exact ih old
    · rw [same]
      exact fresh position task.job
    · rw [same]
      exact replied position task.job history op next reply (ih old)

/-- Every task is its job's program after the replies of its own history. -/
theorem Reachable.reaches (reachable : machine.Reachable initial pool) {position : Nat}
    {task : Task I R A} (selected : pool.tasks[position]? = some task) :
    (machine.body task.job).Reaches task.history task.program :=
  reachable.task (fun _ task => (machine.body task.job).Reaches task.history task.program)
    (fun _ _ => .start _) (fun _ _ _ _ _ reply reached => reached.snoc reply) selected

/-- A relation between the shared state and the history of the task at a position
that replies to that task, replies to other tasks and the environment all keep. -/
structure Linked (machine : Machine I S R A) (link : S → Nat → List (Event I) → Prop) : Prop where
  own : ∀ {position job op next shared reply shared' history}, link shared position history →
    (machine.body job).Reaches history (.call op next) → machine.perform position op shared reply shared' →
    link shared' position (history ++ [⟨op, reply⟩])
  other : ∀ {position acting op shared reply shared' history}, acting ≠ position →
    link shared position history → machine.perform acting op shared reply shared' →
    link shared' position history
  environment : ∀ {position shared shared' history}, link shared position history →
    machine.environment shared shared' → link shared' position history

theorem Linked.step {link : S → Nat → List (Event I) → Prop} (linked : machine.Linked link)
    (reachable : machine.Reachable initial pool) (step : machine.Step pool later) (position : Nat)
    (holds : link pool.shared position (pool.historyAt position)) :
    link later.shared position (later.historyAt position) := by
  cases step with
  | spawn job =>
    have same : Pool.historyAt { pool with tasks := pool.tasks ++ [⟨job, [], machine.body job⟩] } position =
        pool.historyAt position := by
      unfold Pool.historyAt
      rcases Nat.lt_trichotomy position pool.tasks.length with old | fresh | beyond
      · rw [List.getElem?_append_left old]
      · simp [fresh]
      · rw [List.getElem?_eq_none (by simp; omega), List.getElem?_eq_none (by omega)]
    rw [same]
    exact holds
  | @perform acting job history op next reply shared found performed =>
    by_cases same : acting = position
    · subst same
      have bound := (List.getElem?_eq_some_iff.mp found).1
      have reached := reachable.reaches found
      simp only [Pool.historyAt, found, List.getElem?_set_self bound] at holds ⊢
      exact linked.own holds reached performed
    · simp only [Pool.historyAt, List.getElem?_set_ne same] at holds ⊢
      exact linked.other same holds performed
  | environment changed => exact linked.environment holds changed

theorem Linked.reachable {link : S → Nat → List (Event I) → Prop} (linked : machine.Linked link)
    (start : ∀ position, link initial position []) (reachable : machine.Reachable initial pool)
    (position : Nat) : link pool.shared position (pool.historyAt position) := by
  induction reachable with
  | refl => exact start position
  | tail before step ih => exact linked.step before step position ih

theorem historyAt_of_task {position : Nat} {task : Task I R A} (selected : pool.tasks[position]? = some task) :
    pool.historyAt position = task.history := by
  simp only [Pool.historyAt, selected]

theorem historyAt_of_fresh {position : Nat} (fresh : pool.tasks.length ≤ position) :
    pool.historyAt position = [] := by
  simp only [Pool.historyAt, List.getElem?_eq_none fresh]

theorem step_extends (step : machine.Step pool later) {position : Nat} {before : Task I R A}
    (selected : pool.tasks[position]? = some before) :
    ∃ after, later.tasks[position]? = some after ∧ after.job = before.job ∧
      ∃ new, after.history = before.history ++ new ∧ before.program.Reaches new after.program := by
  have bound := (List.getElem?_eq_some_iff.mp selected).1
  cases step with
  | spawn job =>
    exact ⟨before, by simpa [List.getElem?_append_left bound] using selected, rfl, [], by simp, .start _⟩
  | @perform acting job history op next reply shared found performed =>
    by_cases same : acting = position
    · subst same
      rw [found] at selected
      cases selected
      exact ⟨⟨job, history ++ [⟨op, reply⟩], next reply⟩, by simp [List.getElem?_set_self bound], rfl,
        [⟨op, reply⟩], rfl, .reply reply (.start _)⟩
    · exact ⟨before, by simpa [List.getElem?_set_ne same] using selected, rfl, [], by simp, .start _⟩
  | environment changed => exact ⟨before, selected, rfl, [], by simp, .start _⟩

theorem steps_extends (steps : machine.Steps pool later) {position : Nat} {before : Task I R A}
    (selected : pool.tasks[position]? = some before) :
    ∃ after, later.tasks[position]? = some after ∧ after.job = before.job ∧
      ∃ new, after.history = before.history ++ new ∧ before.program.Reaches new after.program := by
  induction steps with
  | refl => exact ⟨before, selected, rfl, [], by simp, .start _⟩
  | tail _ step ih =>
    obtain ⟨middle, found, job, new, history, reached⟩ := ih
    obtain ⟨after, found, job', more, history', reached'⟩ := step_extends step found
    exact ⟨after, found, job'.trans job, new ++ more, by rw [history', history, List.append_assoc],
      reached.trans reached'⟩

theorem steps_finished (steps : machine.Steps pool later) {position : Nat} {job : R}
    {history : List (Event I)} {value : A}
    (selected : pool.tasks[position]? = some ⟨job, history, .done value⟩) :
    later.tasks[position]? = some ⟨job, history, .done value⟩ := by
  obtain ⟨⟨job', history', program⟩, found, same, new, extended, reached⟩ :=
    steps_extends steps selected
  obtain ⟨rfl, rfl⟩ := Program.reaches_done.mp reached
  simp only [List.append_nil] at extended same
  subst extended same
  exact found

/-! ## Runs of one task -/

/-- The shared states on the way of one task through a history, and of the environment. -/
inductive Performed (machine : Machine I S R A) (position : Nat) : S → List (Event I) → S → Prop where
  | nothing (shared : S) : Performed machine position shared [] shared
  | reply {op : I.Op} {reply : I.Reply op} {shared middle final : S} {later : List (Event I)} :
      machine.perform position op shared reply middle →
      Performed machine position middle later final →
      Performed machine position shared (⟨op, reply⟩ :: later) final
  | environment {shared middle final : S} {history : List (Event I)} :
      machine.environment shared middle → Performed machine position middle history final →
      Performed machine position shared history final

theorem Performed.trans {position : Nat} {shared middle final : S} {first second : List (Event I)}
    (left : machine.Performed position shared first middle)
    (right : machine.Performed position middle second final) :
    machine.Performed position shared (first ++ second) final := by
  induction left with
  | nothing => exact right
  | reply performs _ ih => exact .reply performs (ih right)
  | environment changed _ ih => exact .environment changed (ih right)

/-- While the others rest, a task can follow any history that its replies allow. -/
theorem steps_performed {position : Nat} {job : R} {seen history : List (Event I)}
    {program rest : Program I A} {shared final : S} {tasks : List (Task I R A)}
    (performed : machine.Performed position shared history final) (reached : program.Reaches history rest)
    (selected : tasks[position]? = some ⟨job, seen, program⟩) :
    machine.Steps ⟨shared, tasks⟩ ⟨final, tasks.set position ⟨job, seen ++ history, rest⟩⟩ := by
  induction performed generalizing program seen tasks with
  | nothing shared =>
    cases reached
    have bound := (List.getElem?_eq_some_iff.mp selected).1
    have same : tasks.set position ⟨job, seen ++ [], rest⟩ = tasks := by
      rw [List.append_nil, ← (List.getElem?_eq_some_iff.mp selected).2]
      exact List.set_getElem_self bound
    rw [same]
  | @reply op reply shared middle final later performs _ ih =>
    cases reached with
    | @reply _ next _ _ _ onward =>
      have bound := (List.getElem?_eq_some_iff.mp selected).1
      have step : machine.Step ⟨shared, tasks⟩
          ⟨middle, tasks.set position ⟨job, seen ++ [⟨op, reply⟩], next reply⟩⟩ :=
        .perform selected performs
      have advanced : (tasks.set position ⟨job, seen ++ [⟨op, reply⟩], next reply⟩)[position]? =
          some ⟨job, seen ++ [⟨op, reply⟩], next reply⟩ := List.getElem?_set_self bound
      have finish := ih onward advanced
      rw [List.set_set, List.append_assoc, List.singleton_append] at finish
      exact Relation.ReflTransGen.head step finish
  | environment changed _ ih =>
    exact Relation.ReflTransGen.head (.environment changed) (ih reached selected)

theorem reachable_alone {job : R} {history : List (Event I)} {rest : Program I A} {final : S}
    (reached : (machine.body job).Reaches history rest)
    (performed : machine.Performed 0 initial history final) :
    machine.Reachable initial ⟨final, [⟨job, history, rest⟩]⟩ := by
  have spawned : machine.Step ⟨initial, []⟩ ⟨initial, [⟨job, [], machine.body job⟩]⟩ := .spawn _ job
  have fresh : ([⟨job, [], machine.body job⟩] : List (Task I R A))[0]? =
      some ⟨job, [], machine.body job⟩ := rfl
  exact Relation.ReflTransGen.head spawned (steps_performed performed reached fresh)

theorem Reachable.joined (reachable : machine.Reachable initial pool) {job : R} {history : List (Event I)}
    {rest : Program I A} {final : S} (reached : (machine.body job).Reaches history rest)
    (performed : machine.Performed pool.tasks.length pool.shared history final) :
    machine.Reachable initial ⟨final, pool.tasks ++ [⟨job, history, rest⟩]⟩ := by
  have fresh : (pool.tasks ++ [⟨job, [], machine.body job⟩])[pool.tasks.length]? =
      some ⟨job, [], machine.body job⟩ := by simp
  have steps := steps_performed performed reached fresh
  rw [List.set_append_right _ _ (Nat.le_refl _), Nat.sub_self] at steps
  exact reachable.steps (.head (.spawn pool job) steps)

end Machine

end TemplateServico.Interaction
