import TemplateServico.Interaction.Pool
import Mathlib.Logic.Hydra

/-! Runs that have to come to an end.

Every reply leaves less of a finite program. So while no job is added, only the
environment could keep a machine going, and if it comes to rest then so does the
machine: with every task at its end, if a pending request can always be served.
-/

set_option autoImplicit false

namespace TemplateServico.Interaction

/-- However the steps go, they lead to the goal. -/
inductive Inevitable {S : Type} (step : S → S → Prop) (goal : S → Prop) : S → Prop where
  | now {state : S} : goal state → Inevitable step goal state
  | later {state next : S} : step state next → (∀ next, step state next → Inevitable step goal next) →
      Inevitable step goal state

namespace Inevitable

variable {S : Type} {step : S → S → Prop} {goal wanted : S → Prop} {state : S}

theorem trans (first : Inevitable step goal state) (second : ∀ state, goal state → Inevitable step wanted state) :
    Inevitable step wanted state := by
  induction first with
  | now reached => exact second _ reached
  | later possible _ ih => exact .later possible ih

theorem mono (inevitable : Inevitable step goal state) (weaker : ∀ state, goal state → wanted state) :
    Inevitable step wanted state :=
  inevitable.trans fun state reached => .now (weaker state reached)

theorem reaches (inevitable : Inevitable step goal state) :
    ∃ final, Relation.ReflTransGen step state final ∧ goal final := by
  induction inevitable with
  | now reached => exact ⟨_, .refl, reached⟩
  | later possible _ ih =>
    obtain ⟨final, steps, reached⟩ := ih _ possible
    exact ⟨final, .head possible steps, reached⟩

/-- Steps that cannot go on for ever, and that stop at the goal only. -/
theorem of_acc {property : S → Prop} (acc : Acc (fun next state => step state next) state)
    (kept : ∀ state next, property state → step state next → property next)
    (progress : ∀ state, property state → ¬ goal state → ∃ next, step state next) (holds : property state) :
    Inevitable step goal state := by
  induction acc with
  | intro state _ ih =>
    by_cases reached : goal state
    · exact .now reached
    · obtain ⟨next, possible⟩ := progress state holds reached
      exact .later possible fun next taken => ih next taken (kept state next holds taken)

end Inevitable

variable {I : Interface} {S R A : Type}

namespace Program

inductive Child : Program I A → Program I A → Prop where
  | reply {op : I.Op} {next : I.Reply op → Program I A} (reply : I.Reply op) : Child (next reply) (.call op next)

theorem child_wellFounded : WellFounded (Child (I := I) (A := A)) := by
  constructor
  intro program
  induction program with
  | done value =>
    constructor
    intro child smaller
    cases smaller
  | call op next ih =>
    constructor
    intro child smaller
    cases smaller with
    | reply reply => exact ih reply

end Program

def Task.Finished (task : Task I R A) : Prop := ∃ value, task.program = .done value

def Pool.Finished (pool : Pool I S R A) : Prop := ∀ task ∈ pool.tasks, task.Finished

namespace Machine

variable {machine : Machine I S R A} {pool later : Pool I S R A}

/-- A step on what is there already. -/
def Works (machine : Machine I S R A) (pool later : Pool I S R A) : Prop :=
  machine.Step pool later ∧ later.tasks.length = pool.tasks.length

theorem Works.perform {position : Nat} {job : R} {history : List (Event I)} {op : I.Op}
    {next : I.Reply op → Program I A} {reply : I.Reply op} {shared : S}
    (selected : pool.tasks[position]? = some ⟨job, history, .call op next⟩)
    (performed : machine.perform position op pool.shared reply shared) :
    machine.Works pool ⟨shared, pool.tasks.set position ⟨job, history ++ [⟨op, reply⟩], next reply⟩⟩ :=
  ⟨.perform selected performed, List.length_set⟩

theorem Works.environment {shared : S} (changed : machine.environment pool.shared shared) :
    machine.Works pool { pool with shared := shared } :=
  ⟨.environment changed, rfl⟩

theorem length_le_of_step (step : machine.Step pool later) : pool.tasks.length ≤ later.tasks.length := by
  cases step with
  | spawn job => simp
  | perform selected performed => simp
  | environment changed => exact le_rfl

theorem works_of_steps (steps : machine.Steps pool later) (same : later.tasks.length = pool.tasks.length) :
    Relation.ReflTransGen machine.Works pool later := by
  have grows {later : Pool I S R A} (steps : machine.Steps pool later) : pool.tasks.length ≤ later.tasks.length := by
    induction steps with
    | refl => exact le_rfl
    | tail _ step ih => exact ih.trans (length_le_of_step step)
  induction steps with
  | refl => exact .refl
  | tail before step ih =>
    have first := grows before
    have second := length_le_of_step step
    exact (ih (by omega)).tail ⟨step, by omega⟩

theorem Works.of_finished (works : machine.Works pool later) (finished : pool.Finished) :
    later.tasks = pool.tasks ∧ machine.environment pool.shared later.shared := by
  obtain ⟨step, same⟩ := works
  cases step with
  | spawn job => simp at same
  | perform selected performed =>
    obtain ⟨value, ended⟩ := finished _ (List.mem_of_getElem? selected)
    cases ended
  | environment changed => exact ⟨rfl, changed⟩

def remaining (tasks : List (Task I R A)) : Multiset (Program I A) := tasks.map Task.program

theorem remaining_set {tasks : List (Task I R A)} {position : Nat} {before after : Task I R A}
    (selected : tasks[position]? = some before) (smaller : Program.Child after.program before.program) :
    Relation.CutExpand Program.Child (remaining (tasks.set position after)) (remaining tasks) := by
  obtain ⟨bound, same⟩ := List.getElem?_eq_some_iff.mp selected
  have new := List.set_perm_cons_eraseIdx bound after
  have old := List.getElem_cons_eraseIdx_perm bound
  rw [same] at old
  unfold remaining
  rw [Multiset.coe_eq_coe.mpr (new.map Task.program), ← Multiset.coe_eq_coe.mpr (old.map Task.program)]
  simp only [List.map_cons, ← Multiset.cons_coe, ← Multiset.singleton_add]
  exact Relation.cutExpand_single_add smaller _

theorem Works.cases (works : machine.Works pool later) :
    Relation.CutExpand Program.Child (remaining later.tasks) (remaining pool.tasks) ∨
    (later.tasks = pool.tasks ∧ machine.environment pool.shared later.shared) := by
  obtain ⟨step, same⟩ := works
  cases step with
  | spawn job => simp at same
  | perform selected performed => exact .inl (remaining_set selected (.reply _))
  | environment changed => exact .inr ⟨rfl, changed⟩

/-- If the environment comes to rest, then work does. -/
theorem works_acc (property : Pool I S R A → Prop) (rank : Pool I S R A → Nat)
    (kept : ∀ pool later, property pool → machine.Works pool later → property later)
    (rests : ∀ pool shared, property pool → machine.environment pool.shared shared →
      rank { pool with shared := shared } < rank pool)
    (holds : property pool) : Acc (fun later pool => machine.Works pool later) pool := by
  have ordered := (Program.child_wellFounded (I := I) (A := A)).cutExpand.prod_lex Nat.lt_wfRel.wf
  generalize size : (remaining pool.tasks, rank pool) = measure
  induction measure using ordered.induction generalizing pool with
  | _ measure ih =>
    constructor
    intro later works
    refine ih _ ?_ (kept pool later holds works) rfl
    rw [← size]
    rcases works.cases with fewer | ⟨same, changed⟩
    · exact .left _ _ fewer
    · rw [same]
      refine .right _ ?_
      have smaller := rests pool later.shared holds changed
      rwa [← same] at smaller

/-- What is there already comes to its end, whatever the order of the steps. -/
theorem works_finish (property : Pool I S R A → Prop) (acc : Acc (fun later pool => machine.Works pool later) pool)
    (kept : ∀ pool later, property pool → machine.Works pool later → property later)
    (progress : ∀ pool, property pool → ∀ task ∈ pool.tasks, ¬ task.Finished → ∃ later, machine.Works pool later)
    (holds : property pool) : Inevitable machine.Works Pool.Finished pool := by
  apply Inevitable.of_acc acc kept _ holds
  intro pool holds unfinished
  simp only [Pool.Finished, not_forall] at unfinished
  obtain ⟨task, member, pending⟩ := unfinished
  exact progress pool holds task member pending

end Machine

end TemplateServico.Interaction
