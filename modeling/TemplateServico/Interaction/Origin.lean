import TemplateServico.Interaction.Pool

/-! Where the values in a shared state come from.

A program is justified if it makes each request only after events that call for it.
Values that tasks find in the shared state can then be followed back to the replies
that some task had.
-/

set_option autoImplicit false

namespace TemplateServico.Interaction

variable {I J : Interface} {S R A B V : Type}

/-- What has to have happened before a request. -/
abbrev Reason (I : Interface) := List (Event I) → I.Op → Prop

structure Reason.Stable (reason : Reason I) : Prop where
  grow : ∀ {past more : List (Event I)} {op : I.Op}, past ⊆ more → reason past op → reason more op

namespace Program

/-- Every request has its reason in the past or in the replies before it. -/
def Justified (reason : Reason I) : List (Event I) → Program I A → Prop
  | _, .done _ => True
  | past, .call op next => reason past op ∧ ∀ reply, (next reply).Justified reason (⟨op, reply⟩ :: past)

variable {reason : Reason I}

theorem Justified.mono {program : Program I A} {past more : List (Event I)} (stable : reason.Stable)
    (justified : program.Justified reason past) (grown : past ⊆ more) : program.Justified reason more := by
  induction program generalizing past more with
  | done value => trivial
  | call op next ih =>
    refine ⟨stable.grow grown justified.1, fun reply => ih reply (justified.2 reply) ?_⟩
    exact List.cons_subset_cons _ grown

theorem justified_bind {program : Program I A} {f : A → Program I B} {past : List (Event I)}
    (first : program.Justified reason past)
    (second : ∀ value more, past ⊆ more → (f value).Justified reason more) :
    (program >>= f).Justified reason past := by
  induction program generalizing past with
  | done value => exact second value past (List.Subset.refl _)
  | call op next ih =>
    refine ⟨first.1, fun reply => ih reply (first.2 reply) ?_⟩
    intro value more grown
    exact second value more (List.Subset.trans (List.subset_cons_self _ _) grown)

theorem justified_map {program : Program I A} {f : A → B} {past : List (Event I)}
    (justified : program.Justified reason past) : (program.map f).Justified reason past :=
  justified_bind justified fun _ _ _ => trivial

theorem justified_of_performs {allowed : I.Op → Prop} {program : Program I A} (performs : program.Performs allowed)
    (free : ∀ past op, allowed op → reason past op) (past : List (Event I)) : program.Justified reason past := by
  induction program generalizing past with
  | done value => trivial
  | call op next ih => exact ⟨free past op performs.1, fun reply => ih reply (performs.2 reply) _⟩

theorem justified_deadline {ask : I.Op} {late : I.Reply ask → Bool} {waits : I.Op → Bool} {expired : A}
    {program : Program I A} {past : List (Event I)} (stable : reason.Stable) (free : ∀ past, reason past ask)
    (justified : program.Justified reason past) :
    (program.deadline ask late waits expired).Justified reason past := by
  induction program generalizing past with
  | done value => trivial
  | call op next ih =>
    unfold deadline
    cases waits op with
    | false => exact ⟨justified.1, fun answer => ih answer (justified.2 answer)⟩
    | true =>
      refine ⟨free past, fun reply => ?_⟩
      dsimp only
      split
      · trivial
      · refine ⟨stable.grow (List.subset_cons_self _ _) justified.1, fun answer => ih answer ?_⟩
        exact (justified.2 answer).mono stable (List.cons_subset_cons _ (List.subset_cons_self _ _))

theorem Reaches.justified {program rest : Program I A} {past history : List (Event I)} (stable : reason.Stable)
    (reached : program.Reaches history rest) (justified : program.Justified reason past) :
    rest.Justified reason (past ++ history) := by
  induction reached generalizing past with
  | start => exact justified.mono stable (by simp)
  | @reply op next history rest reply _ ih =>
    apply (ih (justified.2 reply)).mono stable
    simp

theorem Reaches.split {program rest : Program I A} {before after : List (Event I)} {op : I.Op} {reply : I.Reply op}
    (reached : program.Reaches (before ++ ⟨op, reply⟩ :: after) rest) :
    ∃ next, program.Reaches before (.call op next) := by
  induction before generalizing program with
  | nil =>
    cases reached with
    | reply _ _ => exact ⟨_, .start _⟩
  | cons event before ih =>
    cases reached with
    | reply reply later =>
      obtain ⟨next, first⟩ := ih later
      exact ⟨next, .reply reply first⟩

theorem Reaches.after {program middle rest : Program I A} {first second : List (Event I)}
    (reached : program.Reaches (first ++ second) rest) (before : program.Reaches first middle) :
    middle.Reaches second rest := by
  induction before with
  | start => exact reached
  | reply reply _ ih =>
    cases reached with
    | reply _ later => exact ih later

theorem Reaches.calledFor {program : Program I A} {history : List (Event I)} {op : I.Op} {next : I.Reply op → Program I A}
    (stable : reason.Stable) (reached : program.Reaches history (.call op next))
    (justified : program.Justified reason []) : reason history op :=
  (reached.justified stable justified).1

theorem Reaches.calledFor_of_mem {program rest : Program I A} {history : List (Event I)} {event : Event I}
    (stable : reason.Stable) (reached : program.Reaches history rest) (justified : program.Justified reason [])
    (member : event ∈ history) : reason history event.1 := by
  obtain ⟨before, after, same⟩ := List.append_of_mem member
  rw [same] at reached
  obtain ⟨next, first⟩ := reached.split
  rw [same]
  exact stable.grow (List.subset_append_left _ _) (first.calledFor stable justified)

end Program

namespace Machine

variable {machine : Machine I S R A} {initial : S} {pool later : Pool I S R A}

def Seen (pool : Pool I S R A) (seen : Event I → Prop) : Prop :=
  ∃ (position : Nat) (task : Task I R A) (event : Event I),
    pool.tasks[position]? = some task ∧ event ∈ task.history ∧ seen event

theorem Seen.step {seen : Event I → Prop} (found : Seen pool seen) (step : machine.Step pool later) :
    Seen later seen := by
  obtain ⟨position, task, event, selected, member, holds⟩ := found
  obtain ⟨after, selected', _, new, extended, _⟩ := step_extends step selected
  refine ⟨position, after, event, selected', ?_, holds⟩
  rw [extended]
  exact List.mem_append_left _ member

/-- Values that the shared state knows, and values that a task learns from a reply,
are either known already or come from a source in the task's own history. -/
structure Sourced (machine : Machine I S R A) (known : S → V → Prop) (learned source : Event I → V → Prop) : Prop where
  perform : ∀ {position job history op next shared reply shared' value},
    (machine.body job).Reaches history (.call op next) → machine.perform position op shared reply shared' →
    known shared' value ∨ learned ⟨op, reply⟩ value →
    known shared value ∨ ∃ event ∈ history ++ [⟨op, reply⟩], source event value
  environment : ∀ {shared shared' value}, machine.environment shared shared' → known shared' value →
    known shared value

/-- Whatever is known or was learned has a source in the history of some task. -/
theorem Sourced.reachable {known : S → V → Prop} {learned source : Event I → V → Prop}
    (sourced : machine.Sourced known learned source) (nothing : ∀ value, ¬ known initial value)
    (reachable : machine.Reachable initial pool) {value : V}
    (holds : known pool.shared value ∨ Seen pool (learned · value)) : Seen pool (source · value) := by
  induction reachable with
  | refl =>
    rcases holds with known | ⟨position, task, event, selected, _⟩
    · exact absurd known (nothing value)
    · simp at selected
  | @tail before after reachable step ih =>
    -- One request was answered, and its reply or its effect gave the value.
    have performed {position : Nat} {job : R} {history : List (Event I)} {op : I.Op} {next : I.Reply op → Program I A}
        {reply : I.Reply op} (selected : before.tasks[position]? = some ⟨job, history, .call op next⟩)
        (advanced : ∃ task, after.tasks[position]? = some task ∧ task.history = history ++ [⟨op, reply⟩])
        (performs : machine.perform position op before.shared reply after.shared)
        (gained : known after.shared value ∨ learned ⟨op, reply⟩ value) : Seen after (source · value) := by
      rcases sourced.perform (Reachable.reaches reachable selected) performs gained with old | ⟨event, member, holds⟩
      · exact (ih (.inl old)).step step
      · obtain ⟨task, selected', extended⟩ := advanced
        exact ⟨position, task, event, selected', extended ▸ member, holds⟩
    rcases holds with holds | ⟨position, task, event, selected, member, holds⟩
    · cases step with
      | spawn job => exact (ih (.inl holds)).step (.spawn _ job)
      | @perform position job history op next reply shared found performs =>
        have bound := (List.getElem?_eq_some_iff.mp found).1
        exact performed found ⟨_, List.getElem?_set_self bound, rfl⟩ performs (.inl holds)
      | environment changed =>
        exact (ih (.inl (sourced.environment changed holds))).step (.environment changed)
    · rcases step_task step selected with
        old | ⟨_, same⟩ | ⟨history, op, next, reply, old, performs, same⟩
      · exact (ih (.inr ⟨position, task, event, old, member, holds⟩)).step step
      · rw [same] at member
        cases member
      · rw [same] at member
        rcases List.mem_append.mp member with earlier | last
        · exact (ih (.inr ⟨position, _, event, old, earlier, holds⟩)).step step
        · rw [List.mem_singleton.mp last] at holds
          exact performed old ⟨task, selected, by rw [same]⟩ performs (.inr holds)

theorem Linked.steps {link : S → Nat → List (Event I) → Prop} (linked : machine.Linked link)
    (reachable : machine.Reachable initial pool) (steps : machine.Steps pool later) (position : Nat)
    (holds : link pool.shared position (pool.historyAt position)) :
    link later.shared position (later.historyAt position) := by
  induction steps with
  | refl => exact holds
  | tail before step ih => exact linked.step (reachable.steps before) step position ih

end Machine

end TemplateServico.Interaction
