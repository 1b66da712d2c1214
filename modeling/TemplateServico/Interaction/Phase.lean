import TemplateServico.Interaction.Program

/-! Programs in two phases.

Until some event starts the second phase only certain requests are made, and what is
left of the program after that event has a known form.
-/

set_option autoImplicit false

namespace TemplateServico.Interaction.Program

variable {I : Interface} {A B : Type}

def Phased (allowed : I.Op → Prop) (starts : Event I → Prop) (form : Event I → Program I A → Prop) :
    Program I A → Prop
  | .done _ => True
  | .call op next => allowed op ∧ ∀ reply, (starts ⟨op, reply⟩ → form ⟨op, reply⟩ (next reply)) ∧
      (¬ starts ⟨op, reply⟩ → (next reply).Phased allowed starts form)

variable {allowed : I.Op → Prop} {starts : Event I → Prop} {form : Event I → Program I A → Prop}
  {form' : Event I → Program I B → Prop}

/-- The second phase is in the second part. -/
theorem phased_bind {program : Program I A} {f : A → Program I B}
    (performs : program.Performs fun op => allowed op ∧ ∀ reply, ¬ starts ⟨op, reply⟩)
    (second : ∀ value, (f value).Phased allowed starts form') : (program >>= f).Phased allowed starts form' := by
  induction program with
  | done value => exact second value
  | call op next ih =>
    obtain ⟨⟨first, never⟩, later⟩ := performs
    exact ⟨first, fun reply => ⟨fun started => absurd started (never reply), fun _ => ih reply (later reply)⟩⟩

theorem phased_map {f : A → B} {program : Program I A} (phased : program.Phased allowed starts form)
    (image : ∀ event program, form event program → form' event (program.map f)) :
    (program.map f).Phased allowed starts form' := by
  induction program with
  | done value => trivial
  | call op next ih =>
    refine ⟨phased.1, fun reply => ?_⟩
    obtain ⟨here, later⟩ := phased.2 reply
    exact ⟨fun started => image _ _ (here started), fun other => ih reply (later other)⟩

theorem phased_deadline {ask : I.Op} {late : I.Reply ask → Bool} {waits : I.Op → Bool} {expired : A}
    {timed : Event I → Program I A → Prop} {program : Program I A} (phased : program.Phased allowed starts form)
    (free : allowed ask) (never : ∀ reply, ¬ starts ⟨ask, reply⟩)
    (image : ∀ event program, form event program → timed event (program.deadline ask late waits expired)) :
    (program.deadline ask late waits expired).Phased allowed starts timed := by
  induction program with
  | done value => trivial
  | call op next ih =>
    have answered : (call op fun answer => (next answer).deadline ask late waits expired).Phased
        allowed starts timed := by
      refine ⟨phased.1, fun answer => ?_⟩
      obtain ⟨here, later⟩ := phased.2 answer
      exact ⟨fun started => image _ _ (here started), fun other => ih answer (later other)⟩
    unfold deadline
    cases waits op with
    | false => exact answered
    | true =>
      refine ⟨free, fun reply => ⟨fun started => absurd started (never reply), fun _ => ?_⟩⟩
      dsimp only
      split
      · trivial
      · exact answered

/-- A run is in its first phase, or some event divides it. -/
theorem Reaches.phased {program rest : Program I A} {history : List (Event I)} (reached : program.Reaches history rest)
    (phased : program.Phased allowed starts form) :
    (rest.Phased allowed starts form ∧ ∀ event ∈ history, allowed event.1 ∧ ¬ starts event) ∨
    ∃ before event after middle, history = before ++ event :: after ∧
      (∀ event ∈ before, allowed event.1 ∧ ¬ starts event) ∧ starts event ∧ form event middle ∧
      middle.Reaches after rest := by
  induction reached with
  | start => exact .inl ⟨phased, by simp⟩
  | @reply op next history rest reply reached ih =>
    obtain ⟨first, later⟩ := phased
    obtain ⟨here, onward⟩ := later reply
    by_cases started : starts ⟨op, reply⟩
    · exact .inr ⟨[], ⟨op, reply⟩, history, next reply, rfl, by simp, started, here started, reached⟩
    · rcases ih (onward started) with ⟨remaining, quiet⟩ | ⟨before, event, after, middle, split, quiet, divided⟩
      · exact .inl ⟨remaining, List.forall_mem_cons.mpr ⟨⟨first, started⟩, quiet⟩⟩
      · right
        refine ⟨⟨op, reply⟩ :: before, event, after, middle, by rw [split, List.cons_append], ?_, divided⟩
        exact List.forall_mem_cons.mpr ⟨⟨first, started⟩, quiet⟩

end TemplateServico.Interaction.Program
