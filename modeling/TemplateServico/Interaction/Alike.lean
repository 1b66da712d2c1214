import TemplateServico.Interaction.Program

/-! Programs that look the same from outside.

Two programs are alike if they make the same requests for as long as the replies
are similar, and agree in the end. What similar replies have in common is all that
an observer of the results can learn of them.
-/

set_option autoImplicit false

namespace TemplateServico.Interaction

/-- For each request, which replies are not to be told apart. -/
abbrev Similarity (I : Interface) := (op : I.Op) → I.Reply op → I.Reply op → Prop

variable {I J : Interface} {A B C D : Type}

inductive SimilarEvent (similar : Similarity I) : Event I → Event I → Prop where
  | mk {op : I.Op} {reply reply' : I.Reply op} :
      similar op reply reply' → SimilarEvent similar ⟨op, reply⟩ ⟨op, reply'⟩

abbrev SimilarHistory (similar : Similarity I) : List (Event I) → List (Event I) → Prop :=
  List.Forall₂ (SimilarEvent similar)

inductive Alike (similar : Similarity I) (agree : A → B → Prop) : Program I A → Program I B → Prop where
  | done {first : A} {second : B} : agree first second → Alike similar agree (.done first) (.done second)
  | call (op : I.Op) {next : I.Reply op → Program I A} {next' : I.Reply op → Program I B} :
      (∀ reply reply', similar op reply reply' → Alike similar agree (next reply) (next' reply')) →
      Alike similar agree (.call op next) (.call op next')

namespace Alike

variable {similar : Similarity I} {agree : A → B → Prop} {wanted : C → D → Prop}

theorem mono {wider : A → B → Prop} {first : Program I A} {second : Program I B}
    (alike : Alike similar agree first second) (weaker : ∀ a b, agree a b → wider a b) :
    Alike similar wider first second := by
  induction alike with
  | done same => exact .done (weaker _ _ same)
  | call op _ ih => exact .call op ih

/-- Where similar replies are equal, a program is like itself. -/
theorem of_exact {allowed : I.Op → Prop} {program : Program I A}
    (exact : ∀ op reply reply', allowed op → similar op reply reply' → reply = reply')
    (performs : program.Performs allowed) : Alike similar Eq program program := by
  induction program with
  | done value => exact .done rfl
  | call op next ih =>
    refine .call op fun reply reply' same => ?_
    rw [exact op reply reply' performs.1 same]
    exact ih reply' (performs.2 reply')

theorem bind {first : Program I A} {second : Program I B} {f : A → Program I C} {g : B → Program I D}
    (alike : Alike similar agree first second)
    (next : ∀ a b, agree a b → Alike similar wanted (f a) (g b)) :
    Alike similar wanted (first >>= f) (second >>= g) := by
  induction alike with
  | done same => exact next _ _ same
  | call op _ ih => exact .call op ih

theorem map {first : Program I A} {second : Program I B} {f : A → C} {g : B → D}
    (alike : Alike similar agree first second) (image : ∀ a b, agree a b → wanted (f a) (g b)) :
    Alike similar wanted (first.map f) (second.map g) :=
  alike.bind fun a b same => .done (image a b same)

theorem inject {embedding : Embedding I J} {larger : Similarity J} {first : Program I A} {second : Program I B}
    (alike : Alike similar agree first second)
    (lowered : ∀ op reply reply', larger (embedding.op op) reply reply' →
      similar op (embedding.lower op reply) (embedding.lower op reply')) :
    Alike larger agree (first.inject embedding) (second.inject embedding) := by
  induction alike with
  | done same => exact .done same
  | call op _ ih => exact .call _ fun reply reply' same => ih _ _ (lowered op reply reply' same)

theorem deadline {ask : I.Op} {late : I.Reply ask → Bool} {waits : I.Op → Bool} {expired : A} {expired' : B}
    {first : Program I A} {second : Program I B} (alike : Alike similar agree first second)
    (seen : ∀ reply reply', similar ask reply reply' → late reply = late reply')
    (both : agree expired expired') :
    Alike similar agree (first.deadline ask late waits expired) (second.deadline ask late waits expired') := by
  induction alike with
  | done same => exact .done same
  | call op _ ih =>
    unfold Program.deadline
    cases waits op with
    | false => exact .call op ih
    | true =>
      refine .call ask fun reply reply' same => ?_
      rw [← seen reply reply' same]
      cases late reply with
      | true => exact .done both
      | false => exact .call op ih

/-- Similar histories lead programs that are alike to programs that are alike. -/
theorem reaches {first rest : Program I A} {second : Program I B} {history history' : List (Event I)}
    (alike : Alike similar agree first second) (same : SimilarHistory similar history history')
    (reached : first.Reaches history rest) :
    ∃ rest', second.Reaches history' rest' ∧ Alike similar agree rest rest' := by
  induction reached generalizing second history' with
  | start =>
    cases same
    exact ⟨second, .start _, alike⟩
  | reply reply _ ih =>
    cases same with
    | cons event later =>
      cases event with
      | mk replies =>
        cases alike with
        | call op next =>
          obtain ⟨rest', reached, ends⟩ := ih (next _ _ replies) later
          exact ⟨rest', .reply _ reached, ends⟩

theorem of_done {result : A} {second : Program I B} (alike : Alike similar agree (.done result) second) :
    ∃ result', second = .done result' ∧ agree result result' := by
  cases alike with
  | done same => exact ⟨_, rfl, same⟩

end Alike

end TemplateServico.Interaction
