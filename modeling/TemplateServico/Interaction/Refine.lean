import TemplateServico.Interaction.Pool

/-! Machines that say more about the shared state than others. -/

set_option autoImplicit false

namespace TemplateServico.Interaction

variable {I : Interface} {S T R A : Type}

/-- The same tasks over a part of the shared state. -/
def Pool.view (view : T → S) (pool : Pool I T R A) : Pool I S R A := ⟨view pool.shared, pool.tasks⟩

namespace Machine

/-- Whatever the first machine does is something that the second one may do, seen
through the view. The environment of the first may do more that is not seen at all. -/
structure Refines (concrete : Machine I T R A) (abstract : Machine I S R A) (view : T → S) : Prop where
  body : concrete.body = abstract.body
  perform : ∀ {position op shared reply shared'}, concrete.perform position op shared reply shared' →
    abstract.perform position op (view shared) reply (view shared')
  environment : ∀ {shared shared'}, concrete.environment shared shared' →
    abstract.environment (view shared) (view shared') ∨ view shared' = view shared

variable {concrete : Machine I T R A} {abstract : Machine I S R A} {view : T → S} {initial : T}
  {pool later : Pool I T R A}

theorem Refines.step (refines : concrete.Refines abstract view) (step : concrete.Step pool later) :
    abstract.Steps (pool.view view) (later.view view) := by
  cases step with
  | spawn job =>
    rw [refines.body]
    exact .single (.spawn (pool.view view) job)
  | @perform position job history op next reply shared found performed =>
    have selected : (pool.view view).tasks[position]? = some ⟨job, history, .call op next⟩ := found
    exact .single (.perform selected (refines.perform performed))
  | @environment shared changed =>
    rcases refines.environment changed with seen | same
    · have allowed : abstract.environment (pool.view view).shared (view shared) := seen
      exact .single (.environment allowed)
    · unfold Pool.view
      rw [same]

theorem Refines.steps (refines : concrete.Refines abstract view) (steps : concrete.Steps pool later) :
    abstract.Steps (pool.view view) (later.view view) := by
  induction steps with
  | refl => exact .refl
  | tail _ step ih => exact ih.trans (refines.step step)

theorem Refines.reachable (refines : concrete.Refines abstract view) (reachable : concrete.Reachable initial pool) :
    abstract.Reachable (view initial) (pool.view view) :=
  refines.steps reachable

end Machine

end TemplateServico.Interaction
