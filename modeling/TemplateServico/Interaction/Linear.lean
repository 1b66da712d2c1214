import TemplateServico.Interaction.Pool
import Mathlib.Data.List.Nodup
import Mathlib.Data.Nat.Init
import Mathlib.Logic.Function.Basic

/-! Tasks that act on one object of the shared state, each of them at most once.

In every run the object is where their acts lead one after the other, and the order
of the acts is one that real time allows.
-/

set_option autoImplicit false

namespace TemplateServico.Interaction

variable {I : Interface} {S R A σ O : Type}

inductive Replays (legal : O → σ → σ → Prop) (start : σ) : List O → σ → Prop where
  | nil : Replays legal start [] start
  | snoc {ops : List O} {op : O} {middle final : σ} : Replays legal start ops middle →
      legal op middle final → Replays legal start (ops ++ [op]) final

/-- An object in the shared state, and the operation on it that each position has
carried out, if it has carried out any. -/
structure Shown (S σ O : Type) where
  object : S → σ
  act? : S → Nat → Option O

variable {shown : Shown S σ O} {legal : O → σ → σ → Prop} {shared shared' : S}

inductive Acts (shown : Shown S σ O) (legal : O → σ → σ → Prop) (shared shared' : S) : Prop where
  | rests : shown.object shared' = shown.object shared →
      (∀ position, shown.act? shared' position = shown.act? shared position) → Acts shown legal shared shared'
  | acts {position : Nat} {op : O} : shown.act? shared position = none →
      shown.act? shared' = Function.update (shown.act? shared) position (some op) →
      legal op (shown.object shared) (shown.object shared') → Acts shown legal shared shared'

/-- The acts in an order that explains the object. -/
structure Records (shown : Shown S σ O) (legal : O → σ → σ → Prop) (start : σ) (shared : S)
    (log : List (Nat × O)) : Prop where
  replays : Replays legal start (log.map Prod.snd) (shown.object shared)
  positions : (log.map Prod.fst).Nodup
  entries : ∀ position op, (position, op) ∈ log ↔ shown.act? shared position = some op

variable {start : σ} {log : List (Nat × O)}

theorem Records.next (records : Records shown legal start shared log) (acts : Acts shown legal shared shared') :
    ∃ new, Records shown legal start shared' (log ++ new) := by
  cases acts with
  | rests object same =>
    refine ⟨[], ?_⟩
    rw [List.append_nil]
    refine ⟨object ▸ records.replays, records.positions, fun position op => ?_⟩
    rw [same, records.entries]
  | @acts acting op pending acted allowed =>
    -- Who acts now has no entry yet.
    have absent (other : O) : (acting, other) ∉ log := by
      rw [records.entries, pending]
      nofun
    refine ⟨[(acting, op)], ?_, ?_, ?_⟩
    · rw [List.map_append]
      exact .snoc records.replays allowed
    · rw [List.map_append, List.nodup_append_comm]
      refine List.nodup_cons.mpr ⟨fun member => ?_, records.positions⟩
      obtain ⟨⟨_, other⟩, inLog, same⟩ := List.mem_map.mp member
      cases same
      exact absent other inLog
    · intro position other
      rw [List.mem_append, List.mem_singleton, acted]
      by_cases same : position = acting
      · rw [same, Function.update_self, Prod.mk.injEq, Option.some.injEq]
        simp only [absent, true_and, false_or]
        exact eq_comm
      · rw [Function.update_of_ne same, ← records.entries, Prod.mk.injEq]
        simp only [same, false_and, or_false]

theorem Records.precedes {later : List (Nat × O)} {first second : Nat × O} (grown : log <+: later)
    (early : first ∈ log) (late : second ∈ later) (fresh : second ∉ log) : [first, second].Sublist later := by
  obtain ⟨new, split⟩ := grown
  rw [← split, List.mem_append] at late
  rw [← split]
  exact (List.singleton_sublist.mpr early).append (List.singleton_sublist.mpr (late.resolve_left fresh))

namespace Machine

variable {machine : Machine I S R A} {initial : S} {pool later : Pool I S R A}

structure Atomic (machine : Machine I S R A) (shown : Shown S σ O) (legal : O → σ → σ → Prop) : Prop where
  perform : ∀ {position op shared reply shared'}, machine.perform position op shared reply shared' →
    Acts shown legal shared shared'
  environment : ∀ {shared shared'}, machine.environment shared shared' → Acts shown legal shared shared'

theorem Atomic.step (atomic : machine.Atomic shown legal) (step : machine.Step pool later)
    (records : Records shown legal start pool.shared log) :
    ∃ new, Records shown legal start later.shared (log ++ new) := by
  cases step with
  | spawn job => exact ⟨[], by rw [List.append_nil]; exact records⟩
  | perform _ performed => exact records.next (atomic.perform performed)
  | environment changed => exact records.next (atomic.environment changed)

/-! ## Runs -/

/-- A run from its start, moment by moment. It may rest, so that it may also end. -/
structure Run (machine : Machine I S R A) (initial : S) where
  pool : Nat → Pool I S R A
  starts : pool 0 = ⟨initial, []⟩
  next : ∀ moment, Relation.ReflGen machine.Step (pool moment) (pool (moment + 1))

namespace Run

variable (run : machine.Run initial)

theorem steps {early late : Nat} (ordered : early ≤ late) : machine.Steps (run.pool early) (run.pool late) := by
  induction late, ordered using Nat.le_induction with
  | base => exact .refl
  | succ moment _ ih => exact ih.trans (run.next moment).to_reflTransGen

theorem reachable (moment : Nat) : machine.Reachable initial (run.pool moment) := by
  have steps := run.steps (Nat.zero_le moment)
  rw [run.starts] at steps
  exact steps

/-- There is one log for the whole run, which grows as the run goes on. -/
theorem recorded (atomic : machine.Atomic shown legal) (idle : ∀ position, shown.act? initial position = none) :
    ∃ logs : Nat → List (Nat × O),
      (∀ moment, Records shown legal (shown.object initial) (run.pool moment).shared (logs moment)) ∧
      ∀ early late, early ≤ late → logs early <+: logs late := by
  have atStart : Records shown legal (shown.object initial) (run.pool 0).shared [] := by
    rw [run.starts]
    refine ⟨.nil, List.nodup_nil, fun position op => ?_⟩
    rw [idle position]
    exact iff_of_false List.not_mem_nil nofun
  have continues (moment : Nat) (log : List (Nat × O))
      (records : Records shown legal (shown.object initial) (run.pool moment).shared log) :
      ∃ new, Records shown legal (shown.object initial) (run.pool (moment + 1)).shared (log ++ new) := by
    rcases (Relation.reflGen_iff _ _ _).mp (run.next moment) with rests | step
    · exact ⟨[], by rw [List.append_nil, rests]; exact records⟩
    · exact atomic.step step records
  choose! new recorded using continues
  -- The log of each moment is that of the moment before with what is new.
  let logs (moment : Nat) : List (Nat × O) := moment.rec [] fun moment log => log ++ new moment log
  have always (moment : Nat) :
      Records shown legal (shown.object initial) (run.pool moment).shared (logs moment) := by
    induction moment with
    | zero => exact atStart
    | succ moment ih => exact recorded moment (logs moment) ih
  refine ⟨logs, always, fun early late ordered => ?_⟩
  induction late, ordered using Nat.le_induction with
  | base => exact List.prefix_refl _
  | succ moment _ ih => exact ih.trans (List.prefix_append _ _)

end Run

theorem Reachable.run (reachable : machine.Reachable initial pool) :
    ∃ (run : machine.Run initial) (moment : Nat), run.pool moment = pool := by
  induction reachable with
  | refl => exact ⟨⟨fun _ => ⟨initial, []⟩, rfl, fun _ => .refl⟩, 0, rfl⟩
  | @tail middle final _ step ih =>
    obtain ⟨run, moment, reached⟩ := ih
    refine ⟨⟨fun time => if time ≤ moment then run.pool time else final, ?_, fun time => ?_⟩, moment + 1, ?_⟩
    · simp only [Nat.zero_le, if_true, run.starts]
    · rcases Nat.lt_trichotomy time moment with before | now | after
      · rw [if_pos (Nat.le_of_lt before), if_pos (show time + 1 ≤ moment from before)]
        exact run.next time
      · rw [if_pos (Nat.le_of_eq now), if_neg (by omega), now, reached]
        exact .single step
      · rw [if_neg (by omega), if_neg (by omega)]
    · exact if_neg (by omega)

end Machine

end TemplateServico.Interaction
