import Mathlib.Data.List.Nodup
import Mathlib.Data.List.Perm.Basic

/-! Sequences of writes of which only the last one of each kind counts. -/

set_option autoImplicit false

namespace TemplateServico.Overwrite

variable {σ ω κ : Type} {apply : σ → ω → σ} {kind : ω → κ}

/-- Of two writes of one kind the second counts, and writes of different kinds do
not see each other. -/
structure Law (apply : σ → ω → σ) (kind : ω → κ) : Prop where
  overwrite : ∀ s first second, kind first = kind second → apply (apply s first) second = apply s second
  commute : ∀ s first second, kind first ≠ kind second →
    apply (apply s first) second = apply (apply s second) first

theorem Law.absorb (law : Law apply kind) {write : ω} {later : List ω} (again : kind write ∈ later.map kind) (s : σ) :
    later.foldl apply (apply s write) = later.foldl apply s := by
  induction later generalizing s with
  | nil => cases again
  | cons next rest ih =>
    rw [List.foldl_cons, List.foldl_cons]
    by_cases same : kind write = kind next
    · rw [law.overwrite s write next same]
    · rw [law.commute s write next same]
      exact ih ((List.mem_cons.mp again).resolve_left same) _

section Lasts

variable [DecidableEq κ]

/-- Drop every write after which there is another one of its kind. -/
def lasts (kind : ω → κ) : List ω → List ω
  | [] => []
  | write :: rest => if kind write ∈ rest.map kind then lasts kind rest else write :: lasts kind rest

theorem lasts_sublist (writes : List ω) : (lasts kind writes).Sublist writes := by
  induction writes with
  | nil => exact .slnil
  | cons write rest ih =>
    unfold lasts
    split
    · exact ih.cons write
    · exact ih.cons_cons write

theorem nodup_lasts (writes : List ω) : ((lasts kind writes).map kind).Nodup := by
  induction writes with
  | nil => exact List.nodup_nil
  | cons write rest ih =>
    unfold lasts
    split
    next => exact ih
    next final =>
      rw [List.map_cons, List.nodup_cons]
      refine ⟨fun again => final ?_, ih⟩
      exact ((lasts_sublist rest).map kind).subset again

theorem Law.foldl_lasts (law : Law apply kind) (writes : List ω) (s : σ) :
    (lasts kind writes).foldl apply s = writes.foldl apply s := by
  induction writes generalizing s with
  | nil => rfl
  | cons write rest ih =>
    unfold lasts
    split
    next again => rw [ih, List.foldl_cons, law.absorb again]
    next => rw [List.foldl_cons, List.foldl_cons, ih]

theorem Law.foldl_perm (law : Law apply kind) {writes kept : List ω} (perm : kept.Perm (lasts kind writes)) (s : σ) :
    kept.foldl apply s = writes.foldl apply s := by
  rw [← law.foldl_lasts writes]
  apply perm.foldl_eq'
  intro first inFirst second inSecond z
  by_cases same : kind first = kind second
  · have distinct : (kept.map kind).Nodup := (perm.map kind).nodup_iff.mpr (nodup_lasts writes)
    rw [List.inj_on_of_nodup_map distinct inFirst inSecond same]
  · exact law.commute z first second same

end Lasts

end TemplateServico.Overwrite
