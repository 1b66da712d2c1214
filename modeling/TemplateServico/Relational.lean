import Mathlib.Data.List.Nodup
import Mathlib.Data.List.Infix

/-! Tables with unique and check constraints.

A table carries the proof that its rows satisfy the schema, so a row can only be
added by checking it against the constraints and the rows that are there.
-/

set_option autoImplicit false

namespace TemplateServico.Relational

/-- Unique constraints, each on one key of a row, and a condition on single rows. -/
structure Schema (α ι κ : Type) where
  constraints : List ι
  key : ι → α → κ
  check : α → Bool

variable {α ι κ : Type} {schema : Schema α ι κ}

structure Table (schema : Schema α ι κ) where
  rows : List α
  checked : ∀ row ∈ rows, schema.check row = true
  unique : ∀ constraint ∈ schema.constraints, (rows.map (schema.key constraint)).Nodup

inductive Violation (ι : Type) where
  | check
  | unique (constraint : ι)
  deriving DecidableEq, Repr

namespace Table

def empty (schema : Schema α ι κ) : Table schema := ⟨[], by simp, by simp⟩

@[simp] theorem rows_empty : (empty schema).rows = [] := rfl

section Insert

variable [DecidableEq κ]

/-- The first unique constraint that a new row would break. -/
def conflict? (table : Table schema) (row : α) : Option ι :=
  schema.constraints.find? fun constraint =>
    decide (schema.key constraint row ∈ table.rows.map (schema.key constraint))

theorem conflict?_eq_none {table : Table schema} {row : α} :
    table.conflict? row = none ↔
      ∀ constraint ∈ schema.constraints, schema.key constraint row ∉ table.rows.map (schema.key constraint) := by
  simp only [conflict?, List.find?_eq_none, decide_eq_true_eq]

def insert (table : Table schema) (row : α) : Except (Violation ι) (Table schema) :=
  if valid : schema.check row = true then
    match free : table.conflict? row with
    | some constraint => .error (.unique constraint)
    | none => .ok
      { rows := table.rows ++ [row]
        checked := by
          intro other member
          rcases List.mem_append.mp member with old | new
          · exact table.checked other old
          · rw [List.mem_singleton.mp new]
            exact valid
        unique := by
          intro constraint member
          rw [List.map_append, List.nodup_append_comm]
          exact List.nodup_cons.mpr ⟨conflict?_eq_none.mp free constraint member,
            table.unique constraint member⟩ }
  else .error .check

theorem insert_ok {table later : Table schema} {row : α} (inserted : table.insert row = .ok later) :
    later.rows = table.rows ++ [row] ∧ schema.check row = true ∧ table.conflict? row = none := by
  unfold insert at inserted
  split at inserted
  next valid =>
    split at inserted
    next => cases inserted
    next free =>
      cases inserted
      exact ⟨rfl, valid, free⟩
  next => cases inserted

theorem insert_of_free {table : Table schema} {row : α} (valid : schema.check row = true)
    (free : ∀ constraint ∈ schema.constraints, schema.key constraint row ∉ table.rows.map (schema.key constraint)) :
    ∃ later, table.insert row = .ok later := by
  unfold insert
  rw [dif_pos valid]
  split
  next constraint conflict =>
    rw [conflict?_eq_none.mpr free] at conflict
    cases conflict
  next => exact ⟨_, rfl⟩

end Insert

/-- Two rows that agree on a unique key are the same row. -/
theorem eq_of_key {table : Table schema} {constraint : ι} (member : constraint ∈ schema.constraints)
    {first second : α} (inFirst : first ∈ table.rows) (inSecond : second ∈ table.rows)
    (same : schema.key constraint first = schema.key constraint second) : first = second :=
  List.inj_on_of_nodup_map (table.unique constraint member) inFirst inSecond same

theorem nodup_rows (table : Table schema) {constraint : ι} (member : constraint ∈ schema.constraints) :
    table.rows.Nodup :=
  List.Nodup.of_map _ (table.unique constraint member)

theorem filter_key [DecidableEq κ] {table : Table schema} {constraint : ι}
    (member : constraint ∈ schema.constraints) {row : α} (present : row ∈ table.rows) :
    table.rows.filter (fun other => decide (schema.key constraint other = schema.key constraint row)) = [row] := by
  have single : ∀ other ∈ table.rows,
      decide (schema.key constraint other = schema.key constraint row) = true → other = row := by
    intro other inTable same
    exact eq_of_key member inTable present (of_decide_eq_true same)
  apply List.perm_singleton.mp
  apply (List.perm_ext_iff_of_nodup ((table.nodup_rows member).filter _) (List.nodup_singleton row)).mpr
  intro other
  rw [List.mem_filter, List.mem_singleton]
  constructor
  · intro ⟨inTable, same⟩
    exact single other inTable same
  · intro same
    rw [same]
    exact ⟨present, by simp⟩

end Table

end TemplateServico.Relational
