import Mathlib.Data.List.Nodup
import Mathlib.Data.List.Perm.Basic

/-! Finite maps from names to values, read by a name or by a key that several names
may stand for. -/

set_option autoImplicit false

namespace TemplateServico

structure Bindings (ν α : Type) where
  entries : List (ν × α)
  distinct : (entries.map Prod.fst).Nodup

namespace Bindings

variable {ν α κ : Type}

theorem nodup_entries (bindings : Bindings ν α) : bindings.entries.Nodup :=
  List.Nodup.of_map _ bindings.distinct

section Get

variable [DecidableEq ν] {bindings : Bindings ν α} {name : ν} {value : α}

def get (bindings : Bindings ν α) (name : ν) : Option α :=
  (bindings.entries.find? fun entry => decide (entry.1 = name)).map Prod.snd

theorem get_eq_some : bindings.get name = some value ↔ (name, value) ∈ bindings.entries := by
  unfold get
  rw [Option.map_eq_some_iff]
  constructor
  · intro ⟨entry, found, same⟩
    have named : entry.1 = name := by simpa using List.find?_some found
    have member := List.mem_of_find?_eq_some found
    rwa [show entry = (name, value) from Prod.ext named same] at member
  · intro member
    cases found : bindings.entries.find? fun entry => decide (entry.1 = name) with
    | none => simpa using List.find?_eq_none.mp found _ member
    | some entry =>
      have named : entry.1 = name := by simpa using List.find?_some found
      have same := List.inj_on_of_nodup_map bindings.distinct (List.mem_of_find?_eq_some found) member named
      exact ⟨entry, rfl, congrArg Prod.snd same⟩

/-- Maps that differ in one name at most. -/
def AgreeExcept (changed : ν) (first second : Bindings ν α) : Prop :=
  ∀ name, name ≠ changed → first.get name = second.get name

theorem AgreeExcept.symm {changed : ν} {first second : Bindings ν α} (agree : AgreeExcept changed first second) :
    AgreeExcept changed second first :=
  fun name other => (agree name other).symm

/-- One more name. -/
def add (bindings : Bindings ν α) (name : ν) (value : α) (fresh : name ∉ bindings.entries.map Prod.fst) :
    Bindings ν α where
  entries := (name, value) :: bindings.entries
  distinct := List.nodup_cons.mpr ⟨fresh, bindings.distinct⟩

theorem agreeExcept_add (fresh : name ∉ bindings.entries.map Prod.fst) :
    AgreeExcept name bindings (bindings.add name value fresh) := by
  intro other different
  unfold get add
  rw [List.find?_cons_of_neg]
  simpa using different.symm

/-- At most one name is spelled as the key. -/
def Single (spell : ν → κ) (bindings : Bindings ν α) (key : κ) : Prop :=
  ∀ name other value value', spell name = key → spell other = key →
    bindings.get name = some value → bindings.get other = some value' → name = other

theorem single_congr {spell : ν → κ} {first second : Bindings ν α} {key : κ}
    (agree : ∀ name, spell name = key → first.get name = second.get name) :
    Single spell first key ↔ Single spell second key := by
  unfold Single
  constructor
  · intro single name other value value' spelled spelled'
    rw [← agree name spelled, ← agree other spelled']
    exact single name other value value' spelled spelled'
  · intro single name other value value' spelled spelled'
    rw [agree name spelled, agree other spelled']
    exact single name other value value' spelled spelled'

end Get

section Field

variable [DecidableEq ν] [DecidableEq κ] (spell : ν → κ)

/-- The value under a key. Two names for it are an error. -/
def field (bindings : Bindings ν α) (key : κ) : Option (Option α) :=
  match bindings.entries.filter (fun entry => decide (spell entry.1 = key)) with
  | [] => some none
  | [entry] => some (some entry.2)
  | _ => none

variable {spell} {bindings : Bindings ν α} {key : κ}

theorem mem_filter_spell {entry : ν × α} :
    entry ∈ bindings.entries.filter (fun entry => decide (spell entry.1 = key)) ↔
      bindings.get entry.1 = some entry.2 ∧ spell entry.1 = key := by
  rw [List.mem_filter, decide_eq_true_eq, get_eq_some]

theorem field_absent (absent : ∀ name, spell name = key → bindings.get name = none) :
    bindings.field spell key = some none := by
  have empty : bindings.entries.filter (fun entry => decide (spell entry.1 = key)) = [] := by
    rw [List.eq_nil_iff_forall_not_mem]
    intro entry member
    obtain ⟨found, spelled⟩ := mem_filter_spell.mp member
    rw [absent entry.1 spelled] at found
    cases found
  unfold field
  rw [empty]

theorem field_present {name : ν} {value : α} (single : Single spell bindings key) (spelled : spell name = key)
    (found : bindings.get name = some value) : bindings.field spell key = some (some value) := by
  have alone : bindings.entries.filter (fun entry => decide (spell entry.1 = key)) = [(name, value)] := by
    apply List.perm_singleton.mp
    apply (List.perm_ext_iff_of_nodup (bindings.nodup_entries.filter _) (List.nodup_singleton _)).mpr
    intro entry
    rw [mem_filter_spell, List.mem_singleton]
    constructor
    · intro ⟨other, spelled'⟩
      have same := single entry.1 name entry.2 value spelled' spelled other found
      rw [same, found, Option.some.injEq] at other
      exact Prod.ext same other.symm
    · intro same
      rw [same]
      exact ⟨found, spelled⟩
  unfold field
  rw [alone]

/-- A key is read through the one name that stands for it. -/
theorem field_single (single : Single spell bindings key) :
    (bindings.field spell key = some none ∧ ∀ name, spell name = key → bindings.get name = none) ∨
    ∃ name value, spell name = key ∧ bindings.get name = some value ∧
      bindings.field spell key = some (some value) := by
  by_cases present : ∃ name value, spell name = key ∧ bindings.get name = some value
  · obtain ⟨name, value, spelled, found⟩ := present
    exact .inr ⟨name, value, spelled, found, field_present single spelled found⟩
  · have absent : ∀ name, spell name = key → bindings.get name = none := by
      intro name spelled
      rw [Option.eq_none_iff_forall_ne_some]
      intro value found
      exact present ⟨name, value, spelled, found⟩
    exact .inl ⟨field_absent absent, absent⟩

theorem field_isSome : (bindings.field spell key).isSome = true ↔ Single spell bindings key := by
  constructor
  · intro read name other value value' spelled spelled' found found'
    have inFirst : (name, value) ∈ _ := mem_filter_spell.mpr ⟨found, spelled⟩
    have inSecond : (other, value') ∈ _ := mem_filter_spell.mpr ⟨found', spelled'⟩
    unfold field at read
    split at read
    next empty =>
      rw [empty] at inFirst
      cases inFirst
    next entry alone =>
      rw [alone, List.mem_singleton] at inFirst inSecond
      exact congrArg Prod.fst (inFirst.trans inSecond.symm)
    next => cases read
  · intro single
    rcases field_single single with ⟨read, _⟩ | ⟨_, _, _, _, read⟩
    · rw [read]
      rfl
    · rw [read]
      rfl

end Field

end Bindings

end TemplateServico
