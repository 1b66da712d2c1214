import TemplateServico.Load

/-! Whether the two ways to construct a configuration agree.

`envy` reads a variable in any spelling of its name, and the code that takes its
place only asks for the one in upper case. A variable that makes `envy` fail
therefore also takes away what other variables in other spellings had given.
-/

set_option autoImplicit false

namespace TemplateServico

/-- The first of the three variables that is set names an environment. -/
def Recognised (env : Environment) : Prop :=
  ∃ value environment, environmentVar env = some value ∧ AppEnvironment.fromStr value = .ok environment

/-- Every variable that `envy` takes for the field has the name that the fallback
asks for, or a value without effect: one that stands for the default or, for the
environment, any value where the three variables decide. -/
def Plain (env : Environment) (field : Field) : Prop :=
  ∀ name value, Text.lowercase name = field.key → env.get name = some value →
    name = field.var ∨ field.read (some value) = field.read none ∨ (field = .environment ∧ Recognised env)

theorem recognised_iff {env : Environment} : Recognised env ↔ ∃ environment, envFromVar env = some environment := by
  unfold Recognised envFromVar
  constructor
  · intro ⟨value, environment, first, known⟩
    exact ⟨environment, by rw [first, Option.bind_some, known]; rfl⟩
  · intro ⟨environment, known⟩
    obtain ⟨value, first, known⟩ := Option.bind_eq_some_iff.mp known
    cases parsed : AppEnvironment.fromStr value with
    | error message =>
      rw [parsed] at known
      cases known
    | ok other =>
      rw [parsed] at known
      cases known
      exact ⟨value, environment, first, parsed⟩

theorem get_settle_eq {env : Environment} {text other : Field → Option String} {field : Field} :
    field.get (settle env text) = field.get (settle env other) ↔
      field.read (text field) = field.read (other field) ∨ (field = .environment ∧ Recognised env) := by
  by_cases isEnvironment : field = .environment
  · rw [isEnvironment, recognised_iff]
    change (envFromVar env).getD _ = (envFromVar env).getD _ ↔ _
    cases envFromVar env with
    | none => simp
    | some environment => simp
  · rw [get_settle isEnvironment, get_settle isEnvironment]
    simp [isEnvironment]

theorem plain_iff {env : Environment} {field : Field} (single : Bindings.Single Text.lowercase env field.key) :
    field.get (settle env env.text) = field.get (settle env fun field => env.get field.var) ↔ Plain env field := by
  rw [get_settle_eq]
  rcases text_cases single with ⟨nothing, absent⟩ | ⟨name, value, spelled, given, found⟩
  · rw [nothing, absent field.var field.lowercase_var]
    apply iff_of_true (.inl rfl)
    intro name value spelled given
    rw [absent name spelled] at given
    cases given
  · rw [found]
    have only {other value' : String} (spelled' : Text.lowercase other = field.key)
        (given' : env.get other = some value') : other = name ∧ value' = value := by
      have same := single other name value' value spelled' spelled given' given
      rw [same, given] at given'
      exact ⟨same, (Option.some.inj given').symm⟩
    by_cases named : name = field.var
    · rw [← named, given]
      apply iff_of_true (.inl rfl)
      intro other value' spelled' given'
      exact .inl ((only spelled' given').1.trans named)
    · -- The fallback finds nothing where `envy` found the value.
      have unset : env.get field.var = none := by
        rw [Option.eq_none_iff_forall_ne_some]
        intro value' given'
        exact named (only field.lowercase_var given').1.symm
      rw [unset]
      constructor
      · intro same other value' spelled' given'
        rw [(only spelled' given').2]
        exact .inr same
      · intro plain
        exact (plain name value spelled given).resolve_left named

section Change

variable {changed field : Field} {first second : Environment}

theorem get_congr (only : Bindings.AgreeExcept changed.var first second) (other : field ≠ changed) {name : String}
    (spelled : Text.lowercase name = field.key) : first.get name = second.get name := by
  apply only
  intro same
  rw [same, changed.lowercase_var] at spelled
  exact other (Field.key_injective spelled).symm

theorem envFromVar_congr (only : Bindings.AgreeExcept changed.var first second) (other : .environment ≠ changed) :
    envFromVar first = envFromVar second := by
  have notChanged : ∀ field : Field, "APP_ENV" ≠ field.var ∧ "RUST_ENV" ≠ field.var := by
    intro field
    cases field <;> decide
  have environment : first.get "ENVIRONMENT" = second.get "ENVIRONMENT" := get_congr only other (by decide)
  unfold envFromVar environmentVar
  rw [environment, only "APP_ENV" (notChanged changed).1, only "RUST_ENV" (notChanged changed).2]

theorem text_congr (only : Bindings.AgreeExcept changed.var first second) (other : field ≠ changed)
    (single : Bindings.Single Text.lowercase first field.key) : first.text field = second.text field := by
  have single' := (Bindings.single_congr fun name => get_congr only other).mp single
  rcases text_cases single with ⟨nothing, absent⟩ | ⟨name, value, spelled, given, found⟩
  · rcases text_cases single' with ⟨nothing', _⟩ | ⟨name, value, spelled, given, _⟩
    · rw [nothing, nothing']
    · rw [← get_congr only other spelled, absent name spelled] at given
      cases given
  · rw [get_congr only other spelled] at given
    rw [found, text_of_get single' spelled given]

theorem settle_congr (only : Bindings.AgreeExcept changed.var first second) (other : field ≠ changed)
    {text text' : Field → Option String} (same : text field = text' field) :
    field.get (settle first text) = field.get (settle second text') := by
  by_cases isEnvironment : field = .environment
  · subst isEnvironment
    change (envFromVar first).getD _ = (envFromVar second).getD _
    rw [envFromVar_congr only other, same]
  · rw [get_settle isEnvironment, get_settle isEnvironment, same]

theorem plain_congr (only : Bindings.AgreeExcept changed.var first second) (other : field ≠ changed) :
    Plain first field ↔ Plain second field := by
  have decided : (field = .environment ∧ Recognised first) ↔ (field = .environment ∧ Recognised second) := by
    apply and_congr_right
    intro isEnvironment
    rw [recognised_iff, recognised_iff, envFromVar_congr only (isEnvironment ▸ other)]
  unfold Plain
  rw [decided]
  apply forall_congr'
  intro name
  apply forall_congr'
  intro value
  apply imp_congr_right
  intro spelled
  rw [get_congr only other spelled]

theorem agrees_accepted (only : Bindings.AgreeExcept changed.var first second) (other : field ≠ changed)
    (accepted : Accepted first) (accepted' : Accepted second) : field.get (load first) = field.get (load second) := by
  rw [load_of_accepted accepted, load_of_accepted accepted']
  exact settle_congr only other (text_congr only other (accepted.single field))

theorem agrees_rejected (only : Bindings.AgreeExcept changed.var first second) (other : field ≠ changed)
    (rejected : ¬ Accepted first) (rejected' : ¬ Accepted second) :
    field.get (load first) = field.get (load second) := by
  rw [load_of_rejected rejected, load_of_rejected rejected']
  exact settle_congr only other (get_congr only other field.lowercase_var)

/-- The field survives the change from `envy` to the fallback. -/
theorem agrees_iff_plain (only : Bindings.AgreeExcept changed.var first second) (other : field ≠ changed)
    (accepted : Accepted first) (rejected : ¬ Accepted second) :
    field.get (load first) = field.get (load second) ↔ Plain first field := by
  have same : field.get (load second) = field.get (settle first fun field => first.get field.var) := by
    rw [load_of_rejected rejected]
    exact (settle_congr only other (get_congr only other field.lowercase_var)).symm
  rw [same, load_of_accepted accepted]
  exact plain_iff (accepted.single field)

end Change

/-- Two environments that differ in the variable of one field, such as PORT or
ENVIRONMENT, give the same values to all other fields exactly when both or neither
are accepted by `envy`, or what `envy` takes for the other fields is plain. -/
theorem load_agrees_iff (changed : Field) {first second : Environment}
    (only : Bindings.AgreeExcept changed.var first second) :
    (∀ field, field ≠ changed → field.get (load first) = field.get (load second)) ↔
      (Accepted first ↔ Accepted second) ∨ ∀ field, field ≠ changed → Plain first field := by
  -- Only where one of the two is accepted do the two ways to construct meet.
  by_cases accepted : Accepted first <;> by_cases accepted' : Accepted second
  · exact iff_of_true (fun field other => agrees_accepted only other accepted accepted')
      (.inl (iff_of_true accepted accepted'))
  · rw [or_iff_right fun same => accepted' (same.mp accepted)]
    apply forall₂_congr
    intro field other
    exact agrees_iff_plain only other accepted accepted'
  · rw [or_iff_right fun same => accepted (same.mpr accepted')]
    apply forall₂_congr
    intro field other
    rw [plain_congr only other, eq_comm]
    exact agrees_iff_plain only.symm other accepted' accepted
  · exact iff_of_true (fun field other => agrees_rejected only other accepted accepted')
      (.inl (iff_of_false accepted accepted'))

/-- Where nothing but the names in upper case stands for a field, a bad value affects
its own field alone. -/
theorem plain_of_upper {env : Environment} (upper : ∀ entry ∈ env.entries, ∀ field ∈ Field.all,
    Text.lowercase entry.1 = field.key → entry.1 = field.var) (field : Field) : Plain env field := by
  intro name value spelled given
  exact .inl (upper (name, value) (Bindings.get_eq_some.mp given) field field.mem_all spelled)

def upperVariables : Environment :=
  ⟨[("DATABASE_URL", "postgres://db"), ("HOST", "10.0.0.1"), ("PATH", "/bin")], by decide⟩

def badPort (env : Environment) (fresh : "PORT" ∉ env.entries.map Prod.fst) : Environment := env.add "PORT" "abc" fresh

theorem bad_port_keeps_host : ¬ Accepted (badPort upperVariables (by decide)) ∧
    Field.get .host (load upperVariables) = Field.get .host (load (badPort upperVariables (by decide))) := by
  have upper : ∀ entry ∈ upperVariables.entries, ∀ field ∈ Field.all,
      Text.lowercase entry.1 = field.key → entry.1 = field.var := by decide
  have changed : Bindings.AgreeExcept (Field.var .port) upperVariables (badPort upperVariables (by decide)) :=
    Bindings.agreeExcept_add _
  have agrees := (load_agrees_iff .port changed).mpr (.inr fun field _ => plain_of_upper upper field)
  exact ⟨by decide, agrees .host (by decide)⟩

def lowerVariables : Environment :=
  ⟨[("DATABASE_URL", "postgres://db"), ("host", "10.0.0.1")], by decide⟩

theorem bad_port_drops_host : Bindings.AgreeExcept "PORT" lowerVariables (badPort lowerVariables (by decide)) ∧
    (load lowerVariables).host = "10.0.0.1" ∧ (load (badPort lowerVariables (by decide))).host = "0.0.0.0" :=
  ⟨Bindings.agreeExcept_add (by decide), by decide, by decide⟩

end TemplateServico
