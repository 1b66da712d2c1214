import TemplateServico.Error
import TemplateServico.Models
import TemplateServico.Relational

/-! The users table of the migration and the statements the handlers send to it. -/

set_option autoImplicit false

namespace TemplateServico.Postgres

open Relational

/-! ## The schema -/

inductive UsersConstraint where
  | primaryKey | email
  deriving DecidableEq, Repr

def UsersConstraint.name : UsersConstraint → String
  | .primaryKey => "users_pkey"
  | .email => "users_email_key"

def usersSchema : Schema User UsersConstraint String where
  constraints := [.primaryKey, .email]
  key
    | .primaryKey, user => user.id.hyphenated
    | .email, user => user.email
  check user := decide (user.name.length ≤ 255 ∧ user.email.length ≤ 255)

abbrev UsersTable := Table usersSchema

/-! ## Values on their way into the table -/

def tooLong : DatabaseError := ⟨"22001", "value too long for type character varying(255)"⟩

def invalidText : DatabaseError := ⟨"22021", "invalid byte sequence for encoding \"UTF8\": 0x00"⟩

def violates : Violation UsersConstraint → DatabaseError
  | .check => tooLong
  | .unique constraint =>
    ⟨"23505", "duplicate key value violates unique constraint \"" ++ constraint.name ++ "\""⟩

/-- A text parameter. The server has no text with a zero character. -/
def text (s : String) : Except DatabaseError String :=
  if '\x00' ∈ s.toList then .error invalidText else .ok s

/-- Assignment to a VARCHAR(255) column. A longer value is refused unless all that
is too much are spaces, which are then dropped. -/
def varchar (s : String) : Except DatabaseError String :=
  if s.length ≤ 255 then .ok s
  else if (s.toList.drop 255).all fun c => c = ' ' then .ok (.ofList (s.toList.take 255))
  else .error tooLong

def stored (s : String) : Except DatabaseError String := do
  let s ← text s
  varchar s

theorem stored_ok {s t : String} (kept : stored s = .ok t) :
    t = s ∨ (∀ c ∈ s.toList.drop 255, c = ' ') ∧ 255 < s.length ∧ t = .ofList (s.toList.take 255) := by
  unfold stored text at kept
  split at kept
  next => cases kept
  next =>
    change varchar s = .ok t at kept
    unfold varchar at kept
    split at kept
    next => exact .inl (Except.ok.inj kept).symm
    next long =>
      split at kept
      next spaces => exact .inr ⟨by simpa using spaces, by omega, (Except.ok.inj kept).symm⟩
      next => cases kept

theorem stored_trimmed {s t : String} (trimmed : Text.Trimmed s) (kept : stored s = .ok t) : t = s := by
  rcases stored_ok kept with same | ⟨spaces, long, _⟩
  · exact same
  · have nonempty : s.toList.drop 255 ≠ [] := by
      intro empty
      have bound := List.drop_eq_nil_iff.mp empty
      rw [String.length_toList] at bound
      omega
    have final : s.toList.getLast? = some ((s.toList.drop 255).getLast nonempty) := by
      rw [List.getLast_drop, List.getLast?_eq_some_getLast]
    have blank := spaces _ (List.getLast_mem nonempty)
    rw [blank] at final
    exact absurd (trimmed.last ' ' final) (by decide)

theorem stored_keeps {s t : String} {c : Char} (kept : stored s = .ok t) (member : c ∈ s.toList)
    (visible : c ≠ ' ') : c ∈ t.toList := by
  rcases stored_ok kept with same | ⟨spaces, _, same⟩
  · rw [same]
    exact member
  · rw [same, String.toList_ofList]
    rw [← List.take_append_drop 255 s.toList] at member
    rcases List.mem_append.mp member with front | back
    · exact front
    · exact absurd (spaces c back) visible

/-! ## Statements -/

inductive Statement where
  | selectOne
  | insertUser (id : Uuid) (name email : String)
  | selectUsers
  | selectUser (id : Uuid)
  deriving DecidableEq, Repr

/-- The server's answer to a statement: the rows it returns, or an error. -/
abbrev Outcome := Except DatabaseError (List User)

def insertUser (table : UsersTable) (id : Uuid) (name email : String) (now : DateTime) :
    Except DatabaseError (User × UsersTable) := do
  let name ← stored name
  let email ← stored email
  let user : User := ⟨id, name, email, now, now⟩
  match table.insert user with
  | .error violation => .error (violates violation)
  | .ok later => .ok (user, later)

/-- A statement that runs to its end, in a transaction that starts now. -/
def execute (statement : Statement) (now : DateTime) (table : UsersTable) : Outcome × UsersTable :=
  match statement with
  | .selectOne => (.ok [], table)
  | .insertUser id name email =>
    match insertUser table id name email now with
    | .error error => (.error error, table)
    | .ok (user, later) => (.ok [user], later)
  | .selectUsers => (.ok table.rows, table)
  | .selectUser id => (.ok (table.rows.filter fun user => decide (user.id = id)), table)

/-- Answers that agree up to the order of rows, which no statement asks for. -/
inductive SameRows : Outcome → Outcome → Prop where
  | error (error : DatabaseError) : SameRows (.error error) (.error error)
  | ok {rows others : List User} : rows.Perm others → SameRows (.ok rows) (.ok others)

/-- What the server may do with a statement: run it, or give up on it with an error. -/
inductive Executes (statement : Statement) (table : UsersTable) : Outcome → UsersTable → Prop where
  | runs (now : DateTime) {outcome : Outcome} :
      SameRows (execute statement now table).1 outcome →
      Executes statement table outcome (execute statement now table).2
  | fails (error : DatabaseError) : Executes statement table (.error error) table

structure Inserted (id : Uuid) (name email : String) (user : User) : Prop where
  id : user.id = id
  name : stored name = .ok user.name
  email : stored email = .ok user.email

theorem insertUser_ok {table later : UsersTable} {id : Uuid} {name email : String} {now : DateTime}
    {user : User} (inserted : insertUser table id name email now = .ok (user, later)) :
    Inserted id name email user ∧ table.insert user = .ok later := by
  unfold insertUser at inserted
  cases storedName : stored name with
  | error error => simp [storedName, bind, Except.bind] at inserted
  | ok name' =>
    cases storedEmail : stored email with
    | error error => simp [storedName, storedEmail, bind, Except.bind] at inserted
    | ok email' =>
      simp only [storedName, storedEmail, bind, Except.bind] at inserted
      split at inserted
      next => cases inserted
      next later' added =>
        cases inserted
        exact ⟨⟨rfl, storedName, storedEmail⟩, added⟩

/-- A statement either adds the one row that it returns, or leaves the table as it was. -/
theorem Executes.cases {statement : Statement} {table later : UsersTable} {outcome : Outcome}
    (executed : Executes statement table outcome later) :
    (∃ id name email user, statement = .insertUser id name email ∧ outcome = .ok [user] ∧
      Inserted id name email user ∧ table.insert user = .ok later) ∨
    (later = table ∧ ∀ rows, outcome = .ok rows →
      (statement = .selectOne ∧ rows = []) ∨ (statement = .selectUsers ∧ rows.Perm table.rows) ∨
      ∃ id, statement = .selectUser id ∧
        rows.Perm (table.rows.filter fun user => decide (user.id = id))) := by
  cases executed with
  | fails error => exact .inr ⟨rfl, by nofun⟩
  | runs now same =>
    cases statement with
    | selectOne =>
      right
      refine ⟨rfl, fun rows answer => .inl ⟨rfl, ?_⟩⟩
      subst answer
      cases same with
      | ok perm => exact List.nil_perm.mp perm
    | insertUser id name email =>
      cases inserted : insertUser table id name email now with
      | error error =>
        right
        simp only [execute, inserted] at same ⊢
        cases same with
        | error => exact ⟨trivial, by nofun⟩
      | ok added =>
        obtain ⟨user, added⟩ := added
        left
        simp only [execute, inserted] at same ⊢
        cases same with
        | ok perm =>
          obtain ⟨row, kept⟩ := insertUser_ok inserted
          exact ⟨id, name, email, user, rfl, by rw [List.singleton_perm.mp perm], row, kept⟩
    | selectUsers =>
      right
      refine ⟨rfl, fun rows answer => .inr (.inl ⟨rfl, ?_⟩)⟩
      subst answer
      cases same with
      | ok perm => exact perm.symm
    | selectUser id =>
      right
      refine ⟨rfl, fun rows answer => .inr (.inr ⟨id, rfl, ?_⟩)⟩
      subst answer
      cases same with
      | ok perm => exact perm.symm

theorem select_present {table : UsersTable} {user : User} (present : user ∈ table.rows) :
    (table.rows.filter fun other => decide (other.id = user.id)) = [user] := by
  have member : UsersConstraint.primaryKey ∈ usersSchema.constraints := by simp [usersSchema]
  have byKey := Table.filter_key member present
  rw [← byKey]
  apply List.filter_congr
  intro other _
  exact decide_eq_decide.mpr Uuid.ext_iff

theorem ids_distinct (table : UsersTable) : (table.rows.map User.id).Nodup := by
  have hyphenated := table.unique .primaryKey (by simp [usersSchema])
  rw [show usersSchema.key .primaryKey = Uuid.hyphenated ∘ User.id from rfl, ← List.map_map] at hyphenated
  exact List.Nodup.of_map _ hyphenated

theorem emails_distinct (table : UsersTable) : (table.rows.map User.email).Nodup :=
  table.unique .email (by simp [usersSchema])

end TemplateServico.Postgres
