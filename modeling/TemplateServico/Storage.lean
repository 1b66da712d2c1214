import TemplateServico.Creation

/-! Whether what `create_user` accepts can be stored as it is. -/

set_option autoImplicit false

namespace TemplateServico

open Http Interaction Postgres Handlers

structure Storable (s : String) : Prop where
  noZero : '\x00' ∉ s.toList
  short : s.length ≤ 255

theorem stored_self {s : String} : stored s = .ok s ↔ Storable s := by
  constructor
  · intro kept
    constructor
    · intro zero
      simp [stored, text, zero, bind, Except.bind] at kept
    · rcases Nat.lt_or_ge 255 s.length with long | short
      · unfold stored text at kept
        split at kept
        next => cases kept
        next =>
          change varchar s = .ok s at kept
          unfold varchar at kept
          rw [if_neg (by omega)] at kept
          split at kept
          next =>
            -- What is left after the spaces are dropped is shorter.
            have length := congrArg String.length (Except.ok.inj kept)
            rw [← String.length_toList, String.toList_ofList, List.length_take] at length
            omega
          next => cases kept
      · exact short
  · intro storable
    unfold stored text
    rw [if_neg storable.noZero]
    change varchar s = .ok s
    unfold varchar
    rw [if_pos storable.short]

/-! ## Runs with a healthy database -/

/-- Every statement is executed on the table as it is, and the answer arrives. -/
inductive Healthy (id : Uuid) (now : DateTime) : UsersTable → List (Event serviceInterface) → UsersTable → Prop where
  | nil (table : UsersTable) : Healthy id now table [] table
  | pass {table later : UsersTable} {history : List (Event serviceInterface)} (point : Point) :
      Healthy id now table history later → Healthy id now table (passed point :: history) later
  | newUuid {table later : UsersTable} {history : List (Event serviceInterface)} :
      Healthy id now table history later → Healthy id now table (⟨.newUuid, id⟩ :: history) later
  | execute {table later : UsersTable} {history : List (Event serviceInterface)} {statement : Statement}
      {outcome : Outcome} : SameRows (execute statement now table).1 outcome →
      Healthy id now (execute statement now table).2 history later →
      Healthy id now table (⟨.send statement, .ok ()⟩ :: ⟨.receive statement, answerOf outcome⟩ :: history) later

section Creation

variable {payload : CreateUserPayload} {name email : String} {id : Uuid} {now : DateTime} {table later : UsersTable}
  {history : List (Event serviceInterface)} {result : AppResult (StatusCode × Json)}

theorem healthy_creation (accepted : checkPayload payload = .ok (name, email))
    (healthy : Healthy id now table history later) (reached : (createUser payload).Reaches history (.done result)) :
    ∃ outcome, SameRows (execute (.insertUser id name email) now table).1 outcome ∧
      later = (execute (.insertUser id name email) now table).2 ∧ result = created (answerOf outcome) := by
  rcases createUser_complete reached with
    ⟨error, refused, _⟩ | ⟨_, _, id', asked, answer, checked, split, queried, same⟩
  · rw [accepted] at refused
    cases refused
  rw [accepted] at checked
  cases checked
  rw [split] at healthy
  cases healthy with
  | pass point healthy =>
    cases healthy with
    | newUuid healthy =>
      rcases query_complete queried with ⟨error, notSent, _⟩ | answered
      · rw [notSent] at healthy
        cases healthy
      · rw [answered] at healthy
        cases healthy with
        | execute outcome healthy =>
          cases healthy
          exact ⟨_, outcome, rfl, same⟩

theorem healthy_creation_exists (accepted : checkPayload payload = .ok (name, email)) (id : Uuid) (now : DateTime)
    (table : UsersTable) : ∃ history later result, Healthy id now table history later ∧
      (createUser payload).Reaches history (.done result) := by
  have same : SameRows (execute (.insertUser id name email) now table).1
      (execute (.insertUser id name email) now table).1 := by
    cases (execute (.insertUser id name email) now table).1 with
    | error error => exact .error error
    | ok rows => exact .ok (List.Perm.refl rows)
  refine ⟨_, _, created (answerOf (execute (.insertUser id name email) now table).1),
    .pass .createUser (.newUuid (.execute same (.nil _))), ?_⟩
  unfold createUser
  apply Program.Reaches.reply (I := serviceInterface)
  rw [accepted]
  apply Program.Reaches.reply (I := serviceInterface)
  exact Program.reaches_map_done.mpr ⟨_, query_answered _ _, rfl⟩

theorem insertUser_storable (now : DateTime) (storableName : Storable name) (storableEmail : Storable email)
    (absent : email ∉ table.rows.map User.email) (fresh : id ∉ table.rows.map User.id) :
    ∃ users, insertUser table id name email now = .ok (⟨id, name, email, now, now⟩, users) := by
  have valid : usersSchema.check ⟨id, name, email, now, now⟩ = true :=
    decide_eq_true ⟨storableName.short, storableEmail.short⟩
  have free : ∀ constraint ∈ usersSchema.constraints, usersSchema.key constraint ⟨id, name, email, now, now⟩ ∉
      table.rows.map (usersSchema.key constraint) := by
    intro constraint _ taken
    obtain ⟨row, member, same⟩ := List.mem_map.mp taken
    cases constraint with
    | primaryKey => exact fresh (List.mem_map.mpr ⟨row, member, Uuid.ext same⟩)
    | email => exact absent (List.mem_map.mpr ⟨row, member, same⟩)
  obtain ⟨users, added⟩ := Relational.Table.insert_of_free valid free
  refine ⟨users, ?_⟩
  unfold insertUser
  simp only [stored_self.mpr storableName, stored_self.mpr storableEmail, bind, Except.bind, added]

theorem inserted_exact {user : User} (inserted : Inserted id name email user) :
    (user.name = name ∧ user.email = email) ↔ Storable name ∧ Storable email := by
  rw [← stored_self, ← stored_self, inserted.name, inserted.email, Except.ok.injEq, Except.ok.injEq]

/-- The answer is 201, with the row that is now in the table, and its values are
those of the payload. -/
def StoredExactly (payload : CreateUserPayload) (table later : UsersTable) (result : AppResult (StatusCode × Json)) :
    Prop :=
  ∃ user : User, (intoResponse result).status = .CREATED ∧ (intoResponse result).body = .json user.toJson ∧
    later.rows = table.rows ++ [user] ∧ user.name = Text.trim payload.name ∧ user.email = payload.email

theorem storedExactly_iff (accepted : checkPayload payload = .ok (name, email))
    (absent : payload.email ∉ table.rows.map User.email) (fresh : id ∉ table.rows.map User.id)
    (healthy : Healthy id now table history later) (reached : (createUser payload).Reaches history (.done result)) :
    StoredExactly payload table later result ↔ Storable (Text.trim payload.name) ∧ Storable payload.email := by
  obtain ⟨outcome, same, executed, answered⟩ := healthy_creation accepted healthy reached
  obtain ⟨sameName, _, sameEmail, _⟩ := checkPayload_ok accepted
  rw [← sameName, ← sameEmail]
  rw [← sameEmail] at absent
  unfold StoredExactly
  rw [← sameName, ← sameEmail]
  cases inserted : insertUser table id name email now with
  | error error =>
    simp only [execute, inserted] at same executed
    cases same with
    | error =>
      constructor
      · intro stored
        obtain ⟨_, succeeded, _⟩ := stored
        rw [answered] at succeeded
        have failed := (AppError.database (.database error)).intoResponse_isError
        change (AppError.database (.database error)).intoResponse.status = .CREATED at succeeded
        rw [succeeded] at failed
        exact absurd failed StatusCode.created_not_error
      · intro storable
        obtain ⟨storableName, storableEmail⟩ := storable
        obtain ⟨users, added⟩ := insertUser_storable now storableName storableEmail absent fresh
        rw [inserted] at added
        cases added
  | ok added =>
    obtain ⟨user, users⟩ := added
    simp only [execute, inserted] at same executed
    cases same with
    | @ok _ rows perm =>
      obtain ⟨row, kept⟩ := insertUser_ok inserted
      rw [← List.singleton_perm.mp perm] at answered
      rw [← inserted_exact row, answered, executed, (Relational.Table.insert_ok kept).1]
      constructor
      · intro stored
        obtain ⟨other, _, body, _, exactName, exactEmail⟩ := stored
        have same : user = other := User.toJson_injective (Body.json.inj body)
        rw [same]
        exact ⟨exactName, exactEmail⟩
      · intro exact
        obtain ⟨exactName, exactEmail⟩ := exact
        exact ⟨user, rfl, rfl, rfl, exactName, exactEmail⟩

end Creation

/-- A payload that `create_user` accepts, with an email that is not taken, is answered
in every run with a healthy database. It is stored exactly if and only if neither
the trimmed name nor the email has a zero character or more than 255 characters. -/
theorem creation_exact_iff {payload : CreateUserPayload} {name email : String}
    (accepted : checkPayload payload = .ok (name, email)) (table : UsersTable) (id : Uuid) (now : DateTime)
    (absent : payload.email ∉ table.rows.map User.email) (fresh : id ∉ table.rows.map User.id) :
    (∃ history later result, Healthy id now table history later ∧
      (createUser payload).Reaches history (.done result)) ∧
    ∀ history later result, Healthy id now table history later →
      (createUser payload).Reaches history (.done result) →
      (StoredExactly payload table later result ↔ Storable (Text.trim payload.name) ∧ Storable payload.email) :=
  ⟨healthy_creation_exists accepted id now table,
    fun _ _ _ healthy reached => storedExactly_iff accepted absent fresh healthy reached⟩

theorem ana_stored_exactly : ∃ history later result,
    Healthy exampleUser.id exampleUser.createdAt (Relational.Table.empty usersSchema) history later ∧
    (createUser ⟨" Ana ", "ana@example.com"⟩).Reaches history (.done result) ∧
    StoredExactly ⟨" Ana ", "ana@example.com"⟩ (Relational.Table.empty usersSchema) later result := by
  have accepted : checkPayload ⟨" Ana ", "ana@example.com"⟩ = .ok ("Ana", "ana@example.com") := rfl
  obtain ⟨⟨history, later, result, healthy, reached⟩, exact⟩ :=
    creation_exact_iff accepted (Relational.Table.empty usersSchema) exampleUser.id exampleUser.createdAt
      List.not_mem_nil List.not_mem_nil
  exact ⟨history, later, result, healthy, reached,
    (exact history later result healthy reached).mpr ⟨⟨by decide, by decide⟩, ⟨by decide, by decide⟩⟩⟩

def zeroPayload : CreateUserPayload := ⟨"Ana\x00", "ana@example.com"⟩

theorem zero_character_fails : (∃ values, checkPayload zeroPayload = .ok values) ∧
    ∃ history later result,
      Healthy exampleUser.id exampleUser.createdAt (Relational.Table.empty usersSchema) history later ∧
      (createUser zeroPayload).Reaches history (.done result) ∧
      (intoResponse result).status = .INTERNAL_SERVER_ERROR ∧
      ¬ StoredExactly zeroPayload (Relational.Table.empty usersSchema) later result := by
  have accepted : checkPayload zeroPayload = .ok ("Ana\x00", "ana@example.com") := rfl
  obtain ⟨history, later, result, healthy, reached⟩ := healthy_creation_exists accepted exampleUser.id
    exampleUser.createdAt (Relational.Table.empty usersSchema)
  obtain ⟨outcome, same, _, answered⟩ := healthy_creation accepted healthy reached
  refine ⟨⟨_, accepted⟩, history, later, result, healthy, reached, ?_, ?_⟩
  · have refused : (execute (.insertUser exampleUser.id "Ana\x00" "ana@example.com") exampleUser.createdAt
        (Relational.Table.empty usersSchema)).1 = .error invalidText := rfl
    rw [refused] at same
    cases same with
    | error =>
      rw [answered]
      change (AppError.database (.database invalidText)).intoResponse.status = _
      rw [AppError.intoResponse_status]
      decide
  · rw [storedExactly_iff accepted List.not_mem_nil List.not_mem_nil healthy reached]
    intro storable
    exact storable.1.noZero (by decide)

end TemplateServico
