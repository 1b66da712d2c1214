import TemplateServico.Handlers

/-! When an error of the database is answered with a conflict. -/

set_option autoImplicit false

namespace TemplateServico

open Http Interaction Handlers

def conflictResponse : Response :=
  (ProblemDetails.conflict "A record with the given identifier or data already exists.").intoResponse

def failureResponse : Response := ProblemDetails.internalServerError.intoResponse

theorem conflict_ne_failure : conflictResponse ≠ failureResponse := by
  intro same
  have codes := congrArg (fun response => response.status.asU16) same
  revert codes
  decide

/-- One of the two words is in the text, in upper or lower case. -/
def Mentions (message : String) : Prop :=
  Text.contains (Text.lowercase message) "unique" = true ∨
    Text.contains (Text.lowercase message) "duplicate" = true

instance (message : String) : Decidable (Mentions message) := inferInstanceAs (Decidable (_ ∨ _))

/-- What the code takes for a conflict. -/
def Conflicts : SqlxError → Prop
  | .database error => error.code = "23505" ∨ Mentions error.message
  | error => Text.contains (Text.lowercase error.toString) "unique constraint" = true ∨
      Text.contains (Text.lowercase error.toString) "duplicate key" = true

theorem isUniqueViolation_iff {error : SqlxError} : isUniqueViolation error = true ↔ Conflicts error := by
  cases error with
  | database error => simp [isUniqueViolation, Conflicts, Mentions, DatabaseError.isUniqueViolation, or_assoc]
  | _ => simp [isUniqueViolation, Conflicts]

theorem response_of_conflict {error : SqlxError} (conflicts : Conflicts error) :
    (AppError.database error).intoResponse = conflictResponse := by
  unfold AppError.intoResponse AppError.problem
  dsimp only
  rw [if_pos (isUniqueViolation_iff.mpr conflicts)]
  rfl

theorem response_of_failure {error : SqlxError} (fails : ¬ Conflicts error) :
    (AppError.database error).intoResponse = failureResponse := by
  unfold AppError.intoResponse AppError.problem
  dsimp only
  rw [if_neg fun violation => fails (isUniqueViolation_iff.mp violation)]
  rfl

theorem database_response {error : SqlxError} :
    (AppError.database error).intoResponse = conflictResponse ↔ Conflicts error := by
  constructor
  · intro answered
    by_contra fails
    exact conflict_ne_failure (answered.symm.trans (response_of_failure fails))
  · exact response_of_conflict

theorem database_conflict {error : SqlxError} :
    (AppError.database error).intoResponse.status = .CONFLICT ↔ Conflicts error := by
  rw [AppError.intoResponse_status, ← isUniqueViolation_iff]
  unfold AppError.status
  dsimp only
  split
  next violation => exact iff_of_true rfl violation
  next fails => exact iff_of_false (by decide) fails

/-- Every server error has the answer that its code stands for. -/
structure Exact (error : DatabaseError) : Prop where
  conflict : error.code = "23505" → (AppError.database (.database error)).intoResponse = conflictResponse
  failure : error.code ≠ "23505" → (AppError.database (.database error)).intoResponse = failureResponse

theorem exact_iff {error : DatabaseError} : Exact error ↔ error.code = "23505" ∨ ¬ Mentions error.message := by
  constructor
  · intro exact
    by_cases violation : error.code = "23505"
    · exact .inl violation
    · right
      intro mentions
      have conflicts : Conflicts (.database error) := .inr mentions
      have answered := response_of_conflict conflicts
      exact conflict_ne_failure (answered.symm.trans (exact.failure violation))
  · intro plain
    refine ⟨fun violation => response_of_conflict (.inl violation), fun other => response_of_failure ?_⟩
    intro conflicts
    rcases conflicts with violation | mentions
    · exact other violation
    · exact (plain.resolve_left other) mentions

/-- Two errors with other codes look alike to the client, unless one message has a word. -/
theorem alike_iff {first second : DatabaseError} (other : first.code ≠ "23505") (other' : second.code ≠ "23505") :
    (AppError.database (.database first)).intoResponse = (AppError.database (.database second)).intoResponse ↔
      (Mentions first.message ↔ Mentions second.message) := by
  have words {error : DatabaseError} (other : error.code ≠ "23505") :
      Conflicts (.database error) ↔ Mentions error.message := or_iff_right other
  rw [← words other, ← words other']
  constructor
  · intro same
    rw [← database_response, ← database_response, same]
  · intro same
    by_cases conflicts : Conflicts (.database first)
    · rw [response_of_conflict conflicts, response_of_conflict (same.mp conflicts)]
    · rw [response_of_failure conflicts, response_of_failure (fun later => conflicts (same.mpr later))]

/-! ## Reading handlers -/

/-- A statement of the run was answered with an error. -/
def Failed (history : List (Event serviceInterface)) (error : SqlxError) : Prop :=
  ∃ statement, (⟨.send statement, .error error⟩ : Event serviceInterface) ∈ history ∨
    (⟨.receive statement, .error error⟩ : Event serviceInterface) ∈ history

theorem failed_query {point : Point} {statement : Postgres.Statement} {history asked : List (Event serviceInterface)}
    {answer : Except SqlxError (List User)} (split : history = passed point :: asked)
    (queried : (query statement).Reaches asked (.done answer)) {error : SqlxError} :
    Failed history error ↔ answer = .error error := by
  rcases query_complete queried with ⟨refused, notSent, same⟩ | answered
  · rw [split, notSent, same]
    simp only [Failed, passed, List.mem_cons, List.not_mem_nil, or_false]
    constructor
    · intro ⟨other, found⟩
      rcases found with (entered | sent) | (entered | received)
      · cases entered
      · cases sent
        rfl
      · cases entered
      · cases received
    · intro same
      cases same
      exact ⟨statement, .inl (.inr rfl)⟩
  · rw [split, answered]
    simp only [Failed, passed, List.mem_cons, List.not_mem_nil, or_false]
    constructor
    · intro ⟨other, found⟩
      rcases found with (entered | sent | received) | (entered | sent | received)
      · cases entered
      · cases sent
      · cases received
      · cases entered
      · cases sent
      · cases received
        rfl
    · intro same
      rw [same]
      exact ⟨statement, .inr (.inr (.inr rfl))⟩

theorem onQuery_conflict {point : Point} {statement : Postgres.Statement}
    {answered : Except SqlxError (List User) → AppResult (StatusCode × Json)}
    (failing : ∀ error, answered (.error error) = .error (.database error))
    (succeeding : ∀ rows, (intoResponse (answered (.ok rows))).status ≠ .CONFLICT)
    {history : List (Event serviceInterface)} {result : AppResult (StatusCode × Json)}
    (reached : (onQuery point statement answered).Reaches history (.done result)) :
    (intoResponse result).status = .CONFLICT ↔ ∃ error, Failed history error ∧ Conflicts error := by
  obtain ⟨asked, answer, split, queried, same⟩ := onQuery_complete reached
  simp only [failed_query split queried, same]
  cases answer with
  | error error =>
    rw [failing]
    constructor
    · intro conflict
      exact ⟨error, rfl, database_conflict.mp conflict⟩
    · intro ⟨other, found, conflicts⟩
      cases found
      exact database_conflict.mpr conflicts
  | ok rows =>
    constructor
    · intro conflict
      exact absurd conflict (succeeding rows)
    · intro ⟨_, found, _⟩
      cases found

theorem listUsers_conflict {history : List (Event serviceInterface)} {result : AppResult (StatusCode × Json)}
    (reached : listUsers.Reaches history (.done result)) :
    (intoResponse result).status = .CONFLICT ↔ ∃ error, Failed history error ∧ Conflicts error := by
  apply onQuery_conflict (fun error => rfl) _ reached
  intro rows
  change StatusCode.OK ≠ .CONFLICT
  decide

theorem getUser_conflict {id : Uuid} {history : List (Event serviceInterface)}
    {result : AppResult (StatusCode × Json)} (reached : (getUser id).Reaches history (.done result)) :
    (intoResponse result).status = .CONFLICT ↔ ∃ error, Failed history error ∧ Conflicts error := by
  apply onQuery_conflict (fun error => rfl) _ reached
  intro rows
  cases rows with
  | nil =>
    change (AppError.notFound _).intoResponse.status ≠ .CONFLICT
    rw [AppError.intoResponse_status]
    change StatusCode.NOT_FOUND ≠ .CONFLICT
    decide
  | cons user rest =>
    change StatusCode.OK ≠ .CONFLICT
    decide

/-- The answer to a server error is the one its code stands for exactly when the code
is that of a unique violation or the message has neither word in it. Otherwise the
message is seen by the client, and reads are answered with a conflict. -/
theorem conflicts_exact_iff (error : DatabaseError) :
    (Exact error ↔ error.code = "23505" ∨ ¬ Mentions error.message) ∧
    (∀ other : DatabaseError, error.code ≠ "23505" → other.code ≠ "23505" →
      ((AppError.database (.database error)).intoResponse = (AppError.database (.database other)).intoResponse ↔
        (Mentions error.message ↔ Mentions other.message))) ∧
    (∀ history result, listUsers.Reaches history (.done result) →
      ((intoResponse result).status ≠ .CONFLICT ↔ ∀ error, Failed history error → ¬ Conflicts error)) ∧
    ∀ id history result, (getUser id).Reaches history (.done result) →
      ((intoResponse result).status ≠ .CONFLICT ↔ ∀ error, Failed history error → ¬ Conflicts error) := by
  refine ⟨exact_iff, fun other => alike_iff, ?_, ?_⟩
  · intro history result reached
    rw [Ne, listUsers_conflict reached, not_exists]
    simp only [not_and]
  · intro id history result reached
    rw [Ne, getUser_conflict reached, not_exists]
    simp only [not_and]

/-- A table that is missing, by a name with one of the words in it. -/
def missingTable : DatabaseError := ⟨"42P01", "relation \"unique_users\" does not exist"⟩

def missingTableHistory : List (Event serviceInterface) :=
  [passed .listUsers, ⟨.send .selectUsers, .ok ()⟩, ⟨.receive .selectUsers, .error (.database missingTable)⟩]

theorem missing_table_conflicts : ¬ Exact missingTable ∧
    ∃ history result, listUsers.Reaches history (.done result) ∧
      (∀ error, Failed history error → error = .database missingTable) ∧
      (intoResponse result).status = .CONFLICT := by
  have mentions : Mentions missingTable.message := by decide
  obtain ⟨result, reached, _⟩ := Program.reaches_of_replay listUsers missingTableHistory (fun _ => true) (by decide)
  have failed : Failed missingTableHistory (.database missingTable) :=
    ⟨.selectUsers, .inr (by simp [missingTableHistory])⟩
  constructor
  · rw [exact_iff, not_or, not_not]
    exact ⟨by decide, mentions⟩
  · refine ⟨_, result, reached, ?_, (listUsers_conflict reached).mpr ⟨_, failed, .inr mentions⟩⟩
    intro error ⟨statement, found⟩
    simp only [missingTableHistory, passed, List.mem_cons, List.not_mem_nil, or_false] at found
    rcases found with (same | same | same) | (same | same | same) <;> cases same
    rfl

end TemplateServico
