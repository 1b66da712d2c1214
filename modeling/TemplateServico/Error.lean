import TemplateServico.Http
import TemplateServico.Text

/-! Problem documents and the errors of the application that turn into them. -/

set_option autoImplicit false

namespace TemplateServico

open Http

structure InvalidParam where
  name : String
  reason : String
  deriving DecidableEq, Repr

-- `instanceUri` is the field `instance`, which is a keyword here.
structure ProblemDetails where
  type : String
  title : String
  status : UInt16
  detail : String
  instanceUri : Option String
  invalidParams : Option (List InvalidParam)
  deriving DecidableEq, Repr

namespace ProblemDetails

def typeUris : List (StatusCode × String) :=
  [(.BAD_REQUEST, "urn:problem-type:bad-request"),
   (.UNAUTHORIZED, "urn:problem-type:unauthorized"),
   (.FORBIDDEN, "urn:problem-type:forbidden"),
   (.NOT_FOUND, "urn:problem-type:not-found"),
   (.METHOD_NOT_ALLOWED, "urn:problem-type:method-not-allowed"),
   (.CONFLICT, "urn:problem-type:conflict"),
   (.UNPROCESSABLE_ENTITY, "urn:problem-type:unprocessable-entity"),
   (.INTERNAL_SERVER_ERROR, "urn:problem-type:internal-server-error"),
   (.SERVICE_UNAVAILABLE, "urn:problem-type:service-unavailable")]

def new (status : StatusCode) (title detail : String) : ProblemDetails :=
  { type := (typeUris.lookup status).getD "about:blank"
    title := title
    status := status.asU16
    detail := detail
    instanceUri := none
    invalidParams := none }

def withType (problem : ProblemDetails) (type : String) : ProblemDetails := { problem with type := type }

def withInstance (problem : ProblemDetails) (uri : String) : ProblemDetails :=
  { problem with instanceUri := some uri }

def withInvalidParams (problem : ProblemDetails) (invalidParams : List InvalidParam) : ProblemDetails :=
  { problem with invalidParams := some invalidParams }

def badRequest (detail : String) : ProblemDetails := new .BAD_REQUEST "Bad Request" detail
def unauthorized (detail : String) : ProblemDetails := new .UNAUTHORIZED "Unauthorized" detail
def forbidden (detail : String) : ProblemDetails := new .FORBIDDEN "Forbidden" detail
def notFound (detail : String) : ProblemDetails := new .NOT_FOUND "Not Found" detail
def methodNotAllowed (detail : String) : ProblemDetails :=
  new .METHOD_NOT_ALLOWED "Method Not Allowed" detail
def conflict (detail : String) : ProblemDetails := new .CONFLICT "Conflict" detail
def unprocessableEntity (detail : String) : ProblemDetails :=
  new .UNPROCESSABLE_ENTITY "Unprocessable Entity" detail
def internalServerError : ProblemDetails :=
  new .INTERNAL_SERVER_ERROR "Internal Server Error"
    "An unexpected internal server error occurred. Please try again later."
def serviceUnavailable (detail : String) : ProblemDetails :=
  new .SERVICE_UNAVAILABLE "Service Unavailable" detail

end ProblemDetails

/-! ## The JSON form -/

namespace InvalidParam

def toJson (param : InvalidParam) : Json :=
  .obj [("name", .str param.name), ("reason", .str param.reason)]

-- The derived deserializers also read an array of the fields in their order.
def fromJson : Json → Option InvalidParam
  | .obj fields => do
    let name ← Json.required Json.asString "name" fields
    let reason ← Json.required Json.asString "reason" fields
    pure ⟨name, reason⟩
  | .arr [name, reason] => do
    let name ← Json.asString name
    let reason ← Json.asString reason
    pure ⟨name, reason⟩
  | _ => none

@[simp] theorem fromJson_toJson (param : InvalidParam) : fromJson param.toJson = some param := by
  simp [fromJson, toJson, Json.required, Json.field, Json.asString]

end InvalidParam

theorem Json.elements_map {A : Type} {read : Json → Option A} {write : A → Json}
    (inverse : ∀ a, read (write a) = some a) (values : List A) :
    Json.elements read (.arr (values.map write)) = some values := by
  induction values with
  | nil => rfl
  | cons a rest ih =>
    simp only [Json.elements] at ih ⊢
    simp [List.mapM_cons, inverse, ih]

namespace ProblemDetails

def toJson (problem : ProblemDetails) : Json :=
  .obj ([("type", .str problem.type), ("title", .str problem.title),
      ("status", .int problem.status.toNat), ("detail", .str problem.detail)] ++
    (match problem.instanceUri with
      | some uri => [("instance", .str uri)]
      | none => []) ++
    (match problem.invalidParams with
      | some params => [("invalid_params", .arr (params.map InvalidParam.toJson))]
      | none => []))

def fromJson : Json → Option ProblemDetails
  | .obj fields => do
    let type ← Json.required Json.asString "type" fields
    let title ← Json.required Json.asString "title" fields
    let status ← Json.required (Json.asUnsigned 16) "status" fields
    let detail ← Json.required Json.asString "detail" fields
    let instanceUri ← Json.optional Json.asString "instance" fields
    let invalidParams ← Json.optional (Json.elements InvalidParam.fromJson) "invalid_params" fields
    pure ⟨type, title, .ofNat status, detail, instanceUri, invalidParams⟩
  | .arr [type, title, status, detail, instanceUri, invalidParams] => do
    let type ← Json.asString type
    let title ← Json.asString title
    let status ← Json.asUnsigned 16 status
    let detail ← Json.asString detail
    let instanceUri ← Json.nullable Json.asString instanceUri
    let invalidParams ← Json.nullable (Json.elements InvalidParam.fromJson) invalidParams
    pure ⟨type, title, .ofNat status, detail, instanceUri, invalidParams⟩
  | _ => none

/-- Absent and present but empty optional fields are told apart. -/
theorem fromJson_toJson (problem : ProblemDetails) : fromJson problem.toJson = some problem := by
  obtain ⟨type, title, status, detail, instanceUri, invalidParams⟩ := problem
  have bound : status.toNat < 2 ^ 16 := status.toNat_lt
  have params := Json.elements_map InvalidParam.fromJson_toJson
  cases instanceUri <;> cases invalidParams <;>
    simp [fromJson, toJson, Json.required, Json.optional, Json.field, Json.asString,
      Json.asUnsigned_of_lt bound, params]

/-- The serializer never fails on these fields, and every status and header below
is a valid one, so the source's plain-text and builder fallbacks are not reached. -/
def intoResponse (problem : ProblemDetails) : Response :=
  { status := (StatusCode.fromU16 problem.status).getD .INTERNAL_SERVER_ERROR
    headers := HeaderMap.empty.append "content-type" (HeaderValue.ofString "application/problem+json")
    body := .json problem.toJson }

end ProblemDetails

/-- A response is a problem document about its own status. -/
structure IsProblem (response : Response) : Prop where
  contentType : response.headers.getAll "content-type" =
    [HeaderValue.ofString "application/problem+json"]
  document : ∃ fields problem, response.body = .json (.obj fields) ∧
    ProblemDetails.fromJson (.obj fields) = some problem ∧ problem.status = response.status.asU16

theorem ProblemDetails.intoResponse_isProblem {problem : ProblemDetails} {status : StatusCode}
    (valid : problem.status = status.asU16) :
    problem.intoResponse.status = status ∧ IsProblem problem.intoResponse := by
  have same : problem.intoResponse.status = status := by
    simp [intoResponse, valid]
  refine ⟨same, ⟨by simp [intoResponse], ?_⟩⟩
  rw [same]
  exact ⟨_, problem, rfl, problem.fromJson_toJson, valid⟩

/-! ## Errors of the database driver -/

structure DatabaseError where
  code : String
  message : String
  deriving DecidableEq, Repr

def DatabaseError.isUniqueViolation (error : DatabaseError) : Bool := error.code = "23505"

/-- `sqlx::Error`; errors of the driver itself are kept by their text. -/
inductive SqlxError where
  | database (error : DatabaseError)
  | rowNotFound
  | other (display : String)
  deriving DecidableEq, Repr

def SqlxError.toString : SqlxError → String
  | .database error => "error returned from database: " ++ error.message
  | .rowNotFound => "no rows returned by a query that expected to return at least one row"
  | .other display => display

/-! ## Errors of the application -/

inductive AppError where
  | badRequest (detail : String)
  | validationError (detail : String)
  | validationFailed (detail : String) (invalidParams : List InvalidParam)
  | unauthorized (detail : String)
  | forbidden (detail : String)
  | notFound (detail : String)
  | methodNotAllowed (detail : String)
  | conflict (detail : String)
  | unprocessableEntity (detail : String)
  | database (error : SqlxError)
  | internal (reason : String)
  | serviceUnavailable (detail : String)

def isUniqueViolation : SqlxError → Bool
  | .database error =>
    error.isUniqueViolation || error.code = "23505" ||
      Text.contains (Text.lowercase error.message) "unique" ||
      Text.contains (Text.lowercase error.message) "duplicate"
  | error =>
    let text := Text.lowercase error.toString
    Text.contains text "unique constraint" || Text.contains text "duplicate key"

namespace AppError

def problem : AppError → ProblemDetails
  | .badRequest detail => .badRequest detail
  | .validationError detail =>
    (ProblemDetails.new .BAD_REQUEST "Validation Error" detail).withType
      "urn:problem-type:validation-error"
  | .validationFailed detail invalidParams =>
    ((ProblemDetails.new .BAD_REQUEST "Validation Error" detail).withType
      "urn:problem-type:validation-error").withInvalidParams invalidParams
  | .unauthorized detail => .unauthorized detail
  | .forbidden detail => .forbidden detail
  | .notFound detail => .notFound detail
  | .methodNotAllowed detail => .methodNotAllowed detail
  | .conflict detail => .conflict detail
  | .unprocessableEntity detail => .unprocessableEntity detail
  | .database error =>
    if isUniqueViolation error then
      .conflict "A record with the given identifier or data already exists."
    else .internalServerError
  | .internal _ => .internalServerError
  | .serviceUnavailable detail => .serviceUnavailable detail

def intoResponse (error : AppError) : Response := error.problem.intoResponse

def status : AppError → StatusCode
  | .badRequest _ | .validationError _ | .validationFailed _ _ => .BAD_REQUEST
  | .unauthorized _ => .UNAUTHORIZED
  | .forbidden _ => .FORBIDDEN
  | .notFound _ => .NOT_FOUND
  | .methodNotAllowed _ => .METHOD_NOT_ALLOWED
  | .conflict _ => .CONFLICT
  | .unprocessableEntity _ => .UNPROCESSABLE_ENTITY
  | .database error => if isUniqueViolation error then .CONFLICT else .INTERNAL_SERVER_ERROR
  | .internal _ => .INTERNAL_SERVER_ERROR
  | .serviceUnavailable _ => .SERVICE_UNAVAILABLE

theorem problem_status (error : AppError) : error.problem.status = error.status.asU16 := by
  cases error with
  | database error =>
    simp only [problem, status]
    split <;> rfl
  | _ => rfl

theorem status_isError (error : AppError) : error.status.isError := by
  cases error with
  | database error =>
    simp only [status]
    split <;> decide
  | _ =>
    simp only [status]
    decide

@[simp] theorem intoResponse_status (error : AppError) : error.intoResponse.status = error.status :=
  (ProblemDetails.intoResponse_isProblem error.problem_status).1

theorem intoResponse_isError (error : AppError) : error.intoResponse.status.isError := by
  rw [intoResponse_status]
  exact error.status_isError

theorem intoResponse_isProblem (error : AppError) : IsProblem error.intoResponse :=
  (ProblemDetails.intoResponse_isProblem error.problem_status).2

theorem database_status (error : SqlxError) : (AppError.database error).status = .CONFLICT ∨
    (AppError.database error).status = .INTERNAL_SERVER_ERROR := by
  by_cases conflict : isUniqueViolation error = true
  · exact .inl (if_pos conflict)
  · exact .inr (if_neg conflict)

/-- `From<JsonRejection>`, on the text of the rejection. -/
def fromJsonRejection (bodyText : String) : AppError :=
  .badRequest ("Failed to parse request JSON: " ++ bodyText)

/-- `From<PathRejection>`, on the text of the rejection. -/
def fromPathRejection (bodyText : String) : AppError :=
  .badRequest ("Failed to parse URL path parameter: " ++ bodyText)

end AppError

end TemplateServico
