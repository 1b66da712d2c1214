import TemplateServico.Error
import TemplateServico.Overwrite

/-! Problem documents as the code builds them, and what of them arrives at the client. -/

set_option autoImplicit false

namespace TemplateServico

open Http

/-- How a problem document is begun. -/
inductive Constructor where
  | new (status : StatusCode) (title detail : String)
  | badRequest (detail : String)
  | unauthorized (detail : String)
  | forbidden (detail : String)
  | notFound (detail : String)
  | methodNotAllowed (detail : String)
  | conflict (detail : String)
  | unprocessableEntity (detail : String)
  | internalServerError
  | serviceUnavailable (detail : String)
  deriving DecidableEq

def Constructor.build : Constructor → ProblemDetails
  | .new status title detail => .new status title detail
  | .badRequest detail => .badRequest detail
  | .unauthorized detail => .unauthorized detail
  | .forbidden detail => .forbidden detail
  | .notFound detail => .notFound detail
  | .methodNotAllowed detail => .methodNotAllowed detail
  | .conflict detail => .conflict detail
  | .unprocessableEntity detail => .unprocessableEntity detail
  | .internalServerError => .internalServerError
  | .serviceUnavailable detail => .serviceUnavailable detail

/-- A call of one of the `with_*` methods. -/
inductive Setter where
  | withType (type : String)
  | withInstance (uri : String)
  | withInvalidParams (invalidParams : List InvalidParam)
  deriving DecidableEq, Repr

namespace Setter

inductive Method where
  | withType | withInstance | withInvalidParams
  deriving DecidableEq, Repr

def method : Setter → Method
  | .withType _ => .withType
  | .withInstance _ => .withInstance
  | .withInvalidParams _ => .withInvalidParams

def apply (problem : ProblemDetails) : Setter → ProblemDetails
  | .withType type => problem.withType type
  | .withInstance uri => problem.withInstance uri
  | .withInvalidParams invalidParams => problem.withInvalidParams invalidParams

theorem overwrites : Overwrite.Law apply method where
  overwrite problem first second same := by
    cases first <;> cases second <;> first | rfl | cases same
  commute problem first second different := by
    cases first <;> cases second <;> first | rfl | exact absurd rfl different

@[simp] theorem apply_status (problem : ProblemDetails) (call : Setter) :
    (apply problem call).status = problem.status := by
  cases call <;> rfl

end Setter

/-- A constructor and the calls that follow it. -/
def chain (start : Constructor) (calls : List Setter) : ProblemDetails := calls.foldl Setter.apply start.build

theorem Constructor.build_status (start : Constructor) : ∃ status : StatusCode, start.build.status = status.asU16 := by
  cases start with
  | new status title detail => exact ⟨status, rfl⟩
  | _ => exact ⟨_, rfl⟩

theorem foldl_status (problem : ProblemDetails) (calls : List Setter) :
    (calls.foldl Setter.apply problem).status = problem.status := by
  induction calls generalizing problem with
  | nil => rfl
  | cons call rest ih => rw [List.foldl_cons, ih, Setter.apply_status]

theorem chain_status (start : Constructor) (calls : List Setter) :
    ∃ status : StatusCode, (chain start calls).status = status.asU16 := by
  unfold chain
  rw [foldl_status]
  exact start.build_status

theorem status_toJson (problem : ProblemDetails) : ∃ fields, problem.toJson = .obj fields ∧
    Json.required (Json.asUnsigned 16) "status" fields = some problem.status.toNat := by
  have bound : problem.status.toNat < 2 ^ 16 := problem.status.toNat_lt
  refine ⟨_, rfl, ?_⟩
  cases problem.instanceUri <;> cases problem.invalidParams <;>
    simp [Json.required, Json.field, Json.asUnsigned_of_lt bound]

/-- A document that was built by any chain of calls is sent with its own status, is
read back as it was, and depends only on the last call of each method. -/
theorem documents_survive (start : Constructor) (calls : List Setter) :
    (∃ fields, (chain start calls).intoResponse.body = .json (.obj fields) ∧
      Json.required (Json.asUnsigned 16) "status" fields =
        some (chain start calls).intoResponse.status.asU16.toNat ∧
      (chain start calls).intoResponse.headers.getAll "content-type" =
        [HeaderValue.ofString "application/problem+json"] ∧
      ProblemDetails.fromJson (.obj fields) = some (chain start calls)) ∧
    ∀ kept, kept.Perm (Overwrite.lasts Setter.method calls) → chain start calls = chain start kept := by
  constructor
  · obtain ⟨status, valid⟩ := chain_status start calls
    obtain ⟨sent, isProblem⟩ := ProblemDetails.intoResponse_isProblem valid
    obtain ⟨fields, document, written⟩ := status_toJson (chain start calls)
    refine ⟨fields, congrArg Body.json document, ?_, isProblem.contentType, ?_⟩
    · rw [written, sent, valid]
    · rw [← document, ProblemDetails.fromJson_toJson]
  · intro kept perm
    exact (Setter.overwrites.foldl_perm perm start.build).symm

end TemplateServico
