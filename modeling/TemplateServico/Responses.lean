import TemplateServico.Routes

/-! What every response of the router looks like.

A response that is made outside the security headers, or without a problem
document, stays so: the timeout and the answer to a method without a handler
are the two places where that happens.
-/

set_option autoImplicit false

namespace TemplateServico

open Http Interaction

section Runs

variable {libs : Libraries} {state : AppState} {service : Request → ServiceProgram Response}
  {request : Request} {history : List (Event serviceInterface)} {response : Response}

/-! ## Security headers -/

theorem allow_not_secured : ∀ entry ∈ securityHeaders, entry.1 ≠ "allow" := by decide

theorem secured_finish (own : Response) : Secured (finish request (secure own)) := by
  intro entry member
  rw [getAll_finish (allow_not_secured entry member)]
  exact secured_secure own entry member

theorem timeout_not_secured : ¬ Secured (finish request requestTimeout) := by
  intro secured
  have present := secured ("x-frame-options", HeaderValue.ofString "DENY") (by simp [securityHeaders])
  rw [getAll_finish (by decide)] at present
  cases present

/-- A response of the router carries the security headers exactly when it was not
made because the time had run out. -/
theorem secured_iff_onTime (built : createRouter libs state = some service)
    (reached : (service request).Reaches history (.done response)) :
    Secured response ↔ ¬ TimedOut history := by
  obtain ⟨cors, inner, _, _, outcome⟩ := createRouter_runs built reached
  rcases outcome with ⟨onTime, ended⟩ | ⟨timedOut, dropped, _⟩
  · obtain ⟨own, _, delivered⟩ := ended response rfl
    rw [delivered]
    exact iff_of_true (secured_finish own) onTime
  · rw [Program.done.inj dropped]
    exact iff_of_false timeout_not_secured (not_not_intro timedOut)

/-! ## Problem documents -/

theorem isProblem_deliver {cors : CorsLayer} {own : Response} (notHead : request.method ≠ .head) :
    IsProblem (deliver cors request own) ↔ IsProblem own := by
  constructor
  · intro ⟨contentType, document⟩
    rw [deliver_contentType] at contentType
    rw [deliver_body notHead, deliver_status] at document
    exact ⟨contentType, document⟩
  · intro ⟨contentType, document⟩
    refine ⟨deliver_contentType.trans contentType, ?_⟩
    rw [deliver_body notHead, deliver_status]
    exact document

theorem requestTimeout_no_problem : ¬ IsProblem (finish request requestTimeout) := by
  intro problem
  have contentType := problem.contentType
  rw [getAll_finish (by decide)] at contentType
  cases contentType

theorem methodNotAllowed_no_problem : ¬ IsProblem methodNotAllowed := by
  intro problem
  cases problem.contentType

theorem handled_problem {result : Handlers.AppResult (StatusCode × Json)} (sound : Handlers.Sound result)
    (isError : (Handlers.intoResponse result).status.isError) : IsProblem (Handlers.intoResponse result) := by
  cases result with
  | error error => exact error.intoResponse_isProblem
  | ok value =>
    obtain ⟨status, document⟩ := value
    change status.isError at isError
    rcases sound status document rfl with same | same
    · rw [same] at isError
      exact absurd isError (by decide)
    · rw [same] at isError
      exact absurd isError (by decide)

/-- The request arrives at a known path with a method that has no handler there:
it is no preflight request, and if the path is protected it was let through. -/
structure Unhandled (request : Request) (history : List (Event serviceInterface)) : Prop where
  notPreflight : request.method ≠ .options
  unsupported : ∃ route, Route.find request.uri.path = some route ∧ route.endpoint request.method = none ∧
    (route.isProtected = true → passed .nextRun ∈ history)

theorem serve_problem {route : Route} (notDocs : route ≠ .documentation)
    {own : Response} (reached : (route.serve libs request).Reaches history (.done own)) :
    (route.endpoint request.method = none ∧ own = methodNotAllowed) ∨
    (route.endpoint request.method ≠ none ∧ (own.status.isError → IsProblem own)) := by
  unfold Route.serve at reached
  cases served : route.endpoint request.method with
  | none =>
    rw [served] at reached
    exact .inl ⟨rfl, Program.done.inj (Program.reaches_done.mp reached).2⟩
  | some endpoint =>
    rw [served] at reached
    have undocumented : endpoint ≠ .documentation := by
      intro same
      rw [same] at served
      unfold Route.endpoint at served
      split at served <;> cases served <;> exact notDocs rfl
    refine .inr ⟨nofun, ?_⟩
    apply reached.returns
    apply Endpoint.serve_returns
    · intro result sound
      exact handled_problem sound
    · intro same
      exact absurd same undocumented
    · intro text isError
      exact absurd isError StatusCode.ok_not_error

theorem routes_problem (notPreflight : request.method ≠ .options)
    (notDocs : Route.find request.uri.path ≠ some .documentation) {own : Response}
    (reached : (routes libs state request).Reaches history (.done own)) :
    (Unhandled request history ∧ own = methodNotAllowed) ∨
    (¬ Unhandled request history ∧ (own.status.isError → IsProblem own)) := by
  unfold routes at reached
  cases found : Route.find request.uri.path with
  | none =>
    right
    rw [found] at reached
    constructor
    · intro ⟨_, route, known, _⟩
      rw [found] at known
      cases known
    · intro _
      rw [Program.done.inj (Program.reaches_done.mp reached).2]
      exact (ProblemDetails.intoResponse_isProblem (by rfl : _ = StatusCode.NOT_FOUND.asU16)).2
  | some route =>
  rw [found] at reached
  have documented : route ≠ .documentation := by
    intro same
    exact notDocs (found.trans (congrArg some same))
  have handledWell (handled : route.endpoint request.method ≠ none) : ¬ Unhandled request history := by
    intro ⟨_, other, known, unsupported, _⟩
    rw [found, Option.some.injEq] at known
    rw [← known] at unsupported
    exact handled unsupported
  dsimp only at reached
  split at reached
  next guarded =>
    rcases jwtAuthMiddleware_next reached with ⟨before, later, split, _, onward⟩ | ⟨decides, refused⟩
    · rcases serve_problem documented onward with ⟨unsupported, same⟩ | ⟨handled, problem⟩
      · have letThrough : passed .nextRun ∈ history := by simp [split]
        exact .inl ⟨⟨notPreflight, route, found, unsupported, fun _ => letThrough⟩, same⟩
      · exact .inr ⟨handledWell handled, problem⟩
    · right
      refine ⟨?_, fun _ => (refused own rfl).problem.2⟩
      intro ⟨_, other, known, _, passes⟩
      rw [found, Option.some.injEq] at known
      rw [← known] at passes
      rcases decides _ (passes guarded) with ⟨_, same⟩ | same
      · cases same
      · cases same
  next unguarded =>
    rcases serve_problem documented reached with ⟨unsupported, same⟩ | ⟨handled, problem⟩
    · exact .inl ⟨⟨notPreflight, route, found, unsupported, fun guarded => absurd guarded unguarded⟩, same⟩
    · exact .inr ⟨handledWell handled, problem⟩

/-- Errors are problem documents exactly when neither the time ran out nor an
unsupported method got through to a known path. -/
theorem errors_are_problems_iff (built : createRouter libs state = some service)
    (notHead : request.method ≠ .head) (notDocs : Route.find request.uri.path ≠ some .documentation)
    (reached : (service request).Reaches history (.done response)) :
    (response.status.isError → IsProblem response) ↔ ¬ TimedOut history ∧ ¬ Unhandled request history := by
  by_cases notPreflight : request.method = .options
  · -- The CORS layer answers at once, with success.
    obtain ⟨cors, inner, _, layer, outcome⟩ := createRouter_runs built reached
    unfold CorsLayer.layer at layer
    rw [if_pos notPreflight] at layer
    have answered := (Program.reaches_done.mp layer).2
    rcases outcome with ⟨onTime, ended⟩ | ⟨_, _, op, next, waiting, _⟩
    · obtain ⟨own, same, delivered⟩ := ended response rfl
      have succeeded : ¬ response.status.isError := by
        rw [delivered, finish_status, secure_status, ← Program.done.inj (answered.symm.trans same),
          CorsLayer.preflight_status]
        exact StatusCode.ok_not_error
      exact iff_of_true (fun isError => absurd isError succeeded)
        ⟨onTime, fun unhandled => unhandled.notPreflight notPreflight⟩
    · rw [answered] at waiting
      cases waiting
  obtain ⟨cors, inner, _, followed, outcome⟩ := createRouter_routes built notPreflight reached
  rcases outcome with ⟨onTime, ended⟩ | ⟨timedOut, dropped, _⟩
  · obtain ⟨own, same, delivered⟩ := ended response rfl
    rw [same] at followed
    rw [delivered, isProblem_deliver notHead, deliver_status]
    have sameUnhandled : Unhandled request (untimed history) ↔ Unhandled request history := by
      have seen : passed .nextRun ∈ untimed history ↔ passed .nextRun ∈ history :=
        mem_untimed (by nofun)
      constructor
      · intro ⟨notPreflight, route, found, unsupported, passes⟩
        exact ⟨notPreflight, route, found, unsupported, fun guarded => seen.mp (passes guarded)⟩
      · intro ⟨notPreflight, route, found, unsupported, passes⟩
        exact ⟨notPreflight, route, found, unsupported, fun guarded => seen.mpr (passes guarded)⟩
    rcases routes_problem notPreflight notDocs followed with ⟨unhandled, same⟩ | ⟨handled, problem⟩
    · rw [same]
      refine iff_of_false ?_ fun good => good.2 (sameUnhandled.mp unhandled)
      intro problem
      exact methodNotAllowed_no_problem (problem (by decide))
    · exact iff_of_true problem ⟨onTime, fun unhandled => handled (sameUnhandled.mpr unhandled)⟩
  · rw [Program.done.inj dropped]
    refine iff_of_false ?_ fun good => good.1 timedOut
    intro problem
    exact requestTimeout_no_problem (problem (by rw [finish_status]; decide))

end Runs

theorem timeout_unsecured : ∃ history response,
    (exampleService (plainRequest .get "/health")).Reaches history (.done response) ∧ ¬ Secured response := by
  obtain ⟨response, reached, unsecured⟩ := Program.reaches_of_replay
    (exampleService (plainRequest .get "/health")) [passed .healthCheck, ⟨.deadline, true⟩]
    (fun response => !decide (Secured response)) (by decide)
  exact ⟨_, response, reached, by simpa using unsecured⟩

theorem fallback_secured : ∃ response,
    (exampleService (plainRequest .get "/nope")).Reaches [] (.done response) ∧ Secured response := by
  obtain ⟨response, reached, _⟩ := Program.reaches_of_replay
    (exampleService (plainRequest .get "/nope")) [] (fun _ => true) (by decide)
  have onTime : ¬ TimedOut [] := by
    intro ⟨_, member, _⟩
    cases member
  exact ⟨response, reached, (secured_iff_onTime exampleService_built reached).mpr onTime⟩

/-- A known path without the token check, asked with a method that it does not have. -/
theorem delete_health_no_problem : ∃ response,
    (exampleService (plainRequest .delete "/health")).Reaches [] (.done response) ∧
    ¬ (response.status.isError → IsProblem response) := by
  have same : exampleService (plainRequest .delete "/health") =
      .done (deliver .permissive (plainRequest .delete "/health") methodNotAllowed) := rfl
  rw [same]
  refine ⟨_, .start _, ?_⟩
  intro problem
  apply methodNotAllowed_no_problem
  exact (isProblem_deliver (by decide)).mp (problem (by rw [deliver_status]; decide))

theorem fallback_is_problem : ∃ response,
    (exampleService (plainRequest .get "/nope")).Reaches [] (.done response) ∧
    (response.status.isError → IsProblem response) := by
  obtain ⟨response, reached, _⟩ := Program.reaches_of_replay
    (exampleService (plainRequest .get "/nope")) [] (fun _ => true) (by decide)
  refine ⟨response, reached, (errors_are_problems_iff exampleService_built (by decide) (by decide) reached).mpr ?_⟩
  constructor
  · intro ⟨_, member, _⟩
    cases member
  · intro ⟨_, route, known, _⟩
    have unknown : Route.find "/nope" = none := by decide
    cases unknown.symm.trans known

end TemplateServico
