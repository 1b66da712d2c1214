import TemplateServico.Error
import TemplateServico.State

/-! The middleware that lets a request through only with a valid token. -/

set_option autoImplicit false

namespace TemplateServico

open Http Interaction Jsonwebtoken

/-- The `Authorization` header after its scheme, which has to be spelled as here. -/
def extractBearerToken (request : Request) : Option String := do
  let authHeader ← request.headers.get "authorization"
  let authStr ← HeaderValue.toStr authHeader
  Text.stripPrefix "Bearer " authStr

-- The checks that the middleware asks the library for, with the algorithm the
-- token itself names.
def validation (config : AppConfig) (alg : Algorithm) : Validation :=
  let validation := Validation.new alg
  let validation := match config.jwtIssuer with
    | some iss => validation.setIssuer [iss]
    | none => validation
  match config.jwtAudience with
  | some aud => validation.setAudience [aud]
  | none => validation

def runNext (next : Request → ServiceProgram Response) (request : Request) : ServiceProgram Response :=
  .call (.pass .nextRun) fun _ => next request

def jwtAuthMiddleware (lib : Library) (state : AppState) (request : Request)
    (next : Request → ServiceProgram Response) : ServiceProgram Response :=
  match state.jwksCache with
  | none => runNext next request
  | some cache =>
    match extractBearerToken request with
    | none =>
      .done (ProblemDetails.unauthorized
        "Missing or malformed Authorization header. Expected: 'Bearer <token>'.").intoResponse
    | some token =>
      match lib.decodeHeader token with
      | .error _ => .done (ProblemDetails.unauthorized "Invalid JWT token format.").intoResponse
      | .ok header => do
        match ← (getDecodingKey lib cache header.kid).inject jwksEmbedding with
        | .error _ =>
          .done (ProblemDetails.unauthorized
            "Unable to retrieve token validation key. Please try again.").intoResponse
        | .ok key =>
          -- The library reads the clock while it decodes.
          .call .clock fun now =>
            match lib.decode token key (validation state.config header.alg) now with
            | .ok _ => runNext next request
            | .error _ =>
              .done (ProblemDetails.unauthorized "Invalid or expired token.").intoResponse

/-- A request with a token that the library decodes, with a key from a document, at a time. -/
def Accepts (lib : Library) (config : AppConfig) (request : Request) (json : String) (now : Nat) : Prop :=
  ∃ token header key claims, extractBearerToken request = some token ∧
    lib.decodeHeader token = .ok header ∧ selectKey lib json header.kid = .ok key ∧
    lib.decode token key (validation config header.alg) now = .ok claims

def Admits (lib : Library) (config : AppConfig) (request : Request) (json : String) (now : Nat) : Prop :=
  ∃ token header key payload claims, extractBearerToken request = some token ∧
    selectKey lib json header.kid = .ok key ∧
    lib.Decoded token key (validation config header.alg) now header payload claims

theorem accepts_iff_admits {lib : Library} (documented : lib.Documented) {config : AppConfig}
    {request : Request} {json : String} {now : Nat} :
    Accepts lib config request json now ↔ Admits lib config request json now := by
  constructor
  · intro ⟨token, header, key, claims, bearer, headerRead, selected, decoded⟩
    obtain ⟨header', payload, valid⟩ := documented.decode_ok.mp decoded
    have same : header' = header := Except.ok.inj (valid.headerRead.symm.trans headerRead)
    rw [same] at valid
    exact ⟨token, header, key, payload, claims, bearer, selected, valid⟩
  · intro ⟨token, header, key, payload, claims, bearer, selected, valid⟩
    exact ⟨token, header, key, claims, bearer, valid.headerRead, selected,
      documented.decode_ok.mpr ⟨header, payload, valid⟩⟩

def Refusal (response : Response) : Prop :=
  ∃ detail, response = (ProblemDetails.unauthorized detail).intoResponse

theorem Refusal.problem {response : Response} (refusal : Refusal response) :
    response.status = .UNAUTHORIZED ∧ IsProblem response := by
  obtain ⟨detail, same⟩ := refusal
  have valid : (ProblemDetails.unauthorized detail).status = StatusCode.UNAUTHORIZED.asU16 := rfl
  rw [same]
  exact ProblemDetails.intoResponse_isProblem valid

def Deciding (op : ServiceOp) : Prop := (∃ inner, op = .jwks inner) ∨ op = .clock

section Effects

variable {lib : Library} {state : AppState} {cache : JwksCache} {request : Request}
  {next : Request → ServiceProgram Response}

theorem deciding_event (events : List (Event (jwksInterface String))) :
    ∀ event ∈ events.map jwksEmbedding.event, Deciding event.1 := by
  intro event member
  obtain ⟨inner, _, same⟩ := List.mem_map.mp member
  rw [← same]
  exact .inl ⟨inner.1, rfl⟩

/-- A run of the middleware either lets the request through, after it got a
document for which the token is valid, or is about to refuse it. -/
theorem jwtAuthMiddleware_cases (enabled : state.jwksCache = some cache)
    {history : List (Event serviceInterface)} {rest : ServiceProgram Response}
    (reached : (jwtAuthMiddleware lib state request next).Reaches history rest) :
    (∃ asked json now later,
      history = asked.map jwksEmbedding.event ++ ⟨.clock, now⟩ :: passed .nextRun :: later ∧
      (getJwksJson cache).Reaches asked (.done (.ok json)) ∧
      Accepts lib state.config request json now ∧ (next request).Reaches later rest) ∨
    ((∀ event ∈ history, Deciding event.1) ∧ ∀ response, rest = .done response → Refusal response) := by
  have refuse : ∀ detail {history : List (Event serviceInterface)} {rest : ServiceProgram Response},
      Program.Reaches (.done (ProblemDetails.unauthorized detail).intoResponse) history rest →
      history = [] ∧ ∀ response, rest = .done response → Refusal response := by
    intro detail history rest reached
    obtain ⟨empty, same⟩ := Program.reaches_done.mp reached
    refine ⟨empty, fun response finished => ⟨detail, ?_⟩⟩
    exact (Program.done.inj (same.symm.trans finished)).symm
  unfold jwtAuthMiddleware at reached
  rw [enabled] at reached
  dsimp only at reached
  cases bearer : extractBearerToken request with
  | none =>
    rw [bearer] at reached
    obtain ⟨empty, refused⟩ := refuse _ reached
    exact .inr ⟨by simp [empty], refused⟩
  | some token =>
  rw [bearer] at reached
  dsimp only at reached
  cases headerRead : lib.decodeHeader token with
  | error reason =>
    rw [headerRead] at reached
    obtain ⟨empty, refused⟩ := refuse _ reached
    exact .inr ⟨by simp [empty], refused⟩
  | ok header =>
  rw [headerRead] at reached
  dsimp only at reached
  rcases Program.reaches_bind.mp reached with
    ⟨op, waiting, asking, same⟩ | ⟨first, second, found, split, asking, reached⟩
  · -- Still waiting for the key.
    obtain ⟨asked, _, split, _⟩ := Program.reaches_inject asking
    refine .inr ⟨split ▸ deciding_event asked, ?_⟩
    rw [same]
    nofun
  obtain ⟨asked, looked, split', lookup, finished⟩ := Program.reaches_inject asking
  rw [Program.inject_done finished.symm] at lookup
  rw [split'] at split
  obtain ⟨document, fetched, result⟩ := getDecodingKey_complete lookup
  have asks := deciding_event asked
  cases found with
  | error reason =>
    obtain ⟨empty, refused⟩ := refuse _ reached
    rw [empty, List.append_nil] at split
    exact .inr ⟨split ▸ asks, refused⟩
  | ok key =>
  rcases Program.reaches_call.mp reached with ⟨empty, same⟩ | ⟨now, later, split', reached⟩
  · rw [empty, List.append_nil] at split
    refine .inr ⟨split ▸ asks, ?_⟩
    rw [same]
    nofun
  have decides : ∀ event ∈ asked.map jwksEmbedding.event ++ [⟨.clock, now⟩], Deciding event.1 := by
    intro event member
    rcases List.mem_append.mp member with earlier | clock
    · exact asks event earlier
    · rw [List.mem_singleton.mp clock]
      exact .inr rfl
  cases decoded : lib.decode token key (validation state.config header.alg) now with
  | error reason =>
    rw [decoded] at reached
    obtain ⟨empty, refused⟩ := refuse _ reached
    rw [split', empty] at split
    exact .inr ⟨split ▸ decides, refused⟩
  | ok claims =>
  rw [decoded] at reached
  rcases Program.reaches_call.mp reached with ⟨empty, same⟩ | ⟨_, events, split'', onward⟩
  · rw [split', empty] at split
    refine .inr ⟨split ▸ decides, ?_⟩
    rw [same]
    nofun
  rw [split', split''] at split
  cases document with
  | error reason => cases result
  | ok json =>
    exact .inl ⟨asked, json, now, events, split, fetched,
      ⟨token, header, key, claims, bearer, headerRead, result.symm, decoded⟩, onward⟩

theorem jwtAuthMiddleware_performs {allowed : ServiceOp → Prop} (deciding : ∀ op, Deciding op → allowed op)
    (mark : allowed (.pass .nextRun)) (inner : (next request).Performs allowed) :
    (jwtAuthMiddleware lib state request next).Performs allowed := by
  unfold jwtAuthMiddleware
  cases state.jwksCache with
  | none => exact ⟨mark, fun _ => inner⟩
  | some cache =>
  dsimp only
  cases extractBearerToken request with
  | none => trivial
  | some token =>
  dsimp only
  cases lib.decodeHeader token with
  | error reason => trivial
  | ok header =>
  apply Program.performs_bind
  · exact Program.performs_inject (fun op => deciding _ (.inl ⟨op, rfl⟩)) _
  · intro found
    cases found with
    | error reason => trivial
    | ok key =>
      refine ⟨deciding _ (.inr rfl), fun now => ?_⟩
      dsimp only
      cases lib.decode token key (validation state.config header.alg) now with
      | error reason => trivial
      | ok claims => exact ⟨mark, fun _ => inner⟩

theorem jwtAuthMiddleware_returns {wanted : Response → Prop} (refused : ∀ response, Refusal response → wanted response)
    (inner : (next request).Returns wanted) :
    (jwtAuthMiddleware lib state request next).Returns wanted := by
  unfold jwtAuthMiddleware
  cases state.jwksCache with
  | none => exact fun _ => inner
  | some cache =>
  dsimp only
  cases extractBearerToken request with
  | none => exact refused _ ⟨_, rfl⟩
  | some token =>
  dsimp only
  cases lib.decodeHeader token with
  | error reason => exact refused _ ⟨_, rfl⟩
  | ok header =>
  apply Program.returns_bind (Program.returns_trivial _)
  intro found _
  cases found with
  | error reason => exact refused _ ⟨_, rfl⟩
  | ok key =>
    intro now
    dsimp only
    cases lib.decode token key (validation state.config header.alg) now with
    | error reason => exact refused _ ⟨_, rfl⟩
    | ok claims => exact fun _ => inner

theorem jwtAuthMiddleware_next
    {history : List (Event serviceInterface)} {rest : ServiceProgram Response}
    (reached : (jwtAuthMiddleware lib state request next).Reaches history rest) :
    (∃ before later, history = before ++ passed .nextRun :: later ∧ (∀ event ∈ before, Deciding event.1) ∧
      (next request).Reaches later rest) ∨
    ((∀ event ∈ history, Deciding event.1) ∧ ∀ response, rest = .done response → Refusal response) := by
  cases enabled : state.jwksCache with
  | some cache =>
    rcases jwtAuthMiddleware_cases enabled reached with
      ⟨asked, json, now, later, split, _, _, onward⟩ | refused
    · left
      refine ⟨asked.map jwksEmbedding.event ++ [⟨.clock, now⟩], later, by simp [split], ?_, onward⟩
      intro event member
      rcases List.mem_append.mp member with earlier | clock
      · exact deciding_event asked event earlier
      · rw [List.mem_singleton.mp clock]
        exact .inr rfl
    · exact .inr refused
  | none =>
    unfold jwtAuthMiddleware at reached
    rw [enabled] at reached
    rcases Program.reaches_call.mp reached with ⟨empty, same⟩ | ⟨_, later, split, onward⟩
    · right
      rw [empty, same]
      exact ⟨by simp, by nofun⟩
    · exact .inl ⟨[], later, split, by simp, onward⟩

/-- The document a lookup gets when requests have fixed answers. -/
def documentOf (cache : JwksCache) (answer : (op : ServiceOp) → op.Reply) : Except String String :=
  (getJwksJson cache).eval fun op => answer (.jwks op)

theorem nextRun_of_accepts (enabled : state.jwksCache = some cache)
    {answer : (op : ServiceOp) → op.Reply} {json : String} (document : documentOf cache answer = .ok json)
    (accepts : Accepts lib state.config request json (answer .clock)) :
    passed .nextRun ∈ (jwtAuthMiddleware lib state request next).trace answer := by
  obtain ⟨token, header, key, claims, bearer, headerRead, selected, decoded⟩ := accepts
  have lookup : ((getDecodingKey lib cache header.kid).inject jwksEmbedding).eval answer = .ok key := by
    rw [Program.eval_inject]
    exact (getDecodingKey_eval document).trans selected
  unfold jwtAuthMiddleware
  rw [enabled]
  dsimp only
  rw [bearer]
  dsimp only
  rw [headerRead]
  dsimp only
  rw [Program.trace_bind, lookup, List.mem_append]
  right
  dsimp only
  rw [Program.trace, decoded]
  exact List.mem_cons_of_mem _ List.mem_cons_self

/-- With fixed answers, a request is let through exactly when its token is valid
for the document that the lookup gets. -/
theorem nextRun_iff (documented : lib.Documented) (enabled : state.jwksCache = some cache)
    (answer : (op : ServiceOp) → op.Reply) :
    passed .nextRun ∈ (jwtAuthMiddleware lib state request next).trace answer ↔
      ∃ json, documentOf cache answer = .ok json ∧ Admits lib state.config request json (answer .clock) := by
  constructor
  · intro reached
    rcases jwtAuthMiddleware_cases enabled (Program.reaches_trace answer _) with
      ⟨asked, json, now, later, split, fetched, accepts, _⟩ | ⟨decides, _⟩
    · have answered : ∀ event ∈ asked.map jwksEmbedding.event ++ ⟨.clock, now⟩ :: passed .nextRun :: later,
          event = ⟨event.1, answer event.1⟩ := by
        rw [← split]
        exact fun event member => Program.mem_trace member
      have clock := answered ⟨.clock, now⟩ (by simp)
      simp only [Sigma.mk.injEq, heq_eq_eq, true_and] at clock
      refine ⟨json, ?_, clock ▸ (accepts_iff_admits documented).mp accepts⟩
      apply fetched.eval_eq
      intro event member
      have same := answered (jwksEmbedding.event event)
        (List.mem_append_left _ (List.mem_map_of_mem member))
      obtain ⟨op, reply⟩ := event
      simp only [Embedding.event, jwksEmbedding, Sigma.mk.injEq, heq_eq_eq, true_and] at same
      rw [same]
    · rcases decides _ reached with ⟨_, same⟩ | same
      · cases same
      · cases same
  · intro admitted
    obtain ⟨json, document, admits⟩ := admitted
    exact nextRun_of_accepts enabled document ((accepts_iff_admits documented).mpr admits)

end Effects

end TemplateServico
