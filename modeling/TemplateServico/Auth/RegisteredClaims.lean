import TemplateServico.Auth.Middleware

/-! The issuer and the audience of the tokens that are let through.

The library compares a claim with the configured value only where the claim is
there, and refuses every audience where none is configured.
-/

set_option autoImplicit false

namespace TemplateServico

open Http Interaction Jsonwebtoken

section Validation

variable (config : AppConfig) (alg : Algorithm)

@[simp] theorem validation_iss : (validation config alg).iss = config.jwtIssuer.map (fun iss => [iss]) := by
  unfold validation
  cases config.jwtIssuer <;> cases config.jwtAudience <;> rfl

@[simp] theorem validation_aud : (validation config alg).aud = config.jwtAudience.map (fun aud => [aud]) := by
  unfold validation
  cases config.jwtIssuer <;> cases config.jwtAudience <;> rfl

@[simp] theorem validation_validateAud : (validation config alg).validateAud = true := by
  unfold validation
  cases config.jwtIssuer <;> cases config.jwtAudience <;> rfl

@[simp] theorem validation_algorithms : (validation config alg).algorithms = [alg] := by
  unfold validation
  cases config.jwtIssuer <;> cases config.jwtAudience <;> rfl

@[simp] theorem validation_requiredSpecClaims : (validation config alg).requiredSpecClaims = ["exp"] := by
  unfold validation
  cases config.jwtIssuer <;> cases config.jwtAudience <;> rfl

end Validation

/-! ## Configured claims -/

/-- An audience claim that is a name or a list with the name in it. -/
def Designates (value : Json) (name : String) : Prop :=
  value = .str name ∨ ∃ values, value = .arr values ∧ .str name ∈ values

structure Enforced (config : AppConfig) (payload : Payload) : Prop where
  issuer : ∀ issuer, config.jwtIssuer = some issuer →
    Json.field "iss" payload = some (some (.str issuer))
  audience : ∀ audience, config.jwtAudience = some audience →
    ∃ value, Json.field "aud" payload = some (some value) ∧ Designates value audience

-- An audience that is not made of strings may be ignored by the library.
structure Carried (lib : Library) (config : AppConfig) (payload : Payload) : Prop where
  issuer : ∀ issuer, config.jwtIssuer = some issuer →
    ∃ value, Json.field "iss" payload = some (some value) ∧ value ≠ .null
  audience : ∀ audience, config.jwtAudience = some audience →
    ∃ value, Json.field "aud" payload = some (some value) ∧
      ((readNames lib.ignores value).isSome = true ∨ Designates value audience)

theorem Enforced.carried {lib : Library} {config : AppConfig} {payload : Payload}
    (enforced : Enforced config payload) : Carried lib config payload := by
  constructor
  · intro issuer configured
    exact ⟨_, enforced.issuer issuer configured, by nofun⟩
  · intro audience configured
    obtain ⟨value, field, designates⟩ := enforced.audience audience configured
    exact ⟨value, field, .inr designates⟩

theorem mem_of_elements {values : List Json} {names : List String}
    (read : Json.elements Json.asString (.arr values) = some names) {name : String} (member : name ∈ names) :
    .str name ∈ values := by
  change values.mapM Json.asString = some names at read
  induction values generalizing names with
  | nil =>
    cases read
    cases member
  | cons value rest ih =>
    rw [List.mapM_cons] at read
    simp only [Option.bind_eq_bind, Option.pure_def, Option.bind_eq_some_iff, Option.some.injEq] at read
    obtain ⟨first, readFirst, others, readRest, same⟩ := read
    rw [← same] at member
    rcases List.mem_cons.mp member with here | later
    · cases value with
      | str s =>
        cases readFirst
        rw [here]
        exact List.mem_cons_self
      | _ => cases readFirst
    · exact List.mem_cons_of_mem _ (ih later readRest)

theorem designates_of_meets {ignores : Json → Bool} {value : Json} {names : Names} {name : String}
    (read : readNames ignores value = some names) (meets : names.meets [name] = true) :
    Designates value name := by
  unfold readNames at read
  split at read
  next single =>
    cases read
    simp only [Names.meets, List.contains_cons, List.contains_nil, Bool.or_false, beq_iff_eq] at meets
    rw [meets]
    exact .inl rfl
  next =>
    split at read
    next multiple readAll =>
      cases read
      simp only [Names.meets, List.any_eq_true, List.contains_cons, List.contains_nil, Bool.or_false,
        beq_iff_eq] at meets
      obtain ⟨found, member, same⟩ := meets
      rw [same] at member
      cases value with
      | arr values => exact .inr ⟨values, rfl, mem_of_elements readAll member⟩
      | _ => cases readAll
    next =>
      split at read
      next => cases read
      next =>
        cases read
        cases meets

section Middleware

variable {lib : Library} {state : AppState} {cache : JwksCache}
  {next : Request → ServiceProgram Response}

/-- Where the configured claims are there, the library has compared them. -/
theorem Carried.enforced {token : String} {key : DecodingKey} {header : Header} {payload : Payload}
    {claims : Claims} {config : AppConfig} {now : Nat}
    (carried : Carried lib config payload)
    (valid : lib.Decoded token key (validation config header.alg) now header payload claims) :
    Enforced config payload := by
  constructor
  · intro issuer configured
    obtain ⟨value, field, present⟩ := carried.issuer issuer configured
    obtain ⟨names, read, meets⟩ := valid.issuer
    rcases Claims.iss_field valid.claimsRead with absent | null | ⟨found, field'⟩
    · rw [field] at absent
      cases absent
    · rw [field] at null
      exact absurd (Option.some.inj (Option.some.inj null)) present
    · rw [field']
      have same : names = some (.single found) := by
        rw [claimNames, field', Option.map_some] at read
        exact (Option.some.inj read).symm
      rw [same, issuerMeets, validation_iss, configured] at meets
      simp only [Option.map_some, Option.elim_some, Names.meets, List.contains_cons, List.contains_nil,
        Bool.or_false, beq_iff_eq] at meets
      rw [meets]
  · intro audience configured
    obtain ⟨value, field, read | designates⟩ := carried.audience audience configured
    · obtain ⟨compared, readValue⟩ := Option.isSome_iff_exists.mp read
      obtain ⟨names, readField, meets⟩ := valid.audience
      refine ⟨value, field, designates_of_meets readValue ?_⟩
      have same : names = some compared := by
        rw [claimNames, field, Option.map_some, Option.bind_some, readValue] at readField
        exact (Option.some.inj readField).symm
      rw [same, audienceMeets, validation_aud, configured, validation_validateAud] at meets
      simpa using meets
    · exact ⟨value, field, designates⟩

/-- The configured issuer and audience are enforced on a request exactly when its
token, if it passes every check of the library, carries the claims at all. -/
theorem claims_enforced_iff (documented : lib.Documented) (enabled : state.jwksCache = some cache)
    (answer : (op : ServiceOp) → op.Reply) (request : Request) :
    (passed .nextRun ∈ (jwtAuthMiddleware lib state request next).trace answer →
      ∃ token payload, extractBearerToken request = some token ∧ lib.payload token = some payload ∧
        Enforced state.config payload) ↔
    (∀ json token payload, documentOf cache answer = .ok json →
      extractBearerToken request = some token → lib.payload token = some payload →
      Admits lib state.config request json (answer .clock) → Carried lib state.config payload) := by
  constructor
  · intro enforces json token payload document bearer payloadRead admits
    obtain ⟨token', payload', bearer', payloadRead', enforced⟩ :=
      enforces ((nextRun_iff documented enabled answer).mpr ⟨json, document, admits⟩)
    rw [bearer, Option.some.injEq] at bearer'
    rw [← bearer', payloadRead, Option.some.injEq] at payloadRead'
    rw [← payloadRead'] at enforced
    exact enforced.carried
  · intro carries letThrough
    obtain ⟨json, document, admits⟩ := (nextRun_iff documented enabled answer).mp letThrough
    obtain ⟨token, header, key, payload, claims, bearer, selected, valid⟩ := admits
    have carried := carries json token payload document bearer valid.payloadRead
      ⟨token, header, key, payload, claims, bearer, selected, valid⟩
    exact ⟨token, payload, bearer, valid.payloadRead, carried.enforced valid⟩

/-! ## No configured audience -/

/-- The payload has no audience that the library would read. -/
def WithoutAudience (lib : Library) (payload : Payload) : Prop :=
  claimNames lib.ignores "aud" payload = some none

def anyAudience (validation : Validation) : Validation := { validation with validateAud := false }

/-- The token is valid as far as everything but its audience goes. -/
def AdmitsAnyAudience (lib : Library) (config : AppConfig) (request : Request) (json : String)
    (now : Nat) : Prop :=
  ∃ token header key payload claims, extractBearerToken request = some token ∧
    selectKey lib json header.kid = .ok key ∧
    lib.Decoded token key (anyAudience (validation config header.alg)) now header payload claims

/-- Two tokens with one header, signed with the same keys of a document, whose
payloads agree on everything but the audience. -/
structure Twins (lib : Library) (json first second : String) (payload other : Payload) : Prop where
  header : lib.decodeHeader first = lib.decodeHeader second
  signature : ∀ kid key alg, selectKey lib json kid = .ok key →
    lib.verifies first key alg = lib.verifies second key alg
  read : lib.payload first = some payload
  readOther : lib.payload second = some other
  same : payload.filter (fun entry => entry.1 ≠ "aud") = other.filter (fun entry => entry.1 ≠ "aud")

theorem Twins.symm {json first second : String} {payload other : Payload}
    (twins : Twins lib json first second payload other) : Twins lib json second first other payload :=
  ⟨twins.header.symm, fun kid key alg selected => (twins.signature kid key alg selected).symm,
    twins.readOther, twins.read, twins.same.symm⟩

theorem field_filter {name other : String} (different : name ≠ other) (payload : Payload) :
    Json.field name (payload.filter fun entry => entry.1 ≠ other) = Json.field name payload := by
  unfold Json.field
  rw [List.filter_filter]
  have same : (payload.filter fun entry => decide (entry.1 = name) && decide (entry.1 ≠ other)) =
      payload.filter fun entry => decide (entry.1 = name) := by
    apply List.filter_congr
    intro entry _
    by_cases named : entry.1 = name
    · simp [named, different]
    · simp [named]
  rw [same]

theorem Twins.field {json first second : String} {payload other : Payload}
    (twins : Twins lib json first second payload other) {name : String} (different : name ≠ "aud") :
    Json.field name payload = Json.field name other := by
  rw [← field_filter different payload, twins.same, field_filter different]

theorem audienceMeets_any (validation : Validation) (names : Option Names) :
    audienceMeets (anyAudience validation) names = true := by
  cases names <;> rfl

theorem Twins.admitsAnyAudience {json first second : String} {payload other : Payload}
    (twins : Twins lib json first second payload other) {config : AppConfig} {request request' : Request}
    {now : Nat} (bearer : extractBearerToken request = some first)
    (bearer' : extractBearerToken request' = some second) (readable : WithoutAudience lib other)
    (admits : AdmitsAnyAudience lib config request json now) :
    AdmitsAnyAudience lib config request' json now := by
  obtain ⟨token, header, key, payload', claims, found, selected, valid⟩ := admits
  rw [bearer, Option.some.injEq] at found
  subst found
  have samePayload : payload' = payload := by
    have read := valid.payloadRead
    rw [twins.read, Option.some.injEq] at read
    exact read.symm
  subst samePayload
  have field {name : String} (different : name ≠ "aud") := twins.field different
  have names : claimNames lib.ignores "iss" other = claimNames lib.ignores "iss" payload' := by
    unfold claimNames
    rw [field (by decide)]
  refine ⟨second, header, key, other, claims, bearer', selected, ?_⟩
  exact
    { headerRead := twins.header ▸ valid.headerRead
      algorithm := valid.algorithm
      family := valid.family
      signature := twins.signature _ key header.alg selected ▸ valid.signature
      payloadRead := twins.readOther
      claimsRead := by
        have read := valid.claimsRead
        unfold Claims.fromPayload Json.optional Json.required at read ⊢
        rw [← field (by decide), ← field (by decide), ← field (by decide)]
        exact read
      notBefore := by
        obtain ⟨value, found, reads⟩ := valid.notBefore
        have same : Json.field "nbf" payload' = Json.field "nbf" other := field (by decide)
        exact ⟨value, same ▸ found, reads⟩
      required := by
        intro name member
        obtain ⟨value, found⟩ := valid.required name member
        have named : name = "exp" := by
          change name ∈ (validation config header.alg).requiredSpecClaims at member
          simpa using member
        have same : Json.field "exp" payload' = Json.field "exp" other := field (by decide)
        rw [named] at found ⊢
        exact ⟨value, same ▸ found⟩
      unexpired := valid.unexpired
      issuer := names ▸ valid.issuer
      audience := ⟨none, readable, rfl⟩ }

/-- Without a configured audience, a valid token passes unless it has one. -/
theorem admits_iff_withoutAudience {config : AppConfig} (unset : config.jwtAudience = none)
    {request : Request} {token json : String} {now : Nat} {payload : Payload}
    (bearer : extractBearerToken request = some token) (read : lib.payload token = some payload) :
    Admits lib config request json now ↔
      AdmitsAnyAudience lib config request json now ∧ WithoutAudience lib payload := by
  constructor
  · intro ⟨token', header, key, payload', claims, found, selected, valid⟩
    rw [bearer, Option.some.injEq] at found
    subst found
    have same := valid.payloadRead
    rw [read, Option.some.injEq] at same
    subst same
    obtain ⟨names, readNames, meets⟩ := valid.audience
    refine ⟨⟨token, header, key, payload, claims, bearer, selected,
      { valid with audience := ⟨names, readNames, audienceMeets_any _ _⟩ }⟩, ?_⟩
    cases names with
    | none => exact readNames
    | some names =>
      rw [audienceMeets, validation_aud, unset, validation_validateAud] at meets
      cases meets
  · intro ⟨⟨token', header, key, payload', claims, found, selected, valid⟩, without⟩
    rw [bearer, Option.some.injEq] at found
    subst found
    have same := valid.payloadRead
    rw [read, Option.some.injEq] at same
    subst same
    exact ⟨token, header, key, payload, claims, bearer, selected,
      { valid with audience := ⟨none, without, rfl⟩ }⟩

/-- Without a configured audience, twins are treated alike exactly when, should
their other checks pass, both of them or neither have an audience. -/
theorem audience_optional_iff (documented : lib.Documented) (enabled : state.jwksCache = some cache)
    (unset : state.config.jwtAudience = none) (answer : (op : ServiceOp) → op.Reply)
    {request request' : Request} {json first second : String} {payload other : Payload}
    (document : documentOf cache answer = .ok json) (twins : Twins lib json first second payload other)
    (bearer : extractBearerToken request = some first)
    (bearer' : extractBearerToken request' = some second) :
    (passed .nextRun ∈ (jwtAuthMiddleware lib state request next).trace answer ↔
      passed .nextRun ∈ (jwtAuthMiddleware lib state request' next).trace answer) ↔
    (AdmitsAnyAudience lib state.config request json (answer .clock) ∨
        AdmitsAnyAudience lib state.config request' json (answer .clock) →
      (WithoutAudience lib payload ↔ WithoutAudience lib other)) := by
  have letThrough : ∀ request, passed .nextRun ∈ (jwtAuthMiddleware lib state request next).trace answer ↔
      Admits lib state.config request json (answer .clock) := by
    intro request
    rw [nextRun_iff documented enabled answer]
    constructor
    · intro ⟨json', document', admits⟩
      rw [document, Except.ok.injEq] at document'
      rwa [document']
    · intro admits
      exact ⟨json, document, admits⟩
  have toSecond (without : WithoutAudience lib other)
      (valid : AdmitsAnyAudience lib state.config request json (answer .clock)) :
      AdmitsAnyAudience lib state.config request' json (answer .clock) :=
    twins.admitsAnyAudience bearer bearer' without valid
  have toFirst (without : WithoutAudience lib payload)
      (valid : AdmitsAnyAudience lib state.config request' json (answer .clock)) :
      AdmitsAnyAudience lib state.config request json (answer .clock) :=
    twins.symm.admitsAnyAudience bearer' bearer without valid
  rw [letThrough, letThrough, admits_iff_withoutAudience unset bearer twins.read,
    admits_iff_withoutAudience unset bearer' twins.readOther]
  constructor
  · intro alike valid
    constructor
    · intro without
      have first := valid.elim id (toFirst without)
      exact (alike.mp ⟨first, without⟩).2
    · intro without
      have second := valid.elim (toSecond without) id
      exact (alike.mpr ⟨second, without⟩).2
  · intro alike
    constructor
    · intro ⟨valid, without⟩
      have without' := (alike (.inl valid)).mp without
      exact ⟨toSecond without' valid, without'⟩
    · intro ⟨valid, without⟩
      have without' := (alike (.inr valid)).mpr without
      exact ⟨toFirst without' valid, without'⟩

end Middleware

def exampleConfig : AppConfig :=
  { databaseUrl := "postgres://localhost/test"
    port := 3000
    host := "0.0.0.0"
    environment := .development
    allowedOrigins := []
    otelServiceName := "template-servico-rust"
    otlpEndpoint := none
    jwksUrl := some "https://auth.example/jwks.json"
    jwtAudience := some "api"
    jwtIssuer := some "https://auth.example"
    redisUrl := none }

def exampleTokens : List IssuedToken :=
  [⟨"bare", ⟨.RS256, some "k1"⟩, [("exp", .int 2000)], "key-1"⟩,
   ⟨"full", ⟨.RS256, some "k1"⟩,
    [("exp", .int 2000), ("iss", .str "https://auth.example"), ("aud", .arr [.str "web", .str "api"])], "key-1"⟩,
   ⟨"api", ⟨.RS256, some "k1"⟩, [("exp", .int 2000), ("aud", .str "api")], "key-1"⟩,
   ⟨"web", ⟨.RS256, some "k1"⟩, [("exp", .int 2000), ("aud", .str "web")], "key-1"⟩]

def exampleLibrary : Library := tableLibrary exampleTokens exampleKeySets

def exampleState : AppState := ⟨exampleConfig, some exampleCache⟩

def bearing (token : String) : Request :=
  { method := .get
    uri := ⟨"/users", "/users"⟩
    headers := HeaderMap.empty.append "authorization" (HeaderValue.ofString ("Bearer " ++ token))
    body := [] }

def exampleAnswer : (op : ServiceOp) → op.Reply
  | .jwks .readCache => some keySetText
  | .jwks (.fetch _) => .failed "connection refused"
  | .jwks (.writeCache _) => ()
  | .receiveBody => .ok ()
  | .newUuid => ⟨"0191b4a4-0000-7000-8000-000000000000"⟩
  | .clock => 1000
  | .send _ => .ok ()
  | .receive _ => .ok []
  | .renderMetrics => ""
  | .deadline => false
  | .pass _ => ()

def noContent (_ : Request) : ServiceProgram Response := .done ⟨.OK, HeaderMap.empty, .empty⟩

theorem accepts_bare {config : AppConfig}
    (decoded : exampleLibrary.decode "bare" ⟨.rsa, "key-1"⟩ (validation config .RS256) 1000 =
      .ok ⟨none, 2000, none⟩) : Accepts exampleLibrary config (bearing "bare") keySetText 1000 :=
  ⟨"bare", ⟨.RS256, some "k1"⟩, ⟨.rsa, "key-1"⟩, _, by decide, by decide, by decide, decoded⟩

/-- A token without issuer and audience passes although both are configured. -/
theorem bare_token_passes :
    ¬ (passed .nextRun ∈ (jwtAuthMiddleware exampleLibrary exampleState
        (bearing "bare") noContent).trace exampleAnswer →
      ∃ token payload, extractBearerToken (bearing "bare") = some token ∧
        exampleLibrary.payload token = some payload ∧
        Enforced exampleState.config payload) := by
  intro enforces
  obtain ⟨token, payload, bearer, payloadRead, enforced⟩ :=
    enforces (nextRun_of_accepts rfl rfl (accepts_bare (by decide)))
  have sameToken : token = "bare" :=
    Option.some.inj (bearer.symm.trans (by decide : extractBearerToken (bearing "bare") = some "bare"))
  rw [sameToken] at payloadRead
  have samePayload : payload = [("exp", .int 2000)] := Option.some.inj (payloadRead.symm.trans rfl)
  have field := enforced.issuer "https://auth.example" rfl
  rw [samePayload] at field
  cases field

theorem full_token_enforced :
    ∃ token payload, extractBearerToken (bearing "full") = some token ∧
      exampleLibrary.payload token = some payload ∧ Enforced exampleState.config payload := by
  have passes : passed .nextRun ∈ (jwtAuthMiddleware exampleLibrary exampleState
      (bearing "full") noContent).trace exampleAnswer :=
    nextRun_of_accepts rfl rfl ⟨"full", ⟨.RS256, some "k1"⟩, ⟨.rsa, "key-1"⟩,
      ⟨none, 2000, some "https://auth.example"⟩, by decide, by decide, by decide, by decide⟩
  refine (claims_enforced_iff (tableLibrary_documented _ _) rfl exampleAnswer (bearing "full")).mpr ?_ passes
  intro json token payload document bearer payloadRead admits
  have sameToken : token = "full" :=
    Option.some.inj (bearer.symm.trans (by decide : extractBearerToken (bearing "full") = some "full"))
  rw [sameToken] at payloadRead
  have samePayload : payload = [("exp", .int 2000), ("iss", .str "https://auth.example"),
      ("aud", .arr [.str "web", .str "api"])] := Option.some.inj (payloadRead.symm.trans rfl)
  subst samePayload
  constructor
  · intro issuer configured
    exact ⟨_, rfl, by nofun⟩
  · intro audience configured
    exact ⟨_, rfl, .inl rfl⟩

def openState : AppState :=
  ⟨{ exampleConfig with jwtAudience := none, jwtIssuer := none }, some exampleCache⟩

/-- An audience locks a token out although none is configured. -/
theorem audience_locks_out :
    ¬ (passed .nextRun ∈ (jwtAuthMiddleware exampleLibrary openState (bearing "bare") noContent).trace exampleAnswer ↔
      passed .nextRun ∈ (jwtAuthMiddleware exampleLibrary openState (bearing "api") noContent).trace exampleAnswer) := by
  have documented := tableLibrary_documented exampleTokens exampleKeySets
  intro alike
  have passes := alike.mp (nextRun_of_accepts rfl rfl (accepts_bare (by decide)))
  obtain ⟨json, document, token, header, key, payload, claims, bearer, selected, valid⟩ :=
    (nextRun_iff documented rfl exampleAnswer).mp passes
  have sameToken : token = "api" :=
    Option.some.inj (bearer.symm.trans (by decide : extractBearerToken (bearing "api") = some "api"))
  subst sameToken
  obtain ⟨names, read, meets⟩ := valid.audience
  have samePayload : payload = [("exp", .int 2000), ("aud", .str "api")] :=
    Option.some.inj (valid.payloadRead.symm.trans rfl)
  subst samePayload
  have same : names = some (.single "api") := Option.some.inj (read.symm.trans rfl)
  subst same
  cases meets

theorem audiences_locked_out_alike :
    passed .nextRun ∈ (jwtAuthMiddleware exampleLibrary openState (bearing "api") noContent).trace exampleAnswer ↔
      passed .nextRun ∈ (jwtAuthMiddleware exampleLibrary openState (bearing "web") noContent).trace exampleAnswer := by
  have twins : Twins exampleLibrary keySetText "api" "web" [("exp", .int 2000), ("aud", .str "api")]
      [("exp", .int 2000), ("aud", .str "web")] :=
    { header := by decide
      signature := fun _ _ _ _ => rfl
      read := rfl
      readOther := rfl
      same := rfl }
  apply (audience_optional_iff (tableLibrary_documented _ _) rfl rfl exampleAnswer rfl twins (by decide)
    (by decide)).mpr
  intro _
  constructor
  · intro without
    cases without
  · intro without
    cases without

end TemplateServico
