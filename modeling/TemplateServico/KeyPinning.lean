import TemplateServico.KeyDocuments

/-! How the key document of a process becomes final.

Only who found the cache empty ever writes it. Once all of these are done, the document
that is held stays, and it alone decides about every later request.
-/

set_option autoImplicit false

namespace TemplateServico

open Http Interaction Jsonwebtoken

/-! ## The check with a document that is held -/

section Middleware

variable {lib : Library} {state : AppState} {cache : JwksCache} {request : Request} {json : String}
  {next : Request → ServiceProgram Response} {history : List (Event serviceInterface)} {rest : ServiceProgram Response}

/-- Whatever was read from the cache was one document. -/
def ReadsOnly (json : String) (history : List (Event serviceInterface)) : Prop :=
  ∀ held?, (⟨.jwks .readCache, held?⟩ : Event serviceInterface) ∈ history → held? = some json

theorem lookup_cached {kid : Option String} {f : Except String DecodingKey → ServiceProgram Response}
    (reached : ((getDecodingKey lib cache kid).inject jwksEmbedding >>= f).Reaches history rest)
    (reads : ReadsOnly json history) :
    (history = [] ∧ ∃ op next, rest = .call op next) ∨
    ∃ later, history = ⟨.jwks .readCache, some json⟩ :: later ∧ (f (selectKey lib json kid)).Reaches later rest := by
  rcases Program.reaches_call.mp reached with ⟨empty, waiting⟩ | ⟨held?, later, split, onward⟩
  · exact .inl ⟨empty, _, _, waiting⟩
  · have same : held? = some json := by
      apply reads
      rw [split]
      exact List.mem_cons_self
    rw [same] at split onward
    exact .inr ⟨later, split, onward⟩

/-- Why a token was not accepted: at the time that the clock said, or at any time. -/
def Rejected (lib : Library) (config : AppConfig) (request : Request) (json : String)
    (history : List (Event serviceInterface)) : Prop :=
  (∃ now, (⟨.clock, now⟩ : Event serviceInterface) ∈ history ∧ ¬ Accepts lib config request json now) ∨
    ∀ now, ¬ Accepts lib config request json now

theorem accepts_iff {token : String} {header : Header} {now : Nat} (bearer : extractBearerToken request = some token)
    (headerRead : lib.decodeHeader token = .ok header) : Accepts lib state.config request json now ↔
      ∃ key claims, selectKey lib json header.kid = .ok key ∧
        lib.decode token key (validation state.config header.alg) now = .ok claims := by
  constructor
  · intro ⟨_, _, key, claims, given, read, selected, decoded⟩
    cases bearer.symm.trans given
    cases headerRead.symm.trans read
    exact ⟨key, claims, selected, decoded⟩
  · intro ⟨key, claims, selected, decoded⟩
    exact ⟨token, header, key, claims, bearer, headerRead, selected, decoded⟩

theorem jwtAuthMiddleware_cached (enabled : state.jwksCache = some cache)
    (reached : (jwtAuthMiddleware lib state request next).Reaches history rest) (reads : ReadsOnly json history) :
    (∃ now, (⟨.clock, now⟩ : Event serviceInterface) ∈ history ∧ Accepts lib state.config request json now ∧
      (passed .nextRun ∈ history ∨ ∃ op next, rest = .call op next)) ∨
    (passed .nextRun ∉ history ∧ ∀ response, rest = .done response →
      response.status = .UNAUTHORIZED ∧ Rejected lib state.config request json history) := by
  have refuse {detail : String} {seen : List (Event serviceInterface)}
      (reached : Program.Reaches (.done (ProblemDetails.unauthorized detail).intoResponse) seen rest) :
      seen = [] ∧ ∀ response, rest = .done response → response.status = .UNAUTHORIZED := by
    obtain ⟨empty, same⟩ := Program.reaches_done.mp reached
    refine ⟨empty, fun response finished => ?_⟩
    rw [← Program.done.inj (same.symm.trans finished)]
    exact (Refusal.problem ⟨detail, rfl⟩).1
  unfold jwtAuthMiddleware at reached
  rw [enabled] at reached
  dsimp only at reached
  cases bearer : extractBearerToken request with
  | none =>
    rw [bearer] at reached
    obtain ⟨empty, refused⟩ := refuse reached
    rw [empty]
    refine .inr ⟨List.not_mem_nil, fun response finished => ⟨refused response finished, .inr fun now accepts => ?_⟩⟩
    obtain ⟨token, _, _, _, given, _⟩ := accepts
    cases bearer.symm.trans given
  | some token =>
  rw [bearer] at reached
  dsimp only at reached
  cases headerRead : lib.decodeHeader token with
  | error reason =>
    rw [headerRead] at reached
    obtain ⟨empty, refused⟩ := refuse reached
    rw [empty]
    refine .inr ⟨List.not_mem_nil, fun response finished => ⟨refused response finished, .inr fun now accepts => ?_⟩⟩
    obtain ⟨_, _, _, _, given, read, _⟩ := accepts
    cases bearer.symm.trans given
    cases headerRead.symm.trans read
  | ok header =>
  rw [headerRead] at reached
  rcases lookup_cached reached reads with ⟨empty, _, _, waiting⟩ | ⟨later, split, onward⟩
  · rw [empty, waiting]
    exact .inr ⟨List.not_mem_nil, nofun⟩
  rw [split]
  cases selected : selectKey lib json header.kid with
  | error reason =>
    rw [selected] at onward
    obtain ⟨empty, refused⟩ := refuse onward
    rw [empty]
    refine .inr ⟨by simp, fun response finished => ⟨refused response finished, .inr fun now accepts => ?_⟩⟩
    obtain ⟨_, _, selected', _⟩ := (accepts_iff bearer headerRead).mp accepts
    cases selected.symm.trans selected'
  | ok key =>
  rw [selected] at onward
  rcases Program.reaches_call.mp onward with ⟨empty, waiting⟩ | ⟨now, events, split', onward⟩
  · rw [empty, waiting]
    exact .inr ⟨by simp, nofun⟩
  rw [split']
  cases decoded : lib.decode token key (validation state.config header.alg) now with
  | ok claims =>
    rw [decoded] at onward
    refine .inl ⟨now, by simp, (accepts_iff bearer headerRead).mpr ⟨key, claims, selected, decoded⟩, ?_⟩
    rcases Program.reaches_call.mp onward with ⟨_, waiting⟩ | ⟨_, _, same, _⟩
    · exact .inr ⟨_, _, waiting⟩
    · left
      rw [same]
      simp
  | error reason =>
    rw [decoded] at onward
    obtain ⟨empty, refused⟩ := refuse onward
    rw [empty]
    refine .inr ⟨by simp, fun response finished => ⟨refused response finished, .inl ⟨now, by simp, fun accepts => ?_⟩⟩⟩
    obtain ⟨_, _, selected', decoded'⟩ := (accepts_iff bearer headerRead).mp accepts
    cases selected.symm.trans selected'
    cases decoded.symm.trans decoded'

end Middleware

/-! ## Runs -/

abbrev missed : Event serviceInterface := ⟨.jwks .readCache, none⟩

/-- A document is held that nobody can replace any more. Requests from a position on
have read no other. -/
structure Pinned (json : String) (start : Nat) (pool : Pool serviceInterface ServiceState Request Response) : Prop where
  held : pool.shared.cachedJson = some json
  settled : ∀ (position : Nat) (task : Task serviceInterface Request Response), pool.tasks[position]? = some task →
    missed ∈ task.history → ∃ response, task.program = .done response
  reads : ∀ (position : Nat) (task : Task serviceInterface Request Response), start ≤ position →
    pool.tasks[position]? = some task → ReadsOnly json task.history

theorem Performs.read {position : Nat} {state state' : ServiceState} {held? : Option String}
    (performed : Performs position (.jwks .readCache) state held? state') : held? = state.cachedJson := by
  cases performed
  rfl

section Runs

variable {libs : Libraries} {state : AppState} {cache : JwksCache} {service : Request → ServiceProgram Response}
  {pool later : Pool serviceInterface ServiceState Request Response} {json : String} {start : Nat}

theorem writer_missed (enabled : state.jwksCache = some cache) (built : createRouter libs state = some service)
    {request : Request} {history : List (Event serviceInterface)} {stored : String} {next : Unit → ServiceProgram Response}
    (reached : (service request).Reaches history (.call (.jwks (.writeCache stored)) next)) : missed ∈ history := by
  have stable := lookupReason_stable cache
  have justified : (service request).Justified (lookupReason cache) [] := createRouter_justified enabled built
  have fetched := reached.calledFor stable justified
  exact (reached.calledFor_of_mem stable justified fetched).2

theorem Pinned.step (enabled : state.jwksCache = some cache) (built : createRouter libs state = some service)
    (reachable : (serviceMachine service).Reachable .initial pool) (step : (serviceMachine service).Step pool later)
    (pinned : Pinned json start pool) : Pinned json start later := by
  have unread {position : Nat} {op : ServiceOp} {reply : op.Reply} (performed : Performs position op pool.shared reply later.shared)
      {held? : Option String} (same : (⟨.jwks .readCache, held?⟩ : Event serviceInterface) = ⟨op, reply⟩) :
      held? = some json := by
    cases same
    exact performed.read.trans pinned.held
  refine ⟨?_, fun position task selected member => ?_, fun position task fresh selected held? member => ?_⟩
  · cases step with
    | spawn job => exact pinned.held
    | @perform position request history op next reply shared found performed =>
      have reached := reachable.reaches found
      cases performed with
      | writeCache stored =>
        obtain ⟨_, done⟩ := pinned.settled position _ found (writer_missed enabled built reached)
        cases done
      | _ => exact pinned.held
    | environment served =>
      cases served with
      | executes sent executed => exact pinned.held
  · rcases Machine.step_task step selected with old | ⟨_, same⟩ | ⟨history, op, next, reply, old, performed, same⟩
    · exact pinned.settled position task old member
    · rw [same] at member
      cases member
    · rw [same] at member
      rcases List.mem_append.mp member with earlier | last
      · obtain ⟨_, done⟩ := pinned.settled position _ old earlier
        cases done
      · cases unread performed (List.mem_singleton.mp last)
  · rcases Machine.step_task step selected with old | ⟨_, same⟩ | ⟨history, op, next, reply, old, performed, same⟩
    · exact pinned.reads position task fresh old held? member
    · rw [same] at member
      cases member
    · rw [same] at member
      rcases List.mem_append.mp member with earlier | last
      · exact pinned.reads position _ fresh old held? earlier
      · exact unread performed (List.mem_singleton.mp last)

theorem Pinned.steps (enabled : state.jwksCache = some cache) (built : createRouter libs state = some service)
    (reachable : (serviceMachine service).Reachable .initial pool) (steps : (serviceMachine service).Steps pool later)
    (pinned : Pinned json start pool) : Pinned json start later := by
  induction steps with
  | refl => exact pinned
  | tail before step ih => exact ih.step enabled built (reachable.steps before) step

/-- What a document has decided about a request. -/
structure Verdict (lib : Library) (config : AppConfig) (json : String)
    (task : Task serviceInterface Request Response) : Prop where
  admitted : passed .nextRun ∈ task.history →
    ∃ now, (⟨.clock, now⟩ : Event serviceInterface) ∈ task.history ∧ Accepts lib config task.job json now
  refused : ∀ response, task.program = .done response → ¬ TimedOut task.history → passed .nextRun ∉ task.history →
    response.status = .UNAUTHORIZED ∧ Rejected lib config task.job json task.history

/-- Once a document is held and all who found the cache empty are done, that document
is held as long as the process lives. Every later request that the token check sees is
let through only if this document accepts its token, and refused only if it does not. -/
theorem keys_pinned (enabled : state.jwksCache = some cache) (built : createRouter libs state = some service)
    (reachable : (serviceMachine service).Reachable .initial pool) (held : pool.shared.cachedJson = some json)
    (settled : ∀ (position : Nat) (task : Task serviceInterface Request Response),
      pool.tasks[position]? = some task → missed ∈ task.history → ∃ response, task.program = .done response)
    (steps : (serviceMachine service).Steps pool later) :
    later.shared.cachedJson = some json ∧ ∀ (position : Nat) (task : Task serviceInterface Request Response),
      pool.tasks.length ≤ position → later.tasks[position]? = some task → Guarded task.job →
      Verdict libs.jwt state.config json task := by
  have start : Pinned json pool.tasks.length pool := by
    refine ⟨held, settled, fun position task fresh selected => ?_⟩
    rw [List.getElem?_eq_none fresh] at selected
    cases selected
  have pinned := start.steps enabled built reachable steps
  refine ⟨pinned.held, fun position task fresh selected guarded => ?_⟩
  obtain ⟨notPreflight, route, found, isProtected⟩ := guarded
  obtain ⟨_, inner, _, followed, outcome⟩ :=
    createRouter_routes built notPreflight ((reachable.steps steps).reaches selected)
  rw [routes_protected found isProtected] at followed
  have reads : ReadsOnly json (untimed task.history) := by
    intro held? member
    exact pinned.reads position task fresh selected held? ((mem_untimed (by nofun)).mp member)
  have finished {response : Response} (done : task.program = .done response) (onTime : ¬ TimedOut task.history) :
      ∃ own, inner = .done own ∧ response.status = own.status := by
    rcases outcome with ⟨_, ended⟩ | ⟨timedOut, _⟩
    · obtain ⟨own, same, delivered⟩ := ended response done
      exact ⟨own, same, by rw [delivered, deliver_status]⟩
    · exact absurd timedOut onTime
  rcases jwtAuthMiddleware_cached enabled followed reads with ⟨now, read, accepts, onward⟩ | ⟨stopped, refused⟩
  · refine ⟨fun _ => ⟨now, (mem_untimed (by nofun)).mp read, accepts⟩, fun response done onTime stopped => ?_⟩
    rcases onward with entered | ⟨_, _, waiting⟩
    · exact absurd ((mem_untimed (by nofun)).mp entered) stopped
    · obtain ⟨_, same, _⟩ := finished done onTime
      cases waiting.symm.trans same
  · refine ⟨fun entered => absurd ((mem_untimed (by nofun)).mpr entered) stopped, fun response done onTime _ => ?_⟩
    obtain ⟨own, same, status⟩ := finished done onTime
    obtain ⟨unauthorized, rejected⟩ := refused own same
    refine ⟨status.trans unauthorized, rejected.imp_left ?_⟩
    exact fun ⟨now, read, rejects⟩ => ⟨now, (mem_untimed (by nofun)).mp read, rejects⟩

end Runs

/-! ## A client whose first request fails at the database -/

def failedHistory : List (Event serviceInterface) :=
  fullTokenHistory ++ [⟨.deadline, false⟩, ⟨.send .selectUsers, .error (.other "connection refused")⟩]

theorem failed_performed : (serviceMachine exampleService).Performed 0 .initial failedHistory firstState :=
  first_performed.trans (.reply (.deadline _ _) (.reply (.notSent _ _ _) (.nothing _)))

theorem second_pinned : ∃ (later : Pool serviceInterface ServiceState Request Response)
    (task : Task serviceInterface Request Response), later.tasks[1]? = some task ∧ passed .nextRun ∈ task.history ∧
      later.shared.cachedJson = some keySetText ∧ Verdict exampleLibrary exampleState.config keySetText task := by
  obtain ⟨response, reached, _⟩ := Program.reaches_of_replay (exampleService (bearing "full")) failedHistory
    (fun response => response.status = .INTERNAL_SERVER_ERROR) (by decide)
  have reachable := Machine.reachable_alone reached failed_performed
  have settled (position : Nat) (task : Task serviceInterface Request Response)
      (selected : [⟨bearing "full", failedHistory, .done response⟩][position]? = some task) :
      missed ∈ task.history → ∃ response, task.program = .done response := by
    intro _
    rw [List.mem_singleton.mp (List.mem_of_getElem? selected)]
    exact ⟨response, rfl⟩
  obtain ⟨rest, _, steps⟩ := second_steps ⟨bearing "full", failedHistory, .done response⟩
  have guarded : Guarded (bearing "full") := ⟨by decide, .users, by decide, rfl⟩
  obtain ⟨held, decides⟩ := keys_pinned rfl exampleService_built reachable rfl settled steps
  exact ⟨_, _, rfl, by simp [secondTokenHistory], held, decides 1 _ (Nat.le_refl 1) rfl guarded⟩

end TemplateServico
