import TemplateServico.Deployment
import TemplateServico.Linearizability
import Mathlib.Data.List.Forall2

/-! Which requests the rows of the users table come from, in a process with a JWKS_URL. -/

set_option autoImplicit false

namespace TemplateServico

open Http Interaction Postgres Jsonwebtoken

/-! ## Creations -/

def creationReason : Reason serviceInterface
  | past, .send _ => passed .createUser ∈ past
  | _, _ => True

theorem creationReason_stable : creationReason.Stable where
  grow := by
    intro past more op grown reason
    cases op with
    | send statement => exact grown reason
    | _ => trivial

theorem creationReason_free (past : List (Event serviceInterface)) (op : ServiceOp) (isLocal : Handlers.Local op) :
    creationReason past op := by
  cases op with
  | send statement => exact absurd rfl (isLocal statement).1
  | _ => trivial

theorem createUser_reason (payload : CreateUserPayload) (past : List (Event serviceInterface)) :
    (Handlers.createUser payload).Justified creationReason past := by
  refine ⟨trivial, fun _ => ?_⟩
  cases Handlers.checkPayload payload with
  | error error => trivial
  | ok values =>
    refine ⟨trivial, fun id => Program.justified_map ⟨?_, fun sent => ?_⟩⟩
    · exact List.mem_cons_of_mem _ List.mem_cons_self
    · cases sent with
      | error error => trivial
      | ok done => exact ⟨trivial, fun _ => trivial⟩

theorem postUsers_reason (libs : Libraries) (request : Request) :
    (Handlers.postUsers libs request).Justified creationReason [] := by
  have extracted : (Handlers.appJson libs request).Justified creationReason [] :=
    Program.justified_of_performs (Handlers.appJson_local libs request) creationReason_free []
  apply Program.justified_bind extracted
  intro result more _
  cases result with
  | error error => trivial
  | ok payload => exact createUser_reason payload more

section Runs

variable {libs : Libraries} {state : AppState} {service : Request → ServiceProgram Response} {request : Request}

theorem insert_entered (built : createRouter libs state = some service) {history : List (Event serviceInterface)}
    {rest : ServiceProgram Response} (reached : (service request).Reaches history rest) {id : Uuid} {name email : String}
    (sent : (⟨.send (.insertUser id name email), .ok ()⟩ : Event serviceInterface) ∈ history) :
    passed .createUser ∈ history := by
  obtain ⟨creates, _⟩ := sent_issues built reached sent
  rcases endpoint_runs built creates rfl reached with ⟨quiet, _⟩ | ⟨later, inner, handled, within, seen, _⟩
  · exact absurd rfl (quiet _ sent _).1
  · have asked := (seen _ sent).resolve_left fun isLocal => (isLocal _).1 rfl
    exact within _ (handled.calledFor_of_mem creationReason_stable (Program.justified_map (postUsers_reason libs request)) asked)

/-- The request whose creation is on the connection of a position, and what it stored. -/
structure Created (libs : Libraries) (pool : Pool serviceInterface ServiceState Request Response) (position : Nat)
    (user : User) (task : Task serviceInterface Request Response) (payload : CreateUserPayload) : Prop where
  selected : pool.tasks[position]? = some task
  creates : endpointOf task.job = some .createUser
  entered : passed .createUser ∈ task.history
  read : libs.jsonPayload task.job.body = .ok payload
  name : user.name = Text.trim payload.name
  nonempty : user.name ≠ ""
  address : '@' ∈ payload.email.toList
  email : stored payload.email = .ok user.email

theorem journal_sent {pool : Pool serviceInterface ServiceState Request Response}
    (reachable : (serviceMachine service).Reachable .initial pool) {position : Nat} {user : User}
    (recorded : (position, user) ∈ pool.shared.journal) : ∃ task id name email, pool.tasks[position]? = some task ∧
      (⟨.send (.insertUser id name email), .ok ()⟩ : Event serviceInterface) ∈ task.history ∧
      Inserted id name email user := by
  obtain ⟨id, name, email, executed, inserted⟩ := (consistent_reachable reachable).owners position user recorded
  have attached := (attached_linked service).reachable attached_initial reachable position
  have sent := (attached.sent _).mp (Connection.statement?_of_outcome? executed)
  unfold Pool.historyAt at sent
  split at sent
  next task selected => exact ⟨task, id, name, email, selected, sent, inserted⟩
  next => cases sent

theorem journal_created (built : createRouter libs state = some service)
    {pool : Pool serviceInterface ServiceState Request Response}
    (reachable : (serviceMachine service).Reachable .initial pool) {position : Nat} {user : User}
    (recorded : (position, user) ∈ pool.shared.journal) : ∃ task payload, Created libs pool position user task payload := by
  obtain ⟨task, id, name, email, selected, sent, inserted⟩ := journal_sent reachable recorded
  obtain ⟨creates, payload, read, checked⟩ := sent_issues built (reachable.reaches selected) sent
  obtain ⟨trimmed, nonempty, same, address⟩ := Handlers.checkPayload_ok checked
  have kept : user.name = name := stored_trimmed (trimmed ▸ Text.trimmed_trim _) inserted.name
  refine ⟨task, payload, selected, creates, ?_, read, kept.trans trimmed, kept ▸ nonempty, same ▸ address,
    same ▸ inserted.email⟩
  exact insert_entered built (reachable.reaches selected) sent

theorem journal_positions {pool : Pool serviceInterface ServiceState Request Response}
    (reachable : (serviceMachine service).Reachable .initial pool) : (pool.shared.journal.map Prod.fst).Nodup := by
  have consistent := consistent_reachable reachable
  have users : (pool.shared.journal.map Prod.snd).Nodup := by
    rw [← consistent.rows]
    exact List.Nodup.of_map _ (ids_distinct _)
  apply List.Nodup.map_on _ (List.Nodup.of_map _ users)
  rintro ⟨position, first⟩ inFirst ⟨_, second⟩ inSecond same
  cases same
  obtain ⟨_, _, _, executed, _⟩ := consistent.owners position first inFirst
  obtain ⟨_, _, _, executed', _⟩ := consistent.owners position second inSecond
  cases executed.symm.trans executed'
  rfl

end Runs

/-! ## Processes with a JWKS_URL -/

/-- The row was stored for a creation with a token that was valid when it read the clock, by
a key of the document that it got. The URL has returned it. -/
def Authored (libs : Libraries) (url : String) (process : Process) (position : Nat) (user : User) : Prop :=
  ∃ task payload, Created libs (process.requests.view PooledState.service) position user task payload ∧
    ∃ json now token header jwks jwk key payload claims, Consulted ⟨url⟩ task.history json now ∧
      Credential libs.jwt task.job json now token header jwks jwk key payload claims ∧
      Machine.Seen process.requests (FetchedFrom ⟨url⟩ · json)

section Processes

variable {libs : Libraries} {config : AppConfig} {env : Environment} {url : String} {process : Process}

theorem requests_of_unbuilt (unbuilt : createRouter libs (appState config) = none)
    (reachable : process.Reachable libs config) : process.requests = ⟨.initial, []⟩ := by
  induction reachable with
  | refl => rfl
  | tail _ step ih =>
    cases step with
    | accepts _ _ _ built =>
      rw [unbuilt] at built
      cases built
    | works built =>
      rw [unbuilt] at built
      cases built
    | _ => exact ih

/-- In a process that was started with a JWKS_URL each row of the users table goes back
to a creation of its own, whose token was valid by a key of a document that this very
URL returned, and holds what was asked for. -/
theorem rows_authored (documented : libs.jwt.Documented) (given : env.get "JWKS_URL" = some url)
    (reachable : process.Reachable libs (load env)) :
    ∃ positions : List Nat, positions.Nodup ∧
      List.Forall₂ (Authored libs url process) positions process.requests.shared.service.users.rows := by
  cases built : createRouter libs (appState (load env)) with
  | none =>
    rw [requests_of_unbuilt built reachable]
    exact ⟨[], List.nodup_nil, .nil⟩
  | some service =>
    have run := pooled_service ((orderly_reachable reachable).requests service built)
    refine ⟨_, journal_positions run, ?_⟩
    have rows := (consistent_reachable run).rows
    change process.requests.shared.service.users.rows = _ at rows
    rw [rows, List.forall₂_map_left_iff, List.forall₂_map_right_iff, List.forall₂_same]
    rintro ⟨position, user⟩ recorded
    obtain ⟨task, payload, created⟩ := journal_created built run recorded
    obtain ⟨json, now, consulted, accepts, seen⟩ :=
      handled_from_endpoint (appState_cache given) built run created.selected rfl created.entered
    obtain ⟨token, header, jwks, jwk, key, payload, claims, credential⟩ :=
      credential_of_admits documented ((accepts_iff_admits documented).mp accepts)
    exact ⟨task, _, created, json, now, token, header, jwks, jwk, key, payload, claims, consulted, credential, seen⟩

end Processes

/-- A process in which one creation has stored its row. -/
theorem creating_process : ∃ process : Process, process.Reachable exampleLibraries (load gatedVariables) ∧
    exampleUser ∈ process.requests.shared.service.users.rows := by
  rw [load_gatedVariables]
  obtain ⟨process, reachable, serving, running, fresh⟩ := serving_process exampleService_built
  obtain ⟨executed, served, rows, _⟩ := creating_executed (some keySetText)
  have added : exampleUser ∈ executed.users.rows := by
    rw [rows]
    exact List.mem_singleton_self _
  obtain ⟨rest, reached⟩ : ∃ rest, (exampleService creating).Reaches creatingHistory rest :=
    Program.reaches_of_isSome (by decide)
  have pending : (pooledMachine True exampleService).Performed 0 .initial creatingHistory ⟨creatingState, _⟩ :=
    .reply (.onTime _) <| .reply (pooled_local (Handlers.local_of nofun nofun) nofun (.readCache _)) <|
    .reply (.onTime _) <| .reply (pooled_local (Handlers.local_of nofun nofun) nofun (.fetch _ _ _)) <|
    .reply (.onTime _) <| .reply (pooled_local (Handlers.local_of nofun nofun) nofun (.writeCache _ _)) <|
    .reply (pooled_local (Handlers.local_of nofun nofun) nofun (.clock _ _)) <|
    .reply (pooled_local (Handlers.local_of nofun nofun) nofun (.pass _ _)) <|
    .reply (.onTime _) <| .reply (pooled_local (Handlers.local_of nofun nofun) nofun (.receiveBody _ _)) <|
    .reply (pooled_local (Handlers.local_of nofun nofun) nofun (.pass _ _)) <|
    .reply (pooled_local (Handlers.local_of nofun nofun) nofun (.newUuid _ _)) <|
    .reply (.onTime _) <| .reply (.send List.not_mem_nil (by decide) (.send _ rfl)) (.nothing _)
  have stored : (pooledMachine True exampleService).Performed 0 .initial (creatingHistory ++ []) ⟨executed, _⟩ :=
    pending.trans (.environment (.serves served) (.nothing _))
  rw [List.append_nil] at stored
  have joined := joined_process exampleService_built reachable serving running reached (by rw [fresh]; exact stored)
  exact ⟨_, joined, added⟩

theorem created_row_authored : ∃ (process : Process) (position : Nat),
    Authored exampleLibraries "https://auth.example/jwks.json" process position exampleUser := by
  obtain ⟨process, reachable, added⟩ := creating_process
  have given : gatedVariables.get "JWKS_URL" = some "https://auth.example/jwks.json" := by decide
  obtain ⟨positions, _, authored⟩ := rows_authored (tableLibrary_documented _ _) given reachable
  obtain ⟨index, bound, same⟩ := List.getElem_of_mem added
  have holds := authored.get (authored.length_eq ▸ bound) bound
  simp only [List.get_eq_getElem, same] at holds
  exact ⟨process, _, holds⟩

end TemplateServico
