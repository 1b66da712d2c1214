import TemplateServico.Interaction.Sites
import TemplateServico.Linearizability
import TemplateServico.Main

/-! Any number of processes of the service on one database.

Each has a configuration and a key cache of its own, and they run side by side or
one after the other. A process that has ended is one whose requests get no further;
a statement that it has sent may still be executed.
-/

set_option autoImplicit false

namespace TemplateServico

open Http Interaction Postgres

/-- What the processes have in common. -/
structure Database where
  users : UsersTable
  connections : Nat → Connection
  journal : List (Nat × User)

def Database.empty : Database := ⟨Relational.Table.empty usersSchema, fun _ => .idle, []⟩

def serviceState (cachedJson : Option String) (database : Database) : ServiceState :=
  ⟨cachedJson, database.users, database.connections, database.journal⟩

abbrev ProcessesPool := Pool serviceInterface.sited (Sites (Option String) Database) (Nat × Request) Response

-- A job is a request with the process that it came to.
def processesMachine (services : Nat → Request → ServiceProgram Response) :
    Machine serviceInterface.sited (Sites (Option String) Database) (Nat × Request) Response :=
  .sited (fun process => serviceMachine (services process)) serviceState

def beforeProcesses : Sites (Option String) Database := ⟨fun _ => none, .empty⟩

/-- All requests, over the database. -/
def requestsOf (pool : ProcessesPool) : Pool serviceInterface ServiceState Request Response :=
  pool.everySite serviceState none

theorem serviceState_whole (state : ServiceState) : ∃ cachedJson database, serviceState cachedJson database = state :=
  ⟨state.cachedJson, ⟨state.users, state.connections, state.journal⟩, rfl⟩

section Runs

variable {libs : Libraries} {configs : Nat → AppConfig} {services : Nat → Request → ServiceProgram Response}
  {pool : ProcessesPool}

theorem consistent_processes : (processesMachine services).Kept fun sites =>
    ∀ cachedJson, Consistent (serviceState cachedJson sites.common) :=
  Machine.sited_kept (fun _ _ _ consistent => ⟨consistent.rows, consistent.owners, consistent.inserts⟩)
    fun _ => consistent_kept

theorem attached_processes : (processesMachine services).Linked fun sites position history =>
    ∀ cachedJson, Attached (serviceState cachedJson sites.common) position
      (history.map (anySite serviceInterface).event) :=
  Machine.sited_linked (fun _ _ _ _ _ attached => ⟨attached.sent, attached.received⟩)
    fun process => attached_linked (services process)

theorem atomic_processes :
    (processesMachine services).Atomic (usersShown.beside serviceState none) UsersAct.Legal :=
  Machine.sited_atomic none (fun _ _ => ⟨rfl, rfl⟩) fun process => service_atomic (services process)

theorem genuine_processes (built : ∀ process, createRouter libs (appState (configs process)) = some (services process))
    (reachable : (processesMachine services).Reachable beforeProcesses pool) : Genuine libs (requestsOf pool) where
  consistent := by
    apply consistent_processes.reachable reachable
    exact fun _ => ⟨consistent_initial.rows, consistent_initial.owners, consistent_initial.inserts⟩
  attached := by
    intro position
    unfold requestsOf
    rw [Pool.everySite_historyAt]
    have start (other : Nat) (cachedJson : Option String) :
        Attached (serviceState cachedJson beforeProcesses.common) other [] :=
      ⟨(attached_initial other).sent, (attached_initial other).received⟩
    exact attached_processes.reachable start reachable position none
  served := by
    intro position task selected
    obtain ⟨process, reached⟩ := Machine.reaches_everySite reachable selected
    exact ⟨_, _, built process, reached⟩

/-- What a request does in its process alone it can do beside all the others. -/
theorem performed_beside {process position : Nat} {sites : Sites (Option String) Database} {final : ServiceState}
    {history : List (Event serviceInterface)}
    (performed : (serviceMachine (services process)).Performed position (sites.view serviceState process) history final) :
    ∃ sites' : Sites (Option String) Database, sites'.view serviceState process = final ∧
      (∀ other ≠ process, sites'.own other = sites.own other) ∧
      (processesMachine services).Performed position sites
        (history.map (atSite serviceInterface process).event) sites' :=
  Machine.Performed.sited serviceState_whole performed sites rfl

/-- Whatever processes come, go, and fail at any time, there is one growing order of
acts on the users which explains the table and the responses of all of them. No row
is ever lost or changed. -/
theorem users_outlive_processes
    (built : ∀ process, createRouter libs (appState (configs process)) = some (services process))
    (run : (processesMachine services).Run beforeProcesses) :
    ∃ logs : Nat → List (Nat × UsersAct),
      (∀ moment, Linearizes libs (requestsOf (run.pool moment)) (logs moment)) ∧
      ∀ early late, early ≤ late → logs early <+: logs late ∧
        (run.pool early).shared.common.users.rows <+: (run.pool late).shared.common.users.rows ∧
        ∀ first second, first ∈ logs early → second ∈ logs late →
          (run.pool early).tasks.length ≤ second.1 → [first, second].Sublist (logs late) := by
  obtain ⟨logs, records, grows⟩ := run.recorded atomic_processes fun _ => rfl
  have explains (moment : Nat) : Linearizes libs (requestsOf (run.pool moment)) (logs moment) := by
    obtain ⟨replays, positions, entries⟩ := records moment
    exact .of_records (genuine_processes built (run.reachable moment)) ⟨replays, positions, entries⟩
  refine ⟨logs, explains, fun early late ordered => ⟨grows early late ordered, ?_, ?_⟩⟩
  · have kept : (processesMachine services).Kept fun sites => ∀ cachedJson,
        (run.pool early).shared.common.users.rows <+: (serviceState cachedJson sites.common).users.rows :=
      Machine.sited_kept (fun _ _ _ grown => grown) fun process => rows_kept (services process) _
    exact kept.steps (run.steps ordered) (fun _ => List.prefix_refl _) none
  · intro first second before after fresh
    apply Records.precedes (grows early late ordered) before after
    intro member
    -- The request of an entry has come already.
    obtain ⟨task, selected, _⟩ := (explains early).asked second.1 second.2 member
    obtain ⟨tagged, found, _⟩ := Pool.everySite_task selected
    rw [List.getElem?_eq_none fresh] at found
    cases found

end Runs

theorem exampleProcesses_built : ∀ _ : Nat, createRouter exampleLibraries (appState exampleConfig) = some exampleService :=
  fun _ => rfl

theorem listed_performed {state : ServiceState} (uncached : state.cachedJson = none)
    (rows : state.users.rows = [exampleUser]) (idle : state.connections 1 = .idle) :
    ∃ final, (serviceMachine exampleService).Performed 1 state listedHistory final := by
  have missed : Performs 1 (.jwks .readCache) state none state := uncached ▸ .readCache state
  have reads : Executes .selectUsers state.users (.ok [exampleUser]) state.users :=
    .runs exampleUser.createdAt (.ok (.of_eq rows))
  obtain ⟨asking, asked, sent, users⟩ : ∃ asking, Performs 1 (.send .selectUsers)
      { state with cachedJson := some keySetText } (.ok ()) asking ∧
      asking.connections 1 = .sent .selectUsers ∧ asking.users = state.users :=
    ⟨_, .send .selectUsers idle, by simp, rfl⟩
  rw [← users] at reads
  obtain ⟨final, answered, _⟩ := answered_performed exampleService sent reads
  have asks : (serviceMachine exampleService).Performed 1 state
      (fullTokenHistory ++ [⟨.deadline, false⟩, ⟨.send .selectUsers, .ok ()⟩]) asking :=
    .reply (.deadline _ _) (.reply missed (.reply (.deadline _ _) (.reply (.fetch _ _ _)
      (.reply (.deadline _ _) (.reply (.writeCache _ _) (.reply (.clock _ _) (.reply (.pass _ _)
      (.reply (.pass _ _) (.reply (.deadline _ _) (.reply asked (.nothing _)))))))))))
  exact ⟨final, asks.trans answered⟩

/-- Ana is created by one process. Another one, which has to fetch the keys for
itself, lists her. -/
theorem created_listed_elsewhere : ∃ (run : (processesMachine fun _ => exampleService).Run beforeProcesses)
    (moment : Nat) (log : List (Nat × UsersAct)), Linearizes exampleLibraries (requestsOf (run.pool moment)) log ∧
    ∃ first second, (0, first) ∈ log ∧ (1, second) ∈ log ∧
      first.response.status = .CREATED ∧ second.response.status = .OK := by
  let services (_ : Nat) := exampleService
  obtain ⟨created, creates, isCreated⟩ := created_reached
  obtain ⟨listed, lists, isListed⟩ := listed_reached
  obtain ⟨afterwards, creation, rows, idle⟩ := created_performed
  have creation : (serviceMachine (services 0)).Performed 0 (beforeProcesses.view serviceState 0) createdHistory
      afterwards := creation
  obtain ⟨between, seen, others, createdThere⟩ := performed_beside creation
  rw [← seen] at rows idle
  have uncached : (between.view serviceState 1).cachedJson = none := others 1 (by decide)
  obtain ⟨_, listing⟩ := listed_performed uncached rows idle
  have listing : (serviceMachine (services 1)).Performed 1 (between.view serviceState 1) listedHistory _ := listing
  obtain ⟨final, _, _, listedThere⟩ := performed_beside listing
  have creates : ((processesMachine services).body (0, creating)).Reaches _ (.done created) := creates.atSite
  have lists : ((processesMachine services).body (1, bearing "full")).Reaches _ (.done listed) := lists.atSite
  obtain ⟨run, moment, same⟩ := ((Machine.reachable_alone creates createdThere).joined lists listedThere).run
  obtain ⟨logs, explains, _⟩ := users_outlive_processes exampleProcesses_built run
  have answered : Answered (requestsOf (run.pool moment)) 0 creating createdHistory created := by
    rw [same]
    exact Pool.everySite_done rfl
  have answered' : Answered (requestsOf (run.pool moment)) 1 (bearing "full") listedHistory listed := by
    rw [same]
    exact Pool.everySite_done rfl
  obtain ⟨first, member, told⟩ :=
    (explains moment).told 0 _ _ _ .createUser answered rfl rfl (definite_created isCreated)
  obtain ⟨second, member', told'⟩ :=
    (explains moment).told 1 _ _ _ .listUsers answered' rfl rfl (definite_ok isListed)
  exact ⟨run, moment, logs moment, explains moment, first, second, member, member',
    told.status.symm.trans isCreated, told'.status.symm.trans isListed⟩

end TemplateServico
