import TemplateServico.Interaction.Pool
import Mathlib.Data.List.Nodup
import Mathlib.Data.List.Infix
import Mathlib.Logic.Function.Basic

/-! The methods of the Redis cache, called by anyone at any time, over one server.

The server is a parameter, and nobody else writes to it. A call whose connection fails
does not know what becomes of its command: the server may execute it much later, or never.
-/

set_option autoImplicit false

namespace TemplateServico.RedisCache

open Interaction

/-! ## The client -/

inductive Command where
  | get (key : String)
  | setEx (key value : String) (seconds : UInt64)
  | del (key : String)
  deriving DecidableEq, Repr

inductive Reply where
  | nil
  | okay
  | bulk (value : String)
  | integer (n : Nat)
  deriving DecidableEq, Repr

inductive RedisError where
  | server (text : String)
  | connection (text : String)
  deriving DecidableEq, Repr

inductive Call where
  | get (key : String)
  | set (key value : String) (ttlSecs : UInt64)
  | delete (key : String)
  deriving DecidableEq, Repr

inductive Answer where
  | found (value? : Option String)
  | done
  deriving DecidableEq, Repr

abbrev cacheInterface : Interface := ⟨Command, fun _ => Except RedisError Reply⟩

def Call.command : Call → Command
  | .get key => .get key
  | .set key value ttlSecs => .setEx key value ttlSecs
  | .delete key => .del key

/-- A reply as the type that the method returns. -/
def Call.fromReply : Call → Reply → Answer
  | .get _, .nil => .found none
  | .get _, .okay => .found (some "OK")
  | .get _, .bulk value => .found (some value)
  | .get _, .integer n => .found (some (toString n))
  | .set _ _ _, _ | .delete _, _ => .done

def Call.run (call : Call) : Program cacheInterface (Except RedisError Answer) :=
  .call call.command fun
    | .error error => .done (.error error)
    | .ok reply => .done (.ok (call.fromReply reply))

/-! ## The server -/

/-- A value and the last millisecond at which it is there. -/
structure Entry where
  value : String
  expires : Nat
  deriving DecidableEq, Repr

def visible (held? : Option Entry) (now : Nat) : Option Entry := held?.filter fun entry => now ≤ entry.expires

structure Server where
  State : Type
  now : State → Nat
  held : State → String → Option Entry
  Executes : Command → State → Except String Reply → State → Prop
  -- Time passes, and what is held may go.
  Continues : State → State → Prop

/-- A command that the server has executed for the call at a position. -/
structure Executed where
  position : Nat
  time : Nat
  command : Command
  outcome : Except String Reply

/-- What an executed command leaves behind under a key, if it writes there. -/
def Executed.leaves (key : String) (executed : Executed) : Option (Option Entry) :=
  match executed.command, executed.outcome with
  | .setEx written value seconds, .ok _ =>
    if written = key then some (some ⟨value, executed.time + 1000 * seconds.toNat⟩) else none
  | .del written, .ok _ => if written = key then some none else none
  | _, _ => none

/-- From now on a key shows what is due there. A server that loses values may also show nothing. -/
def Server.Shows (server : Server) (lossy : Prop) (state : server.State) (key : String) (due : Option Entry) : Prop :=
  ∀ time, server.now state ≤ time → visible (server.held state key) time = visible due time ∨
    lossy ∧ visible (server.held state key) time = none

def found (held? : Option Entry) : Reply := held?.elim .nil fun entry => .bulk entry.value

/-- What is documented of the three commands, with or without eviction. -/
structure Server.Documented (server : Server) (lossy : Prop) : Prop where
  finds : ∀ {key state reply state'}, server.Executes (.get key) state (.ok reply) state' →
    reply = found (visible (server.held state key) (server.now state))
  writes : ∀ {command state outcome state'} (position : Nat) (key : String),
    server.Executes command state outcome state' → server.Shows lossy state' key
      ((Executed.leaves key ⟨position, server.now state, command, outcome⟩).getD (server.held state key))
  keeps : ∀ {state state'} (key : String), server.Continues state state' →
    server.Shows lossy state' key (server.held state key)
  executing : ∀ {command state outcome state'}, server.Executes command state outcome state' →
    server.now state ≤ server.now state'
  continuing : ∀ {state state'}, server.Continues state state' → server.now state ≤ server.now state'

variable {server : Server} {lossy : Prop}

theorem Server.Shows.trans {state state' : server.State} {key : String} {due : Option Entry}
    (later : server.Shows lossy state' key (server.held state key)) (shows : server.Shows lossy state key due)
    (past : server.now state ≤ server.now state') : server.Shows lossy state' key due := by
  intro time ahead
  rcases later time ahead with same | gone
  · rcases shows time (past.trans ahead) with due | ⟨loses, empty⟩
    · exact .inl (same.trans due)
    · exact .inr ⟨loses, same.trans empty⟩
  · exact .inr gone

/-! ## Calls at once -/

-- The log is kept for the proofs only.
structure CacheState (server : Server) where
  store : server.State
  -- Commands of calls that have failed.
  pending : List (Nat × Command)
  log : List Executed

def CacheState.now (state : CacheState server) : Nat := server.now state.store

def CacheState.execute (state : CacheState server) (position : Nat) (command : Command) (outcome : Except String Reply)
    (store : server.State) : CacheState server :=
  { state with store := store, log := state.log ++ [⟨position, state.now, command, outcome⟩] }

def replyOf : Except String Reply → Except RedisError Reply
  | .error text => .error (.server text)
  | .ok reply => .ok reply

inductive Performs (position : Nat) (command : Command) (state : CacheState server) :
    Except RedisError Reply → CacheState server → Prop where
  | answers {outcome : Except String Reply} {store : server.State} : server.Executes command state.store outcome store →
      Performs position command state (replyOf outcome) (state.execute position command outcome store)
  | fails (text : String) : Performs position command state (.error (.connection text))
      { state with pending := state.pending ++ [(position, command)] }

inductive Continues (state : CacheState server) : CacheState server → Prop where
  | passes {store : server.State} : server.Continues state.store store → Continues state { state with store := store }
  | executes {position : Nat} {command : Command} {outcome : Except String Reply} {store : server.State} :
      (position, command) ∈ state.pending → server.Executes command state.store outcome store →
      Continues state
        { state.execute position command outcome store with pending := state.pending.erase (position, command) }

def cacheMachine (server : Server) : Machine cacheInterface (CacheState server) Call (Except RedisError Answer) :=
  ⟨Call.run, fun position command state reply state' => Performs position command state reply state', Continues⟩

def CacheState.initial (store : server.State) : CacheState server := ⟨store, [], []⟩

/-! ## What keys hold -/

/-- What the last of the commands that write to a key has left there. -/
def lastWrite (base : Option Entry) (log : List Executed) (key : String) : Option Entry :=
  (log.filterMap (Executed.leaves key)).getLast?.getD base

theorem lastWrite_snoc (base : Option Entry) (log : List Executed) (executed : Executed) (key : String) :
    lastWrite base (log ++ [executed]) key = (executed.leaves key).getD (lastWrite base log key) := by
  unfold lastWrite
  rw [List.filterMap_append]
  cases left : executed.leaves key with
  | none => simp [left]
  | some held? => simp [left]

/-- The log explains what the server holds and what it has found. -/
structure Explained (lossy : Prop) (start : server.State) (state : CacheState server) : Prop where
  store : ∀ key, server.Shows lossy state.store key (lastWrite (server.held start key) state.log key)
  finds : ∀ before executed after, state.log = before ++ executed :: after → ∀ key reply, executed.command = .get key →
    executed.outcome = .ok reply →
    reply = found (visible (lastWrite (server.held start key) before key) executed.time) ∨ lossy ∧ reply = .nil
  past : ∀ executed ∈ state.log, executed.time ≤ state.now

theorem Explained.execute (documented : server.Documented lossy) {start store : server.State} {state : CacheState server}
    (explained : Explained lossy start state) (position : Nat) {command : Command} {outcome : Except String Reply}
    (executes : server.Executes command state.store outcome store) :
    Explained lossy start (state.execute position command outcome store) where
  store := by
    intro key
    change server.Shows lossy store key (lastWrite _ (state.log ++ [_]) key)
    have after := documented.writes position key executes
    rw [lastWrite_snoc]
    unfold CacheState.now
    cases left : Executed.leaves key ⟨position, server.now state.store, command, outcome⟩ with
    | some due =>
      rw [left] at after
      exact after
    | none =>
      rw [left] at after
      exact after.trans (explained.store key) (documented.executing executes)
  finds := by
    intro before executed after split key reply asks told
    change state.log ++ [_] = before ++ executed :: after at split
    rcases List.eq_nil_or_concat after with last | ⟨init, final, longer⟩
    · rw [last] at split
      obtain ⟨same, entry⟩ := List.append_inj' split rfl
      rw [← List.singleton_inj.mp entry] at asks told ⊢
      cases asks
      cases told
      rw [documented.finds executes, ← same]
      rcases explained.store key state.now (Nat.le_refl _) with due | ⟨loses, empty⟩
      · exact .inl (congrArg found due)
      · exact .inr ⟨loses, congrArg found empty⟩
    · rw [longer, List.concat_eq_append, ← List.cons_append, ← List.append_assoc] at split
      exact explained.finds before executed init (List.append_inj' split rfl).1 key reply asks told
  past := by
    intro executed member
    have later : state.now ≤ server.now store := documented.executing executes
    rcases List.mem_append.mp member with old | new
    · exact (explained.past executed old).trans later
    · rw [List.mem_singleton.mp new]
      exact later

abbrev CachePool (server : Server) := Pool cacheInterface (CacheState server) Call (Except RedisError Answer)

/-- The command of a call that has had its reply. -/
def Made (pool : CachePool server) (position : Nat) (command : Command) : Prop :=
  ∃ task, pool.tasks[position]? = some task ∧ command = task.job.command ∧ task.history ≠ []

theorem Made.step {pool later : CachePool server} {position : Nat} {command : Command} (made : Made pool position command)
    (step : (cacheMachine server).Step pool later) : Made later position command := by
  obtain ⟨task, selected, same, replied⟩ := made
  obtain ⟨after, selected', job, new, history, _⟩ := Machine.step_extends step selected
  refine ⟨after, selected', by rw [same, job], ?_⟩
  rw [history]
  exact List.append_ne_nil_of_left_ne_nil replied new

def CacheState.positions (state : CacheState server) : List Nat :=
  state.log.map Executed.position ++ state.pending.map Prod.fst

/-- Everything that the server has executed, or may still execute, was asked for once. -/
structure Owned (pool : CachePool server) : Prop where
  log : ∀ executed ∈ pool.shared.log, Made pool executed.position executed.command
  pending : ∀ entry ∈ pool.shared.pending, Made pool entry.1 entry.2
  once : pool.shared.positions.Nodup

theorem Owned.made {pool : CachePool server} (owned : Owned pool) {position : Nat}
    (member : position ∈ pool.shared.positions) :
    ∃ command, Made pool position command := by
  rcases List.mem_append.mp member with executed | waiting
  · obtain ⟨executed, inLog, same⟩ := List.mem_map.mp executed
    exact ⟨_, same ▸ owned.log executed inLog⟩
  · obtain ⟨entry, inPending, same⟩ := List.mem_map.mp waiting
    exact ⟨_, same ▸ owned.pending entry inPending⟩

theorem run_calls {call : Call} {history : List (Event cacheInterface)} {command : Command}
    {next : Except RedisError Reply → Program cacheInterface (Except RedisError Answer)}
    (reached : call.run.Reaches history (.call command next)) :
    history = [] ∧ command = call.command := by
  rcases Program.reaches_call.mp reached with ⟨empty, same⟩ | ⟨reply, later, _, onward⟩
  · cases same
    exact ⟨empty, rfl⟩
  · cases reply with
    | error error => cases (Program.reaches_done.mp onward).2
    | ok reply => cases (Program.reaches_done.mp onward).2

theorem Owned.step {start : server.State} {pool later : CachePool server} (owned : Owned pool)
    (reachable : (cacheMachine server).Reachable (.initial start) pool) (step : (cacheMachine server).Step pool later) :
    Owned later := by
  have logged : ∀ executed ∈ pool.shared.log, Made later executed.position executed.command :=
    fun executed member => (owned.log executed member).step step
  have waits : ∀ entry ∈ pool.shared.pending, Made later entry.1 entry.2 :=
    fun entry member => (owned.pending entry member).step step
  cases step with
  | spawn job => exact ⟨logged, waits, owned.once⟩
  | @perform position job history command next reply shared found performed =>
    obtain ⟨empty, same⟩ := run_calls (reachable.reaches found)
    have bound := (List.getElem?_eq_some_iff.mp found).1
    have own : Made ⟨shared, pool.tasks.set position ⟨job, history ++ [⟨command, reply⟩], next reply⟩⟩ position command :=
      ⟨_, List.getElem?_set_self bound, same, by simp⟩
    -- The call has had no reply before.
    have absent : position ∉ pool.shared.positions := by
      intro member
      obtain ⟨_, task, selected, _, replied⟩ := owned.made member
      cases found.symm.trans selected
      exact replied empty
    cases performed with
    | answers _ =>
      refine ⟨fun executed member => ?_, waits, ?_⟩
      · rcases List.mem_append.mp member with old | new
        · exact logged executed old
        · rw [List.mem_singleton.mp new]
          exact own
      · change ((pool.shared.log ++ [_]).map Executed.position ++ pool.shared.pending.map Prod.fst).Nodup
        rw [List.map_append, List.append_assoc]
        exact (List.perm_middle.nodup_iff).mpr (List.nodup_cons.mpr ⟨absent, owned.once⟩)
    | fails text =>
      refine ⟨logged, fun entry member => ?_, ?_⟩
      · rcases List.mem_append.mp member with old | new
        · exact waits entry old
        · rw [List.mem_singleton.mp new]
          exact own
      · change (pool.shared.log.map Executed.position ++ (pool.shared.pending ++ [_]).map Prod.fst).Nodup
        rw [List.map_append, ← List.append_assoc]
        exact (List.perm_append_singleton _ _).nodup_iff.mpr (List.nodup_cons.mpr ⟨absent, owned.once⟩)
  | environment continues =>
    cases continues with
    | passes _ => exact ⟨logged, waits, owned.once⟩
    | @executes position command _ _ waiting _ =>
      refine ⟨fun executed member => ?_, fun entry member => waits entry (List.mem_of_mem_erase member), ?_⟩
      · rcases List.mem_append.mp member with old | new
        · exact logged executed old
        · rw [List.mem_singleton.mp new]
          exact waits _ waiting
      · change ((pool.shared.log ++ [_]).map Executed.position ++
          (pool.shared.pending.erase (position, command)).map Prod.fst).Nodup
        have moved := (List.perm_cons_erase waiting).map Prod.fst
        rw [List.map_append, List.append_assoc]
        exact (moved.append_left _).nodup_iff.mp owned.once

def Answered (state : CacheState server) (position : Nat) (history : List (Event cacheInterface)) : Prop :=
  ∀ event ∈ history, (∃ text, event.2 = .error (.connection text)) ∨
    ∃ executed ∈ state.log, executed.position = position ∧ executed.command = event.1 ∧
      event.2 = replyOf executed.outcome

theorem Answered.grow {state state' : CacheState server} {position : Nat} {history : List (Event cacheInterface)}
    (answered : Answered state position history) (grown : state.log ⊆ state'.log) :
    Answered state' position history := by
  intro event member
  rcases answered event member with lost | ⟨executed, inLog, rest⟩
  · exact .inl lost
  · exact .inr ⟨executed, grown inLog, rest⟩

/-- What has been executed since an earlier state. -/
structure Since (base state : CacheState server) (new : List Executed) : Prop where
  log : state.log = base.log ++ new
  now : base.now ≤ state.now
  times : ∀ executed ∈ new, base.now ≤ executed.time

theorem Since.execute (documented : server.Documented lossy) {base state : CacheState server} {new : List Executed}
    (since : Since base state new) (position : Nat) {command : Command} {outcome : Except String Reply}
    {store : server.State} (executes : server.Executes command state.store outcome store) :
    ∃ more, Since base (state.execute position command outcome store) more := by
  refine ⟨new ++ [⟨position, state.now, command, outcome⟩], ?_, ?_, fun executed member => ?_⟩
  · unfold CacheState.execute
    rw [since.log, List.append_assoc]
  · exact since.now.trans (documented.executing executes)
  · rcases List.mem_append.mp member with old | last
    · exact since.times executed old
    · rw [List.mem_singleton.mp last]
      exact since.now

section Runs

variable {start : server.State} {earlier later : CachePool server}

theorem Owned.fresh (owned : Owned earlier) {executed : Executed} (member : executed ∈ earlier.shared.log) :
    executed.position < earlier.tasks.length := by
  obtain ⟨task, selected, _⟩ := owned.log executed member
  exact (List.getElem?_eq_some_iff.mp selected).1

end Runs

/-! ## A value that is set and found -/

/-- The server's times are signed integers of 64 bits. -/
def maxTime : Nat := 9223372036854775807

-- When a value is over that is to live for some seconds.
def expiry (seconds : UInt64) (now : Nat) : Except String Nat :=
  if maxTime < seconds.toNat then .error "value is not an integer or out of range"
  else if seconds.toNat = 0 ∨ maxTime < now + 1000 * seconds.toNat then
    .error "invalid expire time in 'setex' command"
  else .ok (now + 1000 * seconds.toNat)

abbrev Store := String → Option Entry

def execute (command : Command) (now : Nat) (store : Store) : Except String Reply × Store :=
  match command with
  | .get key => (.ok (found (visible (store key) now)), store)
  | .setEx key value seconds =>
    match expiry seconds now with
    | .error text => (.error text, store)
    | .ok expires => (.ok .okay, Function.update store key (some ⟨value, expires⟩))
  | .del key =>
    (.ok (.integer (if (visible (store key) now).isSome then 1 else 0)), Function.update store key none)

end TemplateServico.RedisCache
