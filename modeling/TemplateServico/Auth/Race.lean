import TemplateServico.Auth.JwksCache
import TemplateServico.Interaction.Pool

/-! Any number of calls at once that find the cache empty.

A document stands for its version: how often the endpoint had replaced its
document when it served this one.
-/

set_option autoImplicit false

namespace TemplateServico.Race

open Interaction

/-- What the calls and the endpoint do that others can notice later. -/
inductive Moment where
  | fetched (call : Nat)
  | replaced
  | stored (call : Nat)
  deriving DecidableEq, Repr

/-- A call fetched a document, and stored it after another call had fetched a later
document and stored that. -/
def Overtaken (log : List Moment) : Prop :=
  ∃ slow fast, [.fetched slow, .replaced, .fetched fast, .stored fast, .stored slow].Sublist log

def Fetched (log : List Moment) (call version : Nat) : Prop :=
  ∃ before, before ++ [.fetched call] <+: log ∧ before.count .replaced = version

section Logs

variable {log more : List Moment} {call slow fast version newer : Nat}

theorem Overtaken.mono (overtaken : Overtaken log) (grown : log <+: more) : Overtaken more := by
  obtain ⟨slow, fast, within⟩ := overtaken
  exact ⟨slow, fast, within.trans grown.sublist⟩

theorem Fetched.mono (fetched : Fetched log call version) (grown : log <+: more) : Fetched more call version := by
  obtain ⟨before, within, count⟩ := fetched
  exact ⟨before, within.trans grown, count⟩

theorem fetched_of_split {before after : List Moment} (split : log = before ++ .fetched call :: after) :
    Fetched log call (before.count .replaced) := by
  refine ⟨before, ⟨after, ?_⟩, rfl⟩
  rw [split, List.append_assoc, List.singleton_append]

theorem fetches_sublist {part : List Moment} (within : part <+: log) (first : Fetched log slow version)
    (second : Fetched part fast newer) (older : version < newer) :
    [.fetched slow, .replaced, .fetched fast].Sublist part := by
  obtain ⟨before, ⟨after, split⟩, count⟩ := first
  obtain ⟨before', within', count'⟩ := second
  have inLog : before' <+: log := ((List.prefix_append _ _).trans within').trans within
  have inLog' : before <+: log := ⟨.fetched slow :: after, by rw [← split]; simp⟩
  rcases List.prefix_or_prefix_of_prefix inLog' inLog with ⟨rest, same⟩ | shorter
  · -- What lies between starts with the first fetch.
    rw [← same, List.count_append] at count'
    have replacements : 0 < rest.count .replaced := by omega
    cases rest with
    | nil => simp at replacements
    | cons next rest =>
      obtain ⟨tail, same'⟩ := inLog
      have isFetch : next = .fetched slow := by
        rw [← split, ← same, List.append_assoc, List.append_assoc, List.append_cancel_left_eq] at same'
        simp only [List.cons_append, List.nil_append, List.cons.injEq] at same'
        exact same'.1
      rw [isFetch, List.count_cons_of_ne (by simp)] at replacements
      have replaced : Moment.replaced ∈ rest := List.count_pos_iff.mp replacements
      have middle : [.fetched slow, .replaced].Sublist before' := by
        rw [← same, isFetch]
        exact ((List.singleton_sublist.mpr replaced).cons_cons _).trans (List.sublist_append_right _ _)
      exact (middle.append (List.Sublist.refl [.fetched fast])).trans within'.sublist
  · have fewer := shorter.sublist.count_le .replaced
    omega

theorem versions_lt (ordered : [.fetched slow, .replaced, .fetched fast].Sublist log) :
    ∃ version newer, Fetched log slow version ∧ Fetched log fast newer ∧ version < newer := by
  obtain ⟨first, rest, split, inFirst, ordered⟩ := List.cons_sublist_iff.mp ordered
  obtain ⟨second, third, split', inSecond, ordered⟩ := List.cons_sublist_iff.mp ordered
  obtain ⟨before, between, same⟩ := List.append_of_mem inFirst
  obtain ⟨later, after, same'⟩ := List.append_of_mem (List.singleton_sublist.mp ordered)
  have slowSplit : log = before ++ .fetched slow :: (between ++ rest) := by
    rw [split, same, List.append_assoc, List.cons_append]
  have fastSplit : log = (first ++ second ++ later) ++ .fetched fast :: after := by
    rw [split, split', same', List.append_assoc, List.append_assoc]
  refine ⟨_, _, fetched_of_split slowSplit, fetched_of_split fastSplit, ?_⟩
  have replacements : 0 < second.count .replaced := List.count_pos_iff.mpr inSecond
  have start : before.count .replaced ≤ first.count .replaced := by
    rw [same, List.count_append]
    omega
  rw [List.count_append, List.count_append]
  omega

theorem fetch_prefix_eq {before before' : List Moment} (once : log.count (.fetched call) ≤ 1)
    (within : before' ++ [.fetched call] <+: log)
    (shorter : before ++ [.fetched call] <+: before' ++ [.fetched call]) : before = before' := by
  rcases List.prefix_concat_iff.mp shorter with same | inside
  · exact List.append_inj_left' same rfl
  · have present : .fetched call ∈ before' := inside.subset (by simp)
    have first : 0 < before'.count (.fetched call) := List.count_pos_iff.mpr present
    have twice := within.sublist.count_le (.fetched call)
    rw [List.count_append, List.count_singleton_self] at twice
    omega

theorem Fetched.unique (once : log.count (.fetched call) ≤ 1) (first : Fetched log call version)
    (second : Fetched log call newer) : version = newer := by
  obtain ⟨before, within, count⟩ := first
  obtain ⟨before', within', count'⟩ := second
  have same : before = before' := by
    rcases List.prefix_or_prefix_of_prefix within within' with shorter | shorter
    · exact fetch_prefix_eq once within' shorter
    · exact (fetch_prefix_eq once within shorter).symm
  rw [← count, ← count', same]

theorem overtaken_snoc {last : Moment} (overtaken : Overtaken (log ++ [last])) : Overtaken log ∨
    ∃ slow fast, last = .stored slow ∧
      [.fetched slow, .replaced, .fetched fast, .stored fast].Sublist log := by
  obtain ⟨slow, fast, within⟩ := overtaken
  obtain ⟨front, back, split, inLog, isLast⟩ := List.sublist_append_iff.mp within
  rcases List.sublist_singleton.mp isLast with empty | same
  · left
    rw [empty, List.append_nil] at split
    exact ⟨slow, fast, split ▸ inLog⟩
  · right
    have ends : [.fetched slow, .replaced, .fetched fast, .stored fast] ++ [.stored slow] = front ++ [last] := by
      rw [← same, ← split]
      rfl
    obtain ⟨start, finish⟩ := List.append_inj' ends rfl
    exact ⟨slow, fast, (List.singleton_inj.mp finish).symm, start ▸ inLog⟩

end Logs

/-! ## The calls and the endpoint -/

/-- The version that the cache holds, and what has happened. -/
structure Shared where
  held : Option Nat
  log : List Moment

namespace Shared

def initial : Shared := ⟨none, []⟩

def note (shared : Shared) (moment : Moment) : Shared := { shared with log := shared.log ++ [moment] }

def served (shared : Shared) : Nat := shared.log.count .replaced

end Shared

inductive Performs (position : Nat) : (op : JwksOp Nat) → Shared → op.Reply → Shared → Prop where
  | read (shared : Shared) : Performs position .readCache shared shared.held shared
  | failed (shared : Shared) (url reason : String) : Performs position (.fetch url) shared (.failed reason) shared
  | unreadable (shared : Shared) (url reason : String) :
      Performs position (.fetch url) shared (.unreadable reason) shared
  | fetch (shared : Shared) (url : String) :
      Performs position (.fetch url) shared (.body shared.served) (shared.note (.fetched position))
  | store (shared : Shared) (version : Nat) :
      Performs position (.writeCache version) shared ()
        { shared.note (.stored position) with held := some version }

theorem Performs.read_eq {position : Nat} {shared shared' : Shared} {reply : Option Nat}
    (performed : Performs position .readCache shared reply shared') : reply = shared.held ∧ shared' = shared := by
  cases performed
  exact ⟨rfl, rfl⟩

theorem Performs.store_eq {position version : Nat} {shared shared' : Shared} {reply : Unit}
    (performed : Performs position (.writeCache version) shared reply shared') :
    shared'.held = some version := by
  cases performed
  rfl

inductive Replaces (shared : Shared) : Shared → Prop where
  | replace : Replaces shared (shared.note .replaced)

def raceMachine (cache : JwksCache) : Machine (jwksInterface Nat) Shared Unit (Except String Nat) :=
  ⟨fun _ => getJwksJson cache, fun position op shared reply shared' => Performs position op shared reply shared',
    Replaces⟩

abbrev RacePool := Pool (jwksInterface Nat) Shared Unit (Except String Nat)

/-- What the log says about the fetch of a call is what the call has got. -/
structure Noted (shared : Shared) (position : Nat) (history : List (Event (jwksInterface Nat))) : Prop where
  once : shared.log.count (.fetched position) ≤ 1
  got : .fetched position ∈ shared.log → ∃ url version, ⟨.fetch url, .body version⟩ ∈ history
  fetched : ∀ url version, ⟨.fetch url, .body version⟩ ∈ history → Fetched shared.log position version

theorem Noted.grow {shared shared' : Shared} {position : Nat} {history : List (Event (jwksInterface Nat))}
    (noted : Noted shared position history) (grown : shared.log <+: shared'.log)
    (quiet : shared'.log.count (.fetched position) = shared.log.count (.fetched position)) :
    Noted shared' position history := by
  constructor
  · rw [quiet]
    exact noted.once
  · intro present
    apply noted.got
    apply List.count_pos_iff.mp
    rw [← quiet]
    exact List.count_pos_iff.mpr present
  · exact fun url version member => (noted.fetched url version member).mono grown

theorem Noted.snoc {shared : Shared} {position : Nat} {history : List (Event (jwksInterface Nat))}
    (noted : Noted shared position history) {op : JwksOp Nat} {reply : op.Reply}
    (other : ∀ url version, (⟨.fetch url, .body version⟩ : Event (jwksInterface Nat)) ≠ ⟨op, reply⟩) :
    Noted shared position (history ++ [⟨op, reply⟩]) := by
  refine ⟨noted.once, fun present => ?_, fun url version member => ?_⟩
  · obtain ⟨url, version, member⟩ := noted.got present
    exact ⟨url, version, List.mem_append_left _ member⟩
  · rcases List.mem_append.mp member with old | new
    · exact noted.fetched url version old
    · exact absurd (List.mem_singleton.mp new) (other url version)

theorem count_note {shared : Shared} {moment : Moment} {position : Nat} (other : moment ≠ .fetched position) :
    (shared.note moment).log.count (.fetched position) = shared.log.count (.fetched position) := by
  have absent : Moment.fetched position ∉ [moment] := by
    rw [List.mem_singleton]
    exact other.symm
  change (shared.log ++ [moment]).count _ = _
  rw [List.count_append, List.count_eq_zero_of_not_mem absent, Nat.add_zero]

theorem noted_linked (cache : JwksCache) : (raceMachine cache).Linked Noted where
  own := by
    intro position job op next shared reply shared' history noted reached performed
    cases performed with
    | read => exact noted.snoc (by nofun)
    | failed => exact noted.snoc (by nofun)
    | unreadable => exact noted.snoc (by nofun)
    | store _ version =>
      have grown : Noted { shared.note (.stored position) with held := some version } position history :=
        noted.grow (List.prefix_append _ _) (count_note (by nofun))
      exact grown.snoc (by nofun)
    | fetch _ url =>
      have before : history = [⟨.readCache, none⟩] := by
        rcases getJwksJson_waits reached with ⟨_, same⟩ | ⟨before, _⟩ | ⟨_, _, same⟩
        · cases same
        · exact before
        · cases same
      have absent : .fetched position ∉ shared.log := by
        intro present
        obtain ⟨_, _, member⟩ := noted.got present
        rw [before, List.mem_singleton] at member
        cases member
      constructor
      · have counted : (shared.log ++ [Moment.fetched position]).count (.fetched position) = 1 := by
          rw [List.count_append, List.count_eq_zero_of_not_mem absent, List.count_singleton_self]
        exact Nat.le_of_eq counted
      · exact fun _ => ⟨url, _, List.mem_append_right _ (List.mem_singleton.mpr rfl)⟩
      · intro other version member
        rw [before] at member
        simp only [List.cons_append, List.nil_append, List.mem_cons, List.not_mem_nil, or_false] at member
        rcases member with same | same
        · cases same
        · cases same
          exact ⟨shared.log, List.prefix_refl _, rfl⟩
  other := by
    intro position acting op shared reply shared' history different noted performed
    cases performed with
    | fetch _ url => exact noted.grow (List.prefix_append _ _) (count_note (by simpa using different))
    | store _ version => exact noted.grow (List.prefix_append _ _) (count_note (by nofun))
    | _ => exact noted
  environment := by
    intro position shared shared' history noted replaced
    cases replaced
    exact noted.grow (List.prefix_append _ _) (count_note (by nofun))

/-! ## Runs -/

section Runs

variable {cache : JwksCache} {pool later final : RacePool}

theorem noted_reachable (reachable : (raceMachine cache).Reachable .initial pool) (position : Nat) :
    Noted pool.shared position (pool.historyAt position) :=
  (noted_linked cache).reachable (fun _ => ⟨Nat.zero_le _, fun absent => absurd absent List.not_mem_nil, nofun⟩)
    reachable position

theorem log_kept (cache : JwksCache) (base : List Moment) :
    (raceMachine cache).Kept fun shared => base <+: shared.log where
  perform := by
    intro position op shared reply shared' kept performed
    cases performed with
    | fetch => exact kept.trans (List.prefix_append _ _)
    | store => exact kept.trans (List.prefix_append _ _)
    | _ => exact kept
  environment := by
    intro shared shared' kept replaced
    cases replaced
    exact kept.trans (List.prefix_append _ _)

theorem log_steps (steps : (raceMachine cache).Steps pool later) : pool.shared.log <+: later.shared.log :=
  (log_kept cache _).steps steps (List.prefix_refl _)

/-- A store changes what is held, and nothing else does. -/
theorem step_held (reachable : (raceMachine cache).Reachable .initial pool)
    (step : (raceMachine cache).Step pool later) :
    later.shared.held = pool.shared.held ∧
      (later.shared.log = pool.shared.log ∨ ∃ moment, later.shared.log = pool.shared.log ++ [moment] ∧
        ∀ call, moment ≠ .stored call) ∨
    ∃ call version, Fetched pool.shared.log call version ∧ later.shared.held = some version ∧
      later.shared.log = pool.shared.log ++ [.stored call] := by
  cases step with
  | spawn job => exact .inl ⟨rfl, .inl rfl⟩
  | environment replaced =>
    cases replaced
    exact .inl ⟨rfl, .inr ⟨.replaced, rfl, by nofun⟩⟩
  | @perform position job history op next reply shared found performed =>
    cases performed with
    | fetch _ url => exact .inl ⟨rfl, .inr ⟨.fetched position, rfl, by nofun⟩⟩
    | store _ version =>
      have noted := noted_reachable reachable position
      rw [Machine.historyAt_of_task found] at noted
      rcases getJwksJson_waits (reachable.reaches found) with ⟨_, same⟩ | ⟨_, same⟩ | ⟨json, split, same⟩
      · cases same
      · cases same
      · cases same
        exact .inr ⟨position, version, noted.fetched cache.url version (by rw [split]; simp), rfl, rfl⟩
    | _ => exact .inl ⟨rfl, .inl rfl⟩

theorem held_fetched (reachable : (raceMachine cache).Reachable .initial pool) {held : Nat}
    (holds : pool.shared.held = some held) :
    ∃ call part, part ++ [.stored call] <+: pool.shared.log ∧ Fetched part call held := by
  induction reachable with
  | refl => cases holds
  | tail before step ih =>
    rcases step_held before step with ⟨same, _⟩ | ⟨call, version, fetched, stored, log⟩
    · rw [same] at holds
      obtain ⟨call, part, within, fetched⟩ := ih holds
      exact ⟨call, part, within.trans (log_steps (.single step)), fetched⟩
    · rw [stored, Option.some.injEq] at holds
      rw [holds] at fetched
      exact ⟨call, _, ⟨[], by rw [List.append_nil, log]⟩, fetched⟩

/-- Unless a call was overtaken, a step takes the cache to no earlier version. -/
theorem step_forward (reachable : (raceMachine cache).Reachable .initial pool)
    (step : (raceMachine cache).Step pool later) (onwards : ¬ Overtaken later.shared.log) {held : Nat}
    (holds : pool.shared.held = some held) : ∃ newer, later.shared.held = some newer ∧ held ≤ newer := by
  rcases step_held reachable step with ⟨same, _⟩ | ⟨slow, version, fetched, stored, log⟩
  · exact ⟨held, same.trans holds, Nat.le_refl _⟩
  refine ⟨version, stored, ?_⟩
  -- Had this call stored an earlier version, it would have been overtaken just now.
  by_contra older
  obtain ⟨fast, part, within, fetched'⟩ := held_fetched reachable holds
  have early := fetches_sublist ((List.prefix_append _ _).trans within) fetched fetched' (by omega)
  apply onwards
  refine ⟨slow, fast, ?_⟩
  rw [log]
  exact ((early.append (List.Sublist.refl [.stored fast])).trans within.sublist).append (List.Sublist.refl _)

theorem steps_forward (reachable : (raceMachine cache).Reachable .initial pool)
    (steps : (raceMachine cache).Steps pool later) (onwards : ¬ Overtaken later.shared.log) {held : Nat}
    (holds : pool.shared.held = some held) : ∃ newer, later.shared.held = some newer ∧ held ≤ newer := by
  induction steps with
  | refl => exact ⟨held, holds, Nat.le_refl _⟩
  | tail before step ih =>
    have grown := log_steps (Relation.ReflTransGen.single step)
    obtain ⟨middle, holds', le⟩ := ih fun overtaken => onwards (overtaken.mono grown)
    obtain ⟨newer, holds'', le'⟩ := step_forward (reachable.steps before) step onwards holds'
    exact ⟨newer, holds'', Nat.le_trans le le'⟩

/-- Unless a call was overtaken, the cache holds nothing earlier than what any call stored. -/
theorem held_newest (reachable : (raceMachine cache).Reachable .initial pool)
    (onwards : ¬ Overtaken pool.shared.log) {call : Nat} (stored : .stored call ∈ pool.shared.log) :
    ∃ version held, Fetched pool.shared.log call version ∧ pool.shared.held = some held ∧ version ≤ held := by
  induction reachable with
  | refl => exact absurd stored List.not_mem_nil
  | @tail middle later before step ih =>
    have grown := log_steps (Relation.ReflTransGen.single step)
    -- What was stored before is covered by what was held, and that only grew.
    by_cases earlier : .stored call ∈ middle.shared.log
    · obtain ⟨version, held, fetched, holds, le⟩ :=
        ih (fun overtaken => onwards (overtaken.mono grown)) earlier
      obtain ⟨newer, holds', le'⟩ := step_forward before step onwards holds
      exact ⟨version, newer, fetched.mono grown, holds', Nat.le_trans le le'⟩
    · rcases step_held before step with ⟨_, same | ⟨moment, log, other⟩⟩ | ⟨storing, version, fetched, holds, log⟩
      · rw [same] at stored
        exact absurd stored earlier
      · rw [log, List.mem_append, List.mem_singleton] at stored
        exact stored.elim (absurd · earlier) fun same => absurd same.symm (other call)
      -- The call that stores now holds the cache itself.
      · rw [log, List.mem_append, List.mem_singleton] at stored
        rcases stored with old | new
        · exact absurd old earlier
        · cases new
          exact ⟨version, version, fetched.mono grown, holds, Nat.le_refl _⟩

theorem returned_held (reachable : (raceMachine cache).Reachable .initial pool)
    (onwards : ¬ Overtaken pool.shared.log) {position version : Nat} {history : List (Event (jwksInterface Nat))}
    (returned : pool.tasks[position]? = some ⟨(), history, .done (.ok version)⟩) :
    ∃ held, pool.shared.held = some held ∧ version ≤ held := by
  induction reachable generalizing history with
  | refl => cases returned
  | @tail middle later before step ih =>
    have grown := log_steps (Relation.ReflTransGen.single step)
    rcases Machine.step_task step returned with
      old | ⟨_, fresh⟩ | ⟨history', op, next, reply, found, performed, replied⟩
    · obtain ⟨held, holds, le⟩ := ih (fun overtaken => onwards (overtaken.mono grown)) old
      obtain ⟨newer, holds', le'⟩ := step_forward before step onwards holds
      exact ⟨newer, holds', Nat.le_trans le le'⟩
    · cases fresh
    · -- The last reply before the end was the document itself or that it was stored.
      have last (front : List (Event (jwksInterface Nat))) {event : Event (jwksInterface Nat)}
          (split : history = front ++ [event]) : event = ⟨op, reply⟩ := by
        have ends : front ++ [event] = history' ++ [⟨op, reply⟩] := by
          rw [← split]
          exact congrArg Task.history replied
        exact List.singleton_inj.mp (List.append_inj' ends rfl).2
      have reachable' : (raceMachine cache).Reachable .initial later := Relation.ReflTransGen.tail before step
      have reached : (getJwksJson cache).Reaches history (.done (.ok version)) := reachable'.reaches returned
      rcases getJwksJson_complete reached with
        ⟨json, split, same⟩ | ⟨_, _, _, _, same⟩ | ⟨json, split, same⟩
      · cases same
        cases last [] split
        obtain ⟨held, unchanged⟩ := Performs.read_eq performed
        exact ⟨version, by rw [unchanged]; exact held.symm, Nat.le_refl _⟩
      · cases same
      · cases same
        cases last [_, _] split
        exact ⟨version, Performs.store_eq performed, Nat.le_refl _⟩

theorem fresh_reads (reachable : (raceMachine cache).Reachable .initial pool)
    (steps : (raceMachine cache).Steps pool later) (onwards : ¬ Overtaken later.shared.log) {held : Nat}
    (holds : pool.shared.held = some held) {position : Nat} (fresh : pool.tasks.length ≤ position)
    {task : Task (jwksInterface Nat) Unit (Except String Nat)} (selected : later.tasks[position]? = some task)
    {reply : Option Nat} (read : (⟨.readCache, reply⟩ : Event (jwksInterface Nat)) ∈ task.history) :
    ∃ version, reply = some version ∧ held ≤ version := by
  induction steps generalizing task with
  | refl => exact absurd (List.getElem?_eq_some_iff.mp selected).1 (by omega)
  | @tail middle later before step ih =>
    have grown := log_steps (Relation.ReflTransGen.single step)
    have onwards' : ¬ Overtaken middle.shared.log := fun overtaken => onwards (overtaken.mono grown)
    rcases Machine.step_task step selected with
      old | ⟨_, same⟩ | ⟨history, op, next, answer, found, performed, same⟩
    · exact ih onwards' old read
    · rw [same] at read
      cases read
    · rw [same, List.mem_append, List.mem_singleton] at read
      rcases read with earlier | now
      · exact ih onwards' found earlier
      · cases now
        rw [(Performs.read_eq performed).1]
        exact steps_forward reachable before onwards' holds

/-- What a client may expect between two points of a run: the cache does not go back
to an earlier document, and once it holds one, calls that begin return one that is
no earlier than what calls have returned before. -/
structure Forward (pool later : RacePool) : Prop where
  cache : ∀ held, pool.shared.held = some held → ∃ newer, later.shared.held = some newer ∧ held ≤ newer
  calls : pool.shared.held ≠ none → ∀ (position : Nat) history result, pool.tasks.length ≤ position →
    later.tasks[position]? = some ⟨(), history, .done result⟩ → ∃ version, result = .ok version ∧
      ∀ (other : Nat) history' earlier, pool.tasks[other]? = some ⟨(), history', .done (.ok earlier)⟩ →
        earlier ≤ version

/-- The same for all points on the way to a pool. -/
def NeverBackwards (cache : JwksCache) (final : RacePool) : Prop :=
  ∀ pool later, (raceMachine cache).Reachable .initial pool → (raceMachine cache).Steps pool later →
    (raceMachine cache).Steps later final → Forward pool later

theorem forward_of_onwards (reachable : (raceMachine cache).Reachable .initial pool)
    (steps : (raceMachine cache).Steps pool later) (onwards : ¬ Overtaken later.shared.log) :
    Forward pool later := by
  refine ⟨fun held holds => steps_forward reachable steps onwards holds, ?_⟩
  intro filled position history result fresh finished
  obtain ⟨held, holds⟩ := Option.ne_none_iff_exists'.mp filled
  have reached : (getJwksJson cache).Reaches history (.done result) := (reachable.steps steps).reaches finished
  have reads (reply : Option Nat) (read : (⟨.readCache, reply⟩ : Event (jwksInterface Nat)) ∈ history) :
      ∃ version, reply = some version ∧ held ≤ version :=
    fresh_reads reachable steps onwards holds fresh finished read
  -- The call found the cache filled, so it returned what it read.
  rcases getJwksJson_complete reached with ⟨version, split, same⟩ | ⟨_, _, split, _⟩ | ⟨_, split, _⟩
  · refine ⟨version, same, fun other history' earlier returned => ?_⟩
    obtain ⟨_, read, le⟩ := reads (some version) (by simp [split])
    cases read
    have before : ¬ Overtaken pool.shared.log := fun overtaken => onwards (overtaken.mono (log_steps steps))
    obtain ⟨held', holds', le'⟩ := returned_held reachable before returned
    cases holds.symm.trans holds'
    exact Nat.le_trans le' le
  · obtain ⟨_, read, _⟩ := reads none (by simp [split])
    cases read
  · obtain ⟨_, read, _⟩ := reads none (by simp [split])
    cases read

/-- A call that is overtaken takes the cache back when it stores. -/
theorem onwards_of_forward (reachable : (raceMachine cache).Reachable .initial pool)
    (forward : NeverBackwards cache pool) : ¬ Overtaken pool.shared.log := by
  induction reachable with
  | refl =>
    intro overtaken
    obtain ⟨slow, fast, within⟩ := overtaken
    cases within
  | @tail middle later before step ih =>
    have onwards : ¬ Overtaken middle.shared.log :=
      ih fun first second reached steps rest => forward first second reached steps (rest.tail step)
    intro overtaken
    rcases step_held before step with ⟨_, same | ⟨moment, log, other⟩⟩ | ⟨call, version, fetched, stored, log⟩
    · exact onwards (same ▸ overtaken)
    · rw [log] at overtaken
      rcases overtaken_snoc overtaken with early | ⟨slow, _, same, _⟩
      · exact onwards early
      · exact other slow same
    · rw [log] at overtaken
      rcases overtaken_snoc overtaken with early | ⟨slow, fast, same, within⟩
      · exact onwards early
      -- This store completes the pattern, so a newer version is held when it is made.
      cases same
      have fetches : [Moment.fetched call, .replaced, .fetched fast].Sublist middle.shared.log :=
        List.Sublist.trans (by simp) within
      have present : .stored fast ∈ middle.shared.log := within.subset (by simp)
      obtain ⟨own, newer, fetched', fetched'', lt⟩ := versions_lt fetches
      have once (position : Nat) := (noted_reachable before position).once
      obtain ⟨_, held, stored', holds, le⟩ := held_newest before onwards present
      obtain ⟨now, stores, forwards⟩ := (forward middle later before (.single step) .refl).cache held holds
      cases stored.symm.trans stores
      cases (fetched'.unique (once call) fetched)
      cases (fetched''.unique (once fast) stored')
      omega

/-- A run keeps the cache from going backwards exactly when no call was overtaken. -/
theorem never_backwards_iff (reachable : (raceMachine cache).Reachable .initial final) :
    NeverBackwards cache final ↔ ¬ Overtaken final.shared.log := by
  constructor
  · exact onwards_of_forward reachable
  · intro onwards pool later reachable' steps rest
    exact forward_of_onwards reachable' steps fun overtaken => onwards (overtaken.mono (log_steps rest))

end Runs

/-! ## Two first calls -/

instance : DecidableEq (jwksInterface Nat).Op := inferInstanceAs (DecidableEq (JwksOp Nat))

def fetching (version : Nat) : List (Event (jwksInterface Nat)) :=
  [⟨.readCache, none⟩, ⟨.fetch exampleCache.url, .body version⟩]

def storing (version : Nat) : Program (jwksInterface Nat) (Except String Nat) :=
  .call (.writeCache version) fun _ => .done (.ok version)

theorem fetching_reaches (version : Nat) : (getJwksJson exampleCache).Reaches (fetching version) (storing version) :=
  Program.reaches_of_follow rfl

theorem storing_reaches (version : Nat) : (storing version).Reaches [⟨.writeCache version, ()⟩] (.done (.ok version)) := by
  have done : (jwksInterface Nat).Reply (.writeCache version) := ()
  exact .reply done (.start _)

theorem fetching_performed (position : Nat) {shared : Shared} (empty : shared.held = none) :
    (raceMachine exampleCache).Performed position shared (fetching shared.served) (shared.note (.fetched position)) := by
  have read : Performs position .readCache shared shared.held shared := .read shared
  rw [empty] at read
  exact .reply read (.reply (.fetch _ _) (.nothing _))

theorem storing_performed (position : Nat) (shared : Shared) (version : Nat) :
    (raceMachine exampleCache).Performed position shared [⟨.writeCache version, ()⟩]
      { shared.note (.stored position) with held := some version } :=
  .reply (.store _ _) (.nothing _)

def fetchedTask (version : Nat) : Task (jwksInterface Nat) Unit (Except String Nat) :=
  ⟨(), fetching version, storing version⟩

def storedTask (version : Nat) : Task (jwksInterface Nat) Unit (Except String Nat) :=
  ⟨(), fetching version ++ [⟨.writeCache version, ()⟩], .done (.ok version)⟩

/-- Two calls have found the cache empty and fetched, with a replacement between. -/
def inFlight : RacePool := ⟨⟨none, [.fetched 0, .replaced, .fetched 1]⟩, [fetchedTask 0, fetchedTask 1]⟩

theorem inFlight_reachable : (raceMachine exampleCache).Reachable .initial inFlight := by
  have fetches : (raceMachine exampleCache).Performed 0 .initial (fetching 0) ⟨none, [.fetched 0]⟩ :=
    fetching_performed 0 rfl
  have fetches' : (raceMachine exampleCache).Performed 1 ⟨none, [.fetched 0]⟩ (fetching 1) inFlight.shared :=
    .environment .replace (fetching_performed 1 rfl)
  exact (Machine.reachable_alone (fetching_reaches 0) fetches).joined (fetching_reaches 1) fetches'

theorem storing_steps (shared : Shared) {position version : Nat}
    {tasks : List (Task (jwksInterface Nat) Unit (Except String Nat))}
    (waiting : tasks[position]? = some (fetchedTask version)) :
    (raceMachine exampleCache).Steps ⟨shared, tasks⟩
      ⟨⟨some version, shared.log ++ [.stored position]⟩, tasks.set position (storedTask version)⟩ :=
  Machine.steps_performed (storing_performed position shared version) (storing_reaches version) waiting

/-- The later document is stored first, and then the earlier one. -/
theorem stale_document_wins :
    ¬ ∀ final, (raceMachine exampleCache).Reachable .initial final → NeverBackwards exampleCache final := by
  intro forward
  have selected : inFlight.tasks[1]? = some (fetchedTask 1) := rfl
  have fast := storing_steps inFlight.shared selected
  have waiting : (inFlight.tasks.set 1 (storedTask 1))[0]? = some (fetchedTask 0) := rfl
  have slow := storing_steps ⟨some 1, inFlight.shared.log ++ [.stored 1]⟩ waiting
  have reachable := Machine.Reachable.steps inFlight_reachable fast
  obtain ⟨newer, holds, le⟩ := (forward _ (reachable.steps slow) _ _ reachable slow .refl).cache 1 rfl
  cases holds
  omega

/-- They are stored in the order in which they were fetched. -/
theorem ordered_stores_forward : NeverBackwards exampleCache
    ⟨⟨some 1, [.fetched 0, .replaced, .fetched 1, .stored 0, .stored 1]⟩, [storedTask 0, storedTask 1]⟩ := by
  have selected : inFlight.tasks[0]? = some (fetchedTask 0) := rfl
  have waiting : (inFlight.tasks.set 0 (storedTask 0))[1]? = some (fetchedTask 1) := rfl
  have reachable := (Machine.Reachable.steps inFlight_reachable (storing_steps _ selected)).steps (storing_steps _ waiting)
  apply (never_backwards_iff reachable).mpr
  intro overtaken
  obtain ⟨slow, fast, within⟩ := overtaken
  -- As long as the log, the pattern would have to be the log.
  cases within.eq_of_length rfl

end TemplateServico.Race
