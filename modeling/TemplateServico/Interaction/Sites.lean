import TemplateServico.Interaction.Linear

/-! Machines of one kind at several sites, each with a state of its own beside a state
that they have in common.

What each machine keeps alone they keep together, where it is about the common state.
-/

set_option autoImplicit false

namespace TemplateServico.Interaction

variable {I : Interface} {L G S R A σ O : Type}

abbrev Interface.sited (I : Interface) : Interface := ⟨Nat × I.Op, fun op => I.Reply op.2⟩

def atSite (I : Interface) (site : Nat) : Embedding I I.sited where
  op := (site, ·)
  lower _ reply := reply
  raise _ reply := reply
  raise_lower _ _ := rfl

def anySite (I : Interface) : Embedding I.sited I where
  op := Prod.snd
  lower _ reply := reply
  raise _ reply := reply
  raise_lower _ _ := rfl

theorem Program.anySite_atSite {site : Nat} (program : Program I A) :
    (program.inject (atSite I site)).inject (anySite I) = program := by
  induction program with
  | done value => rfl
  | call op next ih => exact congrArg (call op) (funext ih)

theorem map_anySite_atSite {site : Nat} (history : List (Event I)) :
    (history.map (atSite I site).event).map (anySite I).event = history := by
  rw [List.map_map]
  exact List.map_id history

theorem Program.Reaches.atSite {site : Nat} {program rest : Program I A} {history : List (Event I)}
    (reached : program.Reaches history rest) :
    (program.inject (Interaction.atSite I site)).Reaches (history.map (Interaction.atSite I site).event)
      (rest.inject (Interaction.atSite I site)) := by
  induction reached with
  | start => exact .start _
  | @reply op next history rest reply _ ih =>
    let onward (answer : I.Reply op) := (next answer).inject (Interaction.atSite I site)
    exact @Program.Reaches.reply I.sited A (site, op) onward _ _ reply ih

structure Sites (L G : Type) where
  own : Nat → L
  common : G

/-- The state as one site sees it. -/
def Sites.view (join : L → G → S) (sites : Sites L G) (site : Nat) : S := join (sites.own site) sites.common

/-- An object in the common state, beside some state of a site. -/
def Shown.beside (shown : Shown S σ O) (join : L → G → S) (own : L) : Shown (Sites L G) σ O where
  object sites := shown.object (join own sites.common)
  act? sites := shown.act? (join own sites.common)

theorem Sites.moved {join : L → G → S} (whole : ∀ state, ∃ own common, join own common = state)
    (sites : Sites L G) (site : Nat) (state : S) : ∃ sites' : Sites L G, sites'.view join site = state ∧
      ∀ other ≠ site, sites'.own other = sites.own other := by
  obtain ⟨own, common, same⟩ := whole state
  refine ⟨⟨Function.update sites.own site own, common⟩, ?_, fun other different => ?_⟩
  · dsimp only [view]
    rw [Function.update_self, same]
  · exact Function.update_of_ne different _ _

namespace Machine

/-- All the machines at once. A site changes its own state and the common one. -/
def sited (machines : Nat → Machine I S R A) (join : L → G → S) : Machine I.sited (Sites L G) (Nat × R) A where
  body job := ((machines job.1).body job.2).inject (atSite I job.1)
  perform position op sites reply sites' := (∀ other ≠ op.1, sites'.own other = sites.own other) ∧
    (machines op.1).perform position op.2 (sites.view join op.1) reply (sites'.view join op.1)
  environment sites sites' := ∃ site, (∀ other ≠ site, sites'.own other = sites.own other) ∧
    (machines site).environment (sites.view join site) (sites'.view join site)

end Machine

def Pool.everySite (join : L → G → S) (own : L) (pool : Pool I.sited (Sites L G) (Nat × R) A) : Pool I S R A :=
  ⟨join own pool.shared.common, pool.tasks.map fun task =>
    ⟨task.job.2, task.history.map (anySite I).event, task.program.inject (anySite I)⟩⟩

variable {machines : Nat → Machine I S R A} {join : L → G → S} {initial : Sites L G}
  {pool : Pool I.sited (Sites L G) (Nat × R) A}

theorem Pool.everySite_task {own : L} {position : Nat} {task : Task I R A}
    (selected : (pool.everySite join own).tasks[position]? = some task) :
    ∃ tagged, pool.tasks[position]? = some tagged ∧ task.job = tagged.job.2 ∧
      task.history = tagged.history.map (anySite I).event ∧ task.program = tagged.program.inject (anySite I) := by
  obtain ⟨tagged, found, same⟩ := Option.map_eq_some_iff.mp (List.getElem?_map.symm.trans selected)
  rw [← same]
  exact ⟨tagged, found, rfl, rfl, rfl⟩

theorem Pool.everySite_done {own : L} {position site : Nat} {job : R} {history : List (Event I)} {result : A}
    (selected : pool.tasks[position]? = some ⟨(site, job), history.map (atSite I site).event, .done result⟩) :
    (pool.everySite join own).tasks[position]? = some ⟨job, history, .done result⟩ := by
  unfold everySite
  rw [List.getElem?_map, selected, Option.map_some, map_anySite_atSite]
  rfl

theorem Pool.everySite_historyAt {own : L} (position : Nat) :
    (pool.everySite join own).historyAt position = (pool.historyAt position).map (anySite I).event := by
  unfold historyAt everySite
  dsimp only
  rw [List.getElem?_map]
  cases pool.tasks[position]? with
  | none => rfl
  | some task => rfl

namespace Machine

theorem reaches_everySite (reachable : (sited machines join).Reachable initial pool) {own : L} {position : Nat}
    {task : Task I R A} (selected : (pool.everySite join own).tasks[position]? = some task) :
    ∃ site, ((machines site).body task.job).Reaches task.history task.program := by
  obtain ⟨tagged, found, job, history, program⟩ := Pool.everySite_task selected
  obtain ⟨inner, middle, events, reached, rest⟩ := Program.reaches_inject (reachable.reaches found)
  rw [job, history, program, events, rest, map_anySite_atSite, Program.anySite_atSite]
  exact ⟨tagged.job.1, reached⟩

theorem sited_kept {property : S → Prop}
    (common : ∀ own own' shared, property (join own shared) → property (join own' shared))
    (kept : ∀ site, (machines site).Kept property) :
    (sited machines join).Kept fun sites => ∀ own, property (join own sites.common) where
  perform := fun holds ⟨_, performed⟩ own => common _ own _ ((kept _).perform (holds _) performed)
  environment := fun holds ⟨site, _, changed⟩ own => common _ own _ ((kept site).environment (holds _) changed)

theorem sited_linked {link : S → Nat → List (Event I) → Prop}
    (common : ∀ own own' shared position history,
      link (join own shared) position history → link (join own' shared) position history)
    (linked : ∀ site, (machines site).Linked link) :
    (sited machines join).Linked fun sites position history =>
      ∀ own, link (join own sites.common) position (history.map (anySite I).event) where
  own := by
    intro position job op next sites reply sites' history holds reached ⟨_, performed⟩ own
    apply common
    obtain ⟨inner, middle, events, within, rest⟩ := Program.reaches_inject reached
    rw [events, map_anySite_atSite] at holds
    rw [events, List.map_append, map_anySite_atSite]
    cases middle with
    | done value => cases rest
    | call op' next' =>
      cases rest
      have performed : (machines job.1).perform position op' (join (sites.own job.1) sites.common) reply
          (join (sites'.own job.1) sites'.common) := performed
      exact (linked job.1).own (holds _) within performed
  other := fun different holds ⟨_, performed⟩ own =>
    common _ own _ _ _ ((linked _).other different (holds _) performed)
  environment := fun holds ⟨site, _, changed⟩ own =>
    common _ own _ _ _ ((linked site).environment (holds _) changed)

theorem sited_atomic {shown : Shown S σ O} {legal : O → σ → σ → Prop} (own : L)
    (common : ∀ other shared, shown.object (join other shared) = shown.object (join own shared) ∧
      shown.act? (join other shared) = shown.act? (join own shared))
    (atomic : ∀ site, (machines site).Atomic shown legal) :
    (sited machines join).Atomic (shown.beside join own) legal := by
  have seen {first second : L} {sites sites' : Sites L G}
      (acts : Acts shown legal (join first sites.common) (join second sites'.common)) :
      Acts (shown.beside join own) legal sites sites' := by
    obtain ⟨before, done⟩ := common first sites.common
    obtain ⟨after, done'⟩ := common second sites'.common
    cases acts with
    | rests object same =>
      rw [before, after] at object
      rw [done, done'] at same
      exact .rests object same
    | acts pending acted allowed =>
      rw [done] at pending
      rw [done, done'] at acted
      rw [before, after] at allowed
      exact .acts pending acted allowed
  exact ⟨fun ⟨_, performed⟩ => seen ((atomic _).perform performed),
    fun ⟨site, _, changed⟩ => seen ((atomic site).environment changed)⟩

/-- What a task does at its site alone it can do beside all the others. -/
theorem Performed.sited {site position : Nat} {state final : S} {history : List (Event I)}
    (whole : ∀ state, ∃ own common, join own common = state)
    (performed : (machines site).Performed position state history final) (sites : Sites L G)
    (seen : sites.view join site = state) :
    ∃ sites', sites'.view join site = final ∧ (∀ other ≠ site, sites'.own other = sites.own other) ∧
      (Machine.sited machines join).Performed position sites (history.map (atSite I site).event) sites' := by
  induction performed generalizing sites with
  | nothing state => exact ⟨sites, seen, fun _ _ => rfl, .nothing _⟩
  | @reply op reply state middle final later performs _ ih =>
    obtain ⟨between, reached, others⟩ := sites.moved whole site middle
    obtain ⟨last, finished, same, onward⟩ := ih between reached
    refine ⟨last, finished, fun other different => (same other different).trans (others other different), ?_⟩
    rw [← seen, ← reached] at performs
    have first : (Machine.sited machines join).perform position (site, op) sites reply between := ⟨others, performs⟩
    exact @Performed.reply _ _ _ _ _ _ (site, op) reply _ _ _ _ first onward
  | @environment state middle final history changed _ ih =>
    obtain ⟨between, reached, others⟩ := sites.moved whole site middle
    obtain ⟨last, finished, same, onward⟩ := ih between reached
    refine ⟨last, finished, fun other different => (same other different).trans (others other different), ?_⟩
    rw [← seen, ← reached] at changed
    exact .environment ⟨site, others, changed⟩ onward

end Machine

end TemplateServico.Interaction
