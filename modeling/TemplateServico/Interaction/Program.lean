import Mathlib.Data.List.Basic
import Mathlib.Logic.Basic

/-! Programs that wait on an environment.

A program is a finite tree of requests: at each request it is suspended until
a reply arrives, and it may be dropped there. Nothing is assumed about replies,
so a fact about every history holds for every scheduler and every peer.
-/

set_option autoImplicit false

namespace TemplateServico.Interaction

/-- The requests a program may make, each with the type of its reply. -/
structure Interface where
  Op : Type
  Reply : Op → Type

abbrev Event (I : Interface) := (op : I.Op) × I.Reply op

inductive Program (I : Interface) (A : Type) where
  | done (value : A)
  | call (op : I.Op) (next : I.Reply op → Program I A)

namespace Program

variable {I J : Interface} {A B C : Type}

def bind : Program I A → (A → Program I B) → Program I B
  | .done value, f => f value
  | .call op next, f => .call op (fun reply => (next reply).bind f)

instance : Monad (Program I) where
  pure := done
  bind := bind

@[simp] theorem pure_eq (value : A) : (pure value : Program I A) = .done value := rfl

@[simp] theorem done_bind (value : A) (f : A → Program I B) :
    (.done value : Program I A) >>= f = f value := rfl

@[simp] theorem call_bind (op : I.Op) (next : I.Reply op → Program I A) (f : A → Program I B) :
    .call op next >>= f = .call op (fun reply => next reply >>= f) := rfl

theorem bind_done (program : Program I A) : program.bind .done = program := by
  induction program with
  | done value => rfl
  | call op next ih => exact congrArg (call op) (funext ih)

theorem bind_bind (program : Program I A) (f : A → Program I B) (g : B → Program I C) :
    (program.bind f).bind g = program.bind (fun value => (f value).bind g) := by
  induction program with
  | done value => rfl
  | call op next ih => exact congrArg (call op) (funext ih)

instance : LawfulMonad (Program I) :=
  LawfulMonad.mk' (Program I) bind_done (fun _ _ => rfl) bind_bind

/-- What is left of a program after the replies of a history. -/
inductive Reaches : Program I A → List (Event I) → Program I A → Prop where
  | start (program : Program I A) : Reaches program [] program
  | reply {op : I.Op} {next : I.Reply op → Program I A} {history : List (Event I)}
      {rest : Program I A} (reply : I.Reply op) :
      Reaches (next reply) history rest → Reaches (.call op next) (⟨op, reply⟩ :: history) rest

@[simp] theorem reaches_done {value : A} {history : List (Event I)} {rest : Program I A} :
    (done value).Reaches history rest ↔ history = [] ∧ rest = done value := by
  constructor
  · intro reached
    cases reached
    exact ⟨rfl, rfl⟩
  · rintro ⟨rfl, rfl⟩
    exact .start _

theorem reaches_call {op : I.Op} {next : I.Reply op → Program I A} {history : List (Event I)}
    {rest : Program I A} :
    (call op next).Reaches history rest ↔
      (history = [] ∧ rest = call op next) ∨
      ∃ reply later, history = ⟨op, reply⟩ :: later ∧ (next reply).Reaches later rest := by
  constructor
  · intro reached
    cases reached with
    | start => exact .inl ⟨rfl, rfl⟩
    | reply reply tail => exact .inr ⟨reply, _, rfl, tail⟩
  · rintro (⟨rfl, rfl⟩ | ⟨reply, later, rfl, tail⟩)
    · exact .start _
    · exact .reply reply tail

theorem Reaches.trans {program middle rest : Program I A} {first second : List (Event I)}
    (left : program.Reaches first middle) (right : middle.Reaches second rest) :
    program.Reaches (first ++ second) rest := by
  induction left with
  | start => exact right
  | reply reply _ ih => exact .reply reply (ih right)

theorem Reaches.snoc {program : Program I A} {history : List (Event I)} {op : I.Op}
    {next : I.Reply op → Program I A} (reached : program.Reaches history (.call op next))
    (reply : I.Reply op) : program.Reaches (history ++ [⟨op, reply⟩]) (next reply) :=
  reached.trans (.reply reply (.start _))

theorem Reaches.bind {program middle : Program I A} {history : List (Event I)}
    (reached : program.Reaches history middle) (f : A → Program I B) :
    (program >>= f).Reaches history (middle >>= f) := by
  induction reached with
  | start => exact .start _
  | reply reply _ ih => exact .reply reply ih

/-- A sequence is still waiting in its first part, or has completed it and
goes on with the second. -/
theorem reaches_bind {program : Program I A} {f : A → Program I B} {history : List (Event I)}
    {rest : Program I B} :
    (program >>= f).Reaches history rest ↔
      (∃ op next, program.Reaches history (.call op next) ∧ rest = .call op next >>= f) ∨
      ∃ first second value, history = first ++ second ∧ program.Reaches first (.done value) ∧
        (f value).Reaches second rest := by
  constructor
  · intro reached
    induction program generalizing history with
    | done value => exact .inr ⟨[], history, value, rfl, .start _, reached⟩
    | call op next ih =>
      rcases reaches_call.mp reached with ⟨rfl, rfl⟩ | ⟨reply, later, rfl, tail⟩
      · exact .inl ⟨op, next, .start _, rfl⟩
      · rcases ih reply tail with ⟨op', next', left, rfl⟩ | ⟨first, second, value, rfl, left, right⟩
        · exact .inl ⟨op', next', .reply reply left, rfl⟩
        · exact .inr ⟨_ :: first, second, value, rfl, .reply reply left, right⟩
  · rintro (⟨op, next, left, rfl⟩ | ⟨first, second, value, rfl, left, right⟩)
    · exact left.bind f
    · exact (left.bind f).trans right

theorem reaches_bind_done {program : Program I A} {f : A → Program I B}
    {history : List (Event I)} {result : B}
    (reached : (program >>= f).Reaches history (.done result)) :
    ∃ first second value, history = first ++ second ∧ program.Reaches first (.done value) ∧
      (f value).Reaches second (.done result) := by
  rcases reaches_bind.mp reached with ⟨op, next, _, same⟩ | complete
  · cases same
  · exact complete

/-- Every request a program can ever make satisfies the predicate. -/
def Performs (allowed : I.Op → Prop) : Program I A → Prop
  | .done _ => True
  | .call op next => allowed op ∧ ∀ reply, (next reply).Performs allowed

theorem Performs.mono {allowed wider : I.Op → Prop} {program : Program I A}
    (performs : program.Performs allowed) (weaker : ∀ op, allowed op → wider op) :
    program.Performs wider := by
  induction program with
  | done value => trivial
  | call op next ih => exact ⟨weaker op performs.1, fun reply => ih reply (performs.2 reply)⟩

theorem performs_bind {allowed : I.Op → Prop} {program : Program I A} {f : A → Program I B}
    (first : program.Performs allowed) (second : ∀ value, (f value).Performs allowed) :
    (program >>= f).Performs allowed := by
  induction program with
  | done value => exact second value
  | call op next ih => exact ⟨first.1, fun reply => ih reply (first.2 reply)⟩

theorem Reaches.performs {allowed : I.Op → Prop} {program rest : Program I A}
    {history : List (Event I)} (reached : program.Reaches history rest)
    (performs : program.Performs allowed) :
    (∀ event ∈ history, allowed event.1) ∧ rest.Performs allowed := by
  induction reached with
  | start => exact ⟨by simp, performs⟩
  | reply reply _ ih =>
    obtain ⟨later, remaining⟩ := ih (performs.2 reply)
    exact ⟨List.forall_mem_cons.mpr ⟨performs.1, later⟩, remaining⟩

/-- Every value a program can end with satisfies the predicate. -/
def Returns (allowed : A → Prop) : Program I A → Prop
  | .done value => allowed value
  | .call _ next => ∀ reply, (next reply).Returns allowed

theorem returns_trivial (program : Program I A) : program.Returns fun _ => True := by
  induction program with
  | done value => trivial
  | call op next ih => exact ih

theorem returns_bind {allowed : A → Prop} {wanted : B → Prop} {program : Program I A}
    {f : A → Program I B} (first : program.Returns allowed)
    (second : ∀ value, allowed value → (f value).Returns wanted) : (program >>= f).Returns wanted := by
  induction program with
  | done value => exact second value first
  | call op next ih => exact fun reply => ih reply (first reply)

theorem Reaches.returns {allowed : A → Prop} {program rest : Program I A} {history : List (Event I)}
    (reached : program.Reaches history rest) (returns : program.Returns allowed) :
    rest.Returns allowed := by
  induction reached with
  | start => exact returns
  | reply reply _ ih => exact ih (returns reply)

/-- As `performs_bind`, with what is known of the first result. -/
theorem performs_bind_returns {allowed : I.Op → Prop} {wanted : A → Prop} {program : Program I A}
    {f : A → Program I B} (first : program.Performs allowed) (returns : program.Returns wanted)
    (second : ∀ value, wanted value → (f value).Performs allowed) : (program >>= f).Performs allowed := by
  induction program with
  | done value => exact second value returns
  | call op next ih => exact ⟨first.1, fun reply => ih reply (first.2 reply) (returns reply)⟩

/-! ## Changing the result of a program -/

def map (f : A → B) (program : Program I A) : Program I B := program >>= fun value => .done (f value)

theorem map_eq_done {f : A → B} {program : Program I A} {result : B} :
    program.map f = .done result ↔ ∃ value, program = .done value ∧ f value = result := by
  cases program with
  | done value =>
    constructor
    · intro same
      exact ⟨value, rfl, Program.done.inj same⟩
    · intro ⟨other, same, result⟩
      rw [Program.done.inj same, ← result]
      rfl
  | call op next =>
    constructor
    · intro same
      cases same
    · intro ⟨other, same, _⟩
      cases same

theorem reaches_map {f : A → B} {program : Program I A} {history : List (Event I)} {rest : Program I B} :
    (program.map f).Reaches history rest ↔
      ∃ middle, program.Reaches history middle ∧ rest = middle.map f := by
  constructor
  · intro reached
    rcases reaches_bind.mp reached with ⟨op, next, left, same⟩ | ⟨first, second, value, split, left, right⟩
    · exact ⟨_, left, same⟩
    · obtain ⟨empty, same⟩ := reaches_done.mp right
      rw [empty, List.append_nil] at split
      exact ⟨.done value, split ▸ left, same⟩
  · intro ⟨middle, left, same⟩
    rw [same]
    exact left.bind _

theorem reaches_map_done {f : A → B} {program : Program I A} {history : List (Event I)} {result : B} :
    (program.map f).Reaches history (.done result) ↔
      ∃ value, program.Reaches history (.done value) ∧ f value = result := by
  rw [reaches_map]
  constructor
  · intro ⟨middle, reached, same⟩
    obtain ⟨value, finished, image⟩ := map_eq_done.mp same.symm
    exact ⟨value, finished ▸ reached, image⟩
  · intro ⟨value, reached, image⟩
    exact ⟨.done value, reached, image ▸ rfl⟩

theorem performs_map {allowed : I.Op → Prop} {f : A → B} {program : Program I A}
    (performs : program.Performs allowed) : (program.map f).Performs allowed :=
  performs_bind performs fun _ => trivial

theorem returns_map {allowed : A → Prop} {wanted : B → Prop} {f : A → B} {program : Program I A}
    (returns : program.Returns allowed) (image : ∀ value, allowed value → wanted (f value)) :
    (program.map f).Returns wanted :=
  returns_bind returns image

/-! ## Complete runs against a given environment -/

/-- Run to the end against a stateful environment that answers every request. -/
def run {S : Type} (handler : (op : I.Op) → S → I.Reply op × S) : Program I A → S → A × S
  | .done value, state => (value, state)
  | .call op next, state =>
    let answered := handler op state
    (next answered.1).run handler answered.2

/-- The requests and replies of a run against an environment with fixed answers. -/
def trace (answer : (op : I.Op) → I.Reply op) : Program I A → List (Event I)
  | .done _ => []
  | .call op next => ⟨op, answer op⟩ :: (next (answer op)).trace answer

def eval (answer : (op : I.Op) → I.Reply op) : Program I A → A
  | .done value => value
  | .call op next => (next (answer op)).eval answer

theorem reaches_trace (answer : (op : I.Op) → I.Reply op) (program : Program I A) :
    program.Reaches (program.trace answer) (.done (program.eval answer)) := by
  induction program with
  | done value => exact .start _
  | call op next ih => exact .reply _ (ih _)

@[simp] theorem eval_bind (answer : (op : I.Op) → I.Reply op) (program : Program I A)
    (f : A → Program I B) :
    (program >>= f).eval answer = (f (program.eval answer)).eval answer := by
  induction program with
  | done value => rfl
  | call op next ih => exact ih _

@[simp] theorem trace_bind (answer : (op : I.Op) → I.Reply op) (program : Program I A)
    (f : A → Program I B) :
    (program >>= f).trace answer =
      program.trace answer ++ (f (program.eval answer)).trace answer := by
  induction program with
  | done value => rfl
  | call op next ih => exact congrArg (List.cons _) (ih _)

theorem mem_trace {answer : (op : I.Op) → I.Reply op} {program : Program I A} {event : Event I}
    (member : event ∈ program.trace answer) : event = ⟨event.1, answer event.1⟩ := by
  induction program with
  | done value => cases member
  | call op next ih =>
    rcases List.mem_cons.mp member with first | later
    · rw [first]
    · exact ih _ later

/-- A history whose replies are the fixed answers leads to what is evaluated. -/
theorem Reaches.eval_eq {answer : (op : I.Op) → I.Reply op} {program : Program I A}
    {history : List (Event I)} {value : A} (reached : program.Reaches history (.done value))
    (answered : ∀ event ∈ history, event = ⟨event.1, answer event.1⟩) : program.eval answer = value := by
  generalize finish : (done value : Program I A) = final at reached
  induction reached with
  | start =>
    rw [← finish]
    rfl
  | @reply op next history rest reply _ ih =>
    have same := answered ⟨op, reply⟩ List.mem_cons_self
    simp only [Sigma.mk.injEq, heq_eq_eq, true_and] at same
    subst same
    exact ih (fun event member => answered event (List.mem_cons_of_mem _ member)) finish

/-! ## Replaying a history -/

section Replay

variable [DecidableEq I.Op]

def follow : Program I A → List (Event I) → Option (Program I A)
  | program, [] => some program
  | .done _, _ :: _ => none
  | .call op next, ⟨other, reply⟩ :: later =>
    if same : other = op then (next (same ▸ reply)).follow later else none

theorem reaches_of_follow {program rest : Program I A} {history : List (Event I)}
    (followed : program.follow history = some rest) : program.Reaches history rest := by
  induction history generalizing program with
  | nil =>
    cases program <;> cases followed <;> exact .start _
  | cons event later ih =>
    cases program with
    | done value => cases followed
    | call op next =>
      obtain ⟨other, reply⟩ := event
      unfold follow at followed
      split at followed
      next same =>
        subst same
        exact .reply reply (ih followed)
      next => cases followed

theorem reaches_of_isSome {program : Program I A} {history : List (Event I)}
    (followed : (program.follow history).isSome = true) : ∃ rest, program.Reaches history rest := by
  obtain ⟨rest, same⟩ := Option.isSome_iff_exists.mp followed
  exact ⟨rest, reaches_of_follow same⟩

def replay (program : Program I A) (history : List (Event I)) : Option A :=
  match program.follow history with
  | some (.done value) => some value
  | _ => none

theorem reaches_of_replay (program : Program I A) (history : List (Event I)) (check : A → Bool)
    (replayed : (program.replay history).any check = true) :
    ∃ value, program.Reaches history (.done value) ∧ check value = true := by
  unfold replay at replayed
  split at replayed
  next value followed => exact ⟨value, reaches_of_follow followed, replayed⟩
  next => cases replayed

end Replay

end Program

/-! ## Programs over part of a larger interface -/

/-- A smaller interface inside a larger one. -/
structure Embedding (I J : Interface) where
  op : I.Op → J.Op
  lower : (o : I.Op) → J.Reply (op o) → I.Reply o
  raise : (o : I.Op) → I.Reply o → J.Reply (op o)
  raise_lower : ∀ o reply, raise o (lower o reply) = reply

variable {I J : Interface} {A B : Type}

def Embedding.event (embedding : Embedding I J) (event : Event I) : Event J :=
  ⟨embedding.op event.1, embedding.raise event.1 event.2⟩

namespace Program

def inject (embedding : Embedding I J) : Program I A → Program J A
  | .done value => .done value
  | .call op next =>
    .call (embedding.op op) (fun reply => (next (embedding.lower op reply)).inject embedding)

theorem reaches_inject {embedding : Embedding I J} {program : Program I A}
    {history : List (Event J)} {rest : Program J A}
    (reached : (program.inject embedding).Reaches history rest) :
    ∃ inner middle, history = inner.map embedding.event ∧ program.Reaches inner middle ∧
      rest = middle.inject embedding := by
  induction program generalizing history with
  | done value =>
    obtain ⟨rfl, rfl⟩ := reaches_done.mp reached
    exact ⟨[], _, rfl, .start _, rfl⟩
  | call op next ih =>
    rcases reaches_call.mp reached with ⟨rfl, rfl⟩ | ⟨reply, later, rfl, tail⟩
    · exact ⟨[], _, rfl, .start _, rfl⟩
    · obtain ⟨inner, middle, rfl, left, rfl⟩ := ih _ tail
      refine ⟨⟨op, embedding.lower op reply⟩ :: inner, middle, ?_, .reply _ left, rfl⟩
      simp only [List.map_cons, Embedding.event, embedding.raise_lower]

theorem performs_inject {embedding : Embedding I J} {allowed : J.Op → Prop}
    (image : ∀ op, allowed (embedding.op op)) (program : Program I A) :
    (program.inject embedding).Performs allowed := by
  induction program with
  | done value => trivial
  | call op next ih => exact ⟨image op, fun reply => ih _⟩

theorem eval_inject {embedding : Embedding I J} (answer : (op : J.Op) → J.Reply op)
    (program : Program I A) :
    (program.inject embedding).eval answer =
      program.eval (fun op => embedding.lower op (answer (embedding.op op))) := by
  induction program with
  | done value => rfl
  | call op next ih => exact ih _

theorem inject_done {embedding : Embedding I J} {program : Program I A} {value : A}
    (same : program.inject embedding = .done value) : program = .done value := by
  cases program with
  | done other => exact congrArg done (Program.done.inj same)
  | call op next => cases same

end Program

/-! ## Deadlines

A deadline is looked at whenever the program waits for a reply. Once it has
passed, the program is dropped where it stands and a fixed result is returned.
Requests that are answered on the spot leave no room for that.
-/

namespace Program

variable (ask : I.Op) (late : I.Reply ask → Bool) (waits : I.Op → Bool) (expired : A)

def deadline : Program I A → Program I A
  | .done value => .done value
  | .call op next =>
    if waits op then
      .call ask (fun reply =>
        if late reply then .done expired else .call op (fun answer => (next answer).deadline))
    else .call op (fun answer => (next answer).deadline)

/-- The deadline was seen to have passed. -/
def Expired (history : List (Event I)) : Prop := ∃ reply, ⟨ask, reply⟩ ∈ history ∧ late reply = true

variable {ask late waits expired}

theorem expired_cons_ask {reply : I.Reply ask} {history : List (Event I)}
    (onTime : late reply = false) :
    Expired ask late (⟨ask, reply⟩ :: history) ↔ Expired ask late history := by
  constructor
  · rintro ⟨other, member, isLate⟩
    rcases List.mem_cons.mp member with same | member
    · cases same
      rw [onTime] at isLate
      cases isLate
    · exact ⟨other, member, isLate⟩
  · rintro ⟨other, member, isLate⟩
    exact ⟨other, List.mem_cons_of_mem _ member, isLate⟩

theorem expired_cons_other {event : Event I} {history : List (Event I)} (other : event.1 ≠ ask) :
    Expired ask late (event :: history) ↔ Expired ask late history := by
  constructor
  · rintro ⟨reply, member, isLate⟩
    rcases List.mem_cons.mp member with same | member
    · exact absurd (congrArg Sigma.fst same).symm other
    · exact ⟨reply, member, isLate⟩
  · rintro ⟨reply, member, isLate⟩
    exact ⟨reply, List.mem_cons_of_mem _ member, isLate⟩

section Awaited

variable [DecidableEq I.Op]

/-- The events of the program itself, without the looks at the deadline. -/
def awaited (ask : I.Op) (history : List (Event I)) : List (Event I) :=
  history.filter (fun event => event.1 ≠ ask)

theorem mem_awaited {ask : I.Op} {event : Event I} {history : List (Event I)} (other : event.1 ≠ ask) :
    event ∈ awaited ask history ↔ event ∈ history := by
  simp [awaited, other]

/-- Under a deadline a program either follows one of its own histories, or was
dropped while it waited for the next reply. -/
theorem reaches_deadline {program rest : Program I A} {history : List (Event I)}
    (quiet : program.Performs (· ≠ ask))
    (reached : (program.deadline ask late waits expired).Reaches history rest) :
    ∃ inner, program.Reaches (awaited ask history) inner ∧
      ((¬ Expired ask late history ∧ ∀ value, rest = .done value → inner = .done value) ∨
       (Expired ask late history ∧ rest = .done expired ∧
        ∃ op next, inner = .call op next ∧ waits op = true)) := by
  induction program generalizing history with
  | done value =>
    obtain ⟨rfl, rfl⟩ := reaches_done.mp reached
    exact ⟨_, .start _, .inl ⟨by simp [Expired], fun _ same => same⟩⟩
  | call op next ih =>
    have own : Reaches (.call op next) (awaited ask ([] : List (Event I))) (.call op next) := .start _
    -- What follows the look at the deadline, or comes at once without one.
    have answered : ∀ {history : List (Event I)},
        Reaches (.call op (fun answer => (next answer).deadline ask late waits expired)) history rest →
        ∃ inner, Reaches (.call op next) (awaited ask history) inner ∧
          ((¬ Expired ask late history ∧ ∀ value, rest = .done value → inner = .done value) ∨
           (Expired ask late history ∧ rest = .done expired ∧
            ∃ op next, inner = .call op next ∧ waits op = true)) := by
      intro history reached
      rcases reaches_call.mp reached with ⟨rfl, rfl⟩ | ⟨answer, events, rfl, onward⟩
      · exact ⟨_, own, .inl ⟨by simp [Expired], by nofun⟩⟩
      · obtain ⟨inner, left, outcome⟩ := ih answer (quiet.2 answer) onward
        refine ⟨inner, ?_, ?_⟩
        · simpa [awaited, quiet.1] using Reaches.reply answer left
        · rwa [expired_cons_other quiet.1]
    unfold deadline at reached
    cases waiting : waits op with
    | false =>
      rw [waiting] at reached
      exact answered reached
    | true =>
      rw [waiting, if_pos rfl] at reached
      rcases reaches_call.mp reached with ⟨rfl, rfl⟩ | ⟨reply, later, rfl, tail⟩
      · exact ⟨_, own, .inl ⟨by simp [Expired], by nofun⟩⟩
      · have unseen : awaited ask (⟨ask, reply⟩ :: later) = awaited ask later := by simp [awaited]
        rw [unseen]
        cases isLate : late reply with
        | true =>
          simp only [isLate, if_true, reaches_done] at tail
          obtain ⟨rfl, rfl⟩ := tail
          exact ⟨_, own, .inr ⟨⟨reply, List.mem_cons_self, isLate⟩, rfl, op, next, rfl, waiting⟩⟩
        | false =>
          simp only [isLate, Bool.false_eq_true, if_false] at tail
          rw [expired_cons_ask isLate]
          exact answered tail

end Awaited

end Program

end TemplateServico.Interaction
