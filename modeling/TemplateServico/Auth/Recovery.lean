import TemplateServico.Auth.JwksCache

/-! Runs of key lookups against an endpoint whose answers change.

The cache is filled by the first body that any lookup gets, whatever it is, and
is never revisited. Whether lookups recover from an outage is therefore decided
by that first body alone.
-/

set_option autoImplicit false

namespace TemplateServico.Recovery

open Interaction Jsonwebtoken

inductive Answer where
  | unreachable (reason : String)
  | interrupted (reason : String)
  | response (status : Nat) (body : String)
  deriving DecidableEq, Repr

-- The HTTP status is not looked at: the body of an error page is a body.
def Answer.fetched : Answer → Fetched String
  | .unreachable reason => .failed reason
  | .interrupted reason => .unreadable reason
  | .response _ body => .body body

def Answer.body? : Answer → Option String
  | .response _ body => some body
  | _ => none

/-- One call of `getDecodingKey` and the endpoint's answer, should it be asked. -/
structure Call where
  kid : Option String
  answer : Answer
  deriving DecidableEq, Repr

/-- The reply to each request of a lookup, and what the cache holds afterwards. -/
def reply (answer : Answer) : (op : JwksOp String) → Option String → JwksOp.Reply op × Option String
  | .readCache, held => (held, held)
  | .fetch _, held => (answer.fetched, held)
  | .writeCache json, _ => ((), some json)

section Runs

variable (lib : Library) (cache : JwksCache)

def Call.run (call : Call) (held : Option String) : Except String DecodingKey × Option String :=
  (getDecodingKey lib cache call.kid).run (reply call.answer) held

theorem Call.run_held (call : Call) (json : String) :
    call.run lib cache (some json) = (selectKey lib json call.kid, some json) := rfl

theorem Call.run_body {call : Call} {body : String} (answered : call.answer.body? = some body) :
    call.run lib cache none = (selectKey lib body call.kid, some body) := by
  obtain ⟨kid, answer⟩ := call
  cases answer with
  | response status content =>
    cases answered
    rfl
  | _ => cases answered

theorem Call.run_nothing {call : Call} (answered : call.answer.body? = none) :
    (call.run lib cache none).2 = none := by
  obtain ⟨kid, answer⟩ := call
  cases answer with
  | response status content => cases answered
  | _ => rfl

def cachedAfter (held : Option String) (calls : List Call) : Option String :=
  calls.foldl (fun held call => (call.run lib cache held).2) held

def firstBody (calls : List Call) : Option String := calls.findSome? (fun call => call.answer.body?)

theorem Call.run_snd (call : Call) (held : Option String) :
    (call.run lib cache held).2 = held.or call.answer.body? := by
  cases held with
  | some json => rfl
  | none =>
    cases answered : call.answer.body? with
    | none => exact call.run_nothing lib cache answered
    | some body => rw [call.run_body lib cache answered]; rfl

theorem cachedAfter_eq (held : Option String) (calls : List Call) :
    cachedAfter lib cache held calls = held.or (firstBody calls) := by
  induction calls generalizing held with
  | nil => simp [cachedAfter, firstBody]
  | cons call rest ih =>
    change cachedAfter lib cache (call.run lib cache held).2 rest = _
    rw [ih, call.run_snd, Option.or_assoc]
    congr 1
    cases answered : call.answer.body? <;> simp [firstBody, answered]

theorem firstBody_append (first second : List Call) :
    firstBody (first ++ second) = (firstBody first).or (firstBody second) :=
  List.findSome?_append

def Erred (calls : List Call) (kid : String) : Prop :=
  ∃ before call after reason, calls = before ++ call :: after ∧ call.kid = some kid ∧
    (call.run lib cache (cachedAfter lib cache none before)).1 = .error reason

/-- The call asked the endpoint and got something that is not a key set. -/
def FetchedGarbage (held : Option String) (call : Call) : Prop :=
  held = none ∧ ∃ body reason, call.answer.body? = some body ∧ lib.parseJwkSet body = .error reason

/-- The endpoint answers with a key set that has a usable key under the id. -/
def Healthy (kid : String) (key : DecodingKey) (answer : Answer) : Prop :=
  ∃ document, answer = .response 200 document ∧ selectKey lib document (some kid) = .ok key

/-- Failures are not sticky. Once the endpoint is healthy, a lookup of the key
succeeds although one failed before, and a call that got something else than a key
set has left the cache as it was. -/
def Recovers (calls : List Call) (kid : String) (key : DecodingKey) : Prop :=
  (Erred lib cache calls kid → ∀ later answer,
    (∀ call ∈ later, Healthy lib kid key call.answer) → Healthy lib kid key answer →
    (Call.run lib cache ⟨some kid, answer⟩ (cachedAfter lib cache none (calls ++ later))).1 = .ok key) ∧
  ∀ before call after, calls = before ++ call :: after →
    FetchedGarbage lib (cachedAfter lib cache none before) call →
    (call.run lib cache (cachedAfter lib cache none before)).2 = cachedAfter lib cache none before

/-- The first body that a run fetched, if there is one, is a key set, and where a
lookup of the key id failed it already has the key that is looked for. -/
def FirstBodyServes (calls : List Call) (kid : String) (key : DecodingKey) : Prop :=
  ∀ body, firstBody calls = some body →
    (∃ jwks, lib.parseJwkSet body = .ok jwks) ∧
    (Erred lib cache calls kid → selectKey lib body (some kid) = .ok key)

theorem firstBody_origin {calls : List Call} {body : String} (found : firstBody calls = some body) :
    ∃ before call after, calls = before ++ call :: after ∧ cachedAfter lib cache none before = none ∧
      call.answer.body? = some body := by
  obtain ⟨before, call, after, partition, answered, earlier⟩ := List.findSome?_eq_some_iff.mp found
  refine ⟨before, call, after, partition, ?_, answered⟩
  rw [cachedAfter_eq, Option.none_or]
  exact List.findSome?_eq_none_iff.mpr earlier

variable {lib cache}

theorem lookup_of_firstBody {calls later : List Call} {body : String} {call : Call}
    (found : firstBody calls = some body) :
    (call.run lib cache (cachedAfter lib cache none (calls ++ later))).1 = selectKey lib body call.kid := by
  rw [cachedAfter_eq, Option.none_or, firstBody_append, found, Option.some_or, Call.run_held]

theorem lookup_of_empty {calls later : List Call} {kid : String} {key : DecodingKey} {answer : Answer}
    (empty : firstBody calls = none) (healthy : ∀ call ∈ later, Healthy lib kid key call.answer)
    (now : Healthy lib kid key answer) :
    (Call.run lib cache ⟨some kid, answer⟩ (cachedAfter lib cache none (calls ++ later))).1 = .ok key := by
  rw [cachedAfter_eq, Option.none_or, firstBody_append, empty, Option.none_or]
  cases later with
  | nil =>
    obtain ⟨document, rfl, usable⟩ := now
    exact (congrArg Prod.fst (Call.run_body lib cache rfl)).trans usable
  | cons call rest =>
    obtain ⟨document, same, usable⟩ := healthy call List.mem_cons_self
    have answered : call.answer.body? = some document := by
      rw [same]
      rfl
    simp only [firstBody, List.findSome?_cons, answered, Call.run_held]
    exact usable

/-- Lookups recover from a failure exactly when the first body that was ever
fetched already served them. -/
theorem recovers_iff (calls : List Call) {kid : String} {key : DecodingKey}
    (possible : ∃ answer, Healthy lib kid key answer) :
    Recovers lib cache calls kid key ↔ FirstBodyServes lib cache calls kid key := by
  constructor
  · rintro ⟨lookup, unchanged⟩ body found
    constructor
    · obtain ⟨before, call, after, partition, empty, answered⟩ :=
        firstBody_origin lib cache found
      cases parsed : lib.parseJwkSet body with
      | ok jwks => exact ⟨jwks, rfl⟩
      | error reason =>
        have kept := unchanged before call after partition ⟨empty, body, reason, answered, parsed⟩
        rw [empty, Call.run_body lib cache answered] at kept
        cases kept
    · intro erred
      obtain ⟨answer, healthy⟩ := possible
      have answered := lookup erred [] answer (by simp) healthy
      rwa [lookup_of_firstBody found] at answered
  · intro serves
    constructor
    · intro erred later answer healthy now
      cases found : firstBody calls with
      | none => exact lookup_of_empty found healthy now
      | some body => rw [lookup_of_firstBody found, (serves body found).2 erred]
    · rintro before call after partition ⟨empty, body, reason, answered, garbage⟩
      -- A call that fetched garbage supplied the first body of the run.
      have first : firstBody calls = some body := by
        rw [cachedAfter_eq, Option.none_or] at empty
        rw [partition, firstBody_append, empty, Option.none_or]
        simp [firstBody, answered]
      obtain ⟨⟨jwks, parsed⟩, _⟩ := serves body first
      rw [garbage] at parsed
      cases parsed

end Runs

/-! ## An error page in the cache -/

def outage : List Call := [⟨some "k1", .response 503 "<html>Service Unavailable</html>"⟩]

theorem outage_sticks : ¬ Recovers (tableLibrary [] exampleKeySets) exampleCache outage "k1" ⟨.rsa, "key-1"⟩ := by
  rintro ⟨lookup, _⟩
  have erred : Erred (tableLibrary [] exampleKeySets) exampleCache outage "k1" :=
    ⟨[], _, [], _, rfl, rfl, by rfl⟩
  have answered := lookup erred [] (.response 200 keySetText) (by simp) ⟨keySetText, rfl, by decide⟩
  revert answered
  decide

theorem recovers_after_unreachable :
    (∃ answer, Healthy (tableLibrary [] exampleKeySets) "k1" ⟨.rsa, "key-1"⟩ answer) ∧
    Recovers (tableLibrary [] exampleKeySets) exampleCache [⟨some "k1", .unreachable "connection refused"⟩] "k1"
      ⟨.rsa, "key-1"⟩ :=
  have possible : ∃ answer, Healthy (tableLibrary [] exampleKeySets) "k1" ⟨.rsa, "key-1"⟩ answer :=
    ⟨.response 200 keySetText, keySetText, rfl, by decide⟩
  ⟨possible, (recovers_iff _ possible).mpr (by intro body found; cases found)⟩

end TemplateServico.Recovery
