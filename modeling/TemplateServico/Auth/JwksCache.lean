import TemplateServico.Auth.Jsonwebtoken
import TemplateServico.Interaction.Program

/-! The in-memory cache of the key set document.

The document is only stored and handed on, so the fetching code is written for
any type of document; the service uses its text.
-/

set_option autoImplicit false

namespace TemplateServico

open Interaction Jsonwebtoken

/-- What came of a GET followed by reading the whole body. The status is not part
of it: every response with a readable body is a body. -/
inductive Fetched (Body : Type) where
  | failed (reason : String)
  | unreadable (reason : String)
  | body (content : Body)
  deriving DecidableEq, Repr

inductive JwksOp (Body : Type) where
  | readCache
  | fetch (url : String)
  | writeCache (content : Body)
  deriving DecidableEq, Repr

abbrev JwksOp.Reply {Body : Type} : JwksOp Body → Type
  | .readCache => Option Body
  | .fetch _ => Fetched Body
  | .writeCache _ => Unit

abbrev jwksInterface (Body : Type) : Interface := ⟨JwksOp Body, JwksOp.Reply⟩

structure JwksCache where
  url : String
  deriving DecidableEq, Repr

variable {Body : Type}

-- The read guard is dropped before the fetch and the write guard is taken after
-- it, so each of the three requests is one step for everybody else.
def getJwksJson (cache : JwksCache) : Program (jwksInterface Body) (Except String Body) :=
  .call .readCache fun
    | some json => .done (.ok json)
    | none =>
      .call (.fetch cache.url) fun
        | .failed reason =>
          .done (.error ("Failed to fetch JWKS from '" ++ cache.url ++ "': " ++ reason))
        | .unreadable reason => .done (.error ("Failed to read JWKS response body: " ++ reason))
        | .body json => .call (.writeCache json) fun _ => .done (.ok json)

def selectJwk (jwks : JwkSet) : Option String → Except String Jwk
  | some k =>
    match jwks.find k with
    | some jwk => .ok jwk
    | none => .error ("No JWK found for kid='" ++ k ++ "' in JWKS")
  | none =>
    match jwks.keys.head? with
    | some jwk => .ok jwk
    | none => .error "JWKS set is empty"

-- The part of `get_decoding_key` after the document is there.
def selectKey (lib : Library) (json : String) (kid : Option String) : Except String DecodingKey :=
  match lib.parseJwkSet json with
  | .error reason => .error ("Failed to parse JWKS JSON: " ++ reason)
  | .ok jwks =>
    match selectJwk jwks kid with
    | .error reason => .error reason
    | .ok jwk =>
      match lib.fromJwk jwk with
      | .error reason => .error ("Failed to build decoding key from JWK: " ++ reason)
      | .ok key => .ok key

def getDecodingKey (lib : Library) (cache : JwksCache) (kid : Option String) :
    Program (jwksInterface String) (Except String DecodingKey) := do
  match ← getJwksJson cache with
  | .error reason => pure (.error reason)
  | .ok json => pure (selectKey lib json kid)

theorem selectJwk_ok {jwks : JwkSet} {kid : Option String} {jwk : Jwk} :
    selectJwk jwks kid = .ok jwk ↔
      match kid with
      | some k => jwks.find k = some jwk
      | none => jwks.keys.head? = some jwk := by
  unfold selectJwk
  cases kid with
  | some k => cases found : jwks.find k <;> simp [found]
  | none => cases found : jwks.keys.head? <;> simp

theorem selectKey_ok {lib : Library} {json : String} {kid : Option String} {key : DecodingKey} :
    selectKey lib json kid = .ok key ↔
      ∃ jwks jwk, lib.parseJwkSet json = .ok jwks ∧ selectJwk jwks kid = .ok jwk ∧
        lib.fromJwk jwk = .ok key := by
  unfold selectKey
  cases parsed : lib.parseJwkSet json with
  | error reason => simp
  | ok jwks =>
    cases selected : selectJwk jwks kid with
    | error reason => simp [selected]
    | ok jwk => cases built : lib.fromJwk jwk <;> simp [selected, built]

/-- The documents that pass through a complete call: the one held, or the fetched
one, which is stored as it came. -/
theorem getJwksJson_complete {cache : JwksCache} {history : List (Event (jwksInterface Body))}
    {result : Except String Body} (reached : (getJwksJson cache).Reaches history (.done result)) :
    (∃ json, history = [⟨.readCache, some json⟩] ∧ result = .ok json) ∨
    (∃ fetched reason, history = [⟨.readCache, none⟩, ⟨.fetch cache.url, fetched⟩] ∧
      (∀ json, fetched ≠ .body json) ∧ result = .error reason) ∨
    ∃ json, history = [⟨.readCache, none⟩, ⟨.fetch cache.url, .body json⟩, ⟨.writeCache json, ()⟩] ∧
      result = .ok json := by
  unfold getJwksJson at reached
  rcases Program.reaches_call.mp reached with ⟨_, same⟩ | ⟨held, later, split, reached⟩
  · cases same
  cases held with
  | some json =>
    obtain ⟨empty, same⟩ := Program.reaches_done.mp reached
    exact .inl ⟨json, by rw [split, empty], Program.done.inj same⟩
  | none =>
    right
    rcases Program.reaches_call.mp reached with ⟨_, same⟩ | ⟨fetched, rest, split', reached⟩
    · cases same
    cases fetched with
    | failed reason =>
      obtain ⟨empty, same⟩ := Program.reaches_done.mp reached
      exact .inl ⟨.failed reason, _, by rw [split, split', empty], by nofun, Program.done.inj same⟩
    | unreadable reason =>
      obtain ⟨empty, same⟩ := Program.reaches_done.mp reached
      exact .inl ⟨.unreadable reason, _, by rw [split, split', empty], by nofun, Program.done.inj same⟩
    | body json =>
      right
      rcases Program.reaches_call.mp reached with ⟨_, same⟩ | ⟨stored, rest', split'', reached⟩
      · cases same
      obtain ⟨empty, same⟩ := Program.reaches_done.mp reached
      exact ⟨json, by rw [split, split', split'', empty], Program.done.inj same⟩

theorem getJwksJson_waits {cache : JwksCache} {history : List (Event (jwksInterface Body))} {op : JwksOp Body}
    {next : op.Reply → Program (jwksInterface Body) (Except String Body)}
    (reached : (getJwksJson cache).Reaches history (.call op next)) :
    (history = [] ∧ op = .readCache) ∨ (history = [⟨.readCache, none⟩] ∧ op = .fetch cache.url) ∨
    ∃ json, history = [⟨.readCache, none⟩, ⟨.fetch cache.url, .body json⟩] ∧ op = .writeCache json := by
  unfold getJwksJson at reached
  rcases Program.reaches_call.mp reached with ⟨empty, same⟩ | ⟨held, later, split, reached⟩
  · cases same
    exact .inl ⟨empty, rfl⟩
  right
  cases held with
  | some json => cases (Program.reaches_done.mp reached).2
  | none =>
    rcases Program.reaches_call.mp reached with ⟨empty, same⟩ | ⟨fetched, rest, split', reached⟩
    · cases same
      exact .inl ⟨by rw [split, empty], rfl⟩
    right
    cases fetched with
    | failed reason => cases (Program.reaches_done.mp reached).2
    | unreadable reason => cases (Program.reaches_done.mp reached).2
    | body json =>
      rcases Program.reaches_call.mp reached with ⟨empty, same⟩ | ⟨stored, _, _, reached⟩
      · cases same
        exact ⟨json, by rw [split, split', empty], rfl⟩
      · cases (Program.reaches_done.mp reached).2

/-- A lookup ends with what it makes of the document it got. -/
theorem getDecodingKey_complete {lib : Library} {cache : JwksCache} {kid : Option String}
    {history : List (Event (jwksInterface String))} {result : Except String DecodingKey}
    (reached : (getDecodingKey lib cache kid).Reaches history (.done result)) :
    ∃ document, (getJwksJson cache).Reaches history (.done document) ∧
      result = document.bind (selectKey lib · kid) := by
  obtain ⟨first, second, document, split, fetched, selected⟩ := Program.reaches_bind_done reached
  refine ⟨document, ?_⟩
  cases document with
  | error reason =>
    obtain ⟨empty, same⟩ := Program.reaches_done.mp selected
    rw [split, empty, List.append_nil]
    exact ⟨fetched, Program.done.inj same⟩
  | ok json =>
    obtain ⟨empty, same⟩ := Program.reaches_done.mp selected
    rw [split, empty, List.append_nil]
    exact ⟨fetched, Program.done.inj same⟩

theorem getDecodingKey_eval {lib : Library} {cache : JwksCache} {kid : Option String} {json : String}
    {answer : (op : JwksOp String) → op.Reply} (document : (getJwksJson cache).eval answer = .ok json) :
    (getDecodingKey lib cache kid).eval answer = selectKey lib json kid := by
  unfold getDecodingKey
  rw [Program.eval_bind, document]
  rfl

/-! ## A key set to evaluate lookups with -/

def exampleCache : JwksCache := ⟨"https://auth.example/jwks.json"⟩

def keySetText : String := "\x7b\"keys\": [k1]\x7d"

def exampleKeySets : List (String × JwkSet) := [(keySetText, ⟨[⟨some "k1", .rsa, "key-1"⟩]⟩)]

end TemplateServico
