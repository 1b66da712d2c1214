import TemplateServico.Json

/-! The JWT library as the service uses it.

Base64, JSON text and cryptography stay parameters. What the service relies on
is stated about them in `Library.Documented`, on top of the library's checks of
the registered claims, which are written out.
-/

set_option autoImplicit false

namespace TemplateServico.Jsonwebtoken

inductive AlgorithmFamily where
  | hmac | rsa | ec | ed
  deriving DecidableEq, Repr

inductive Algorithm where
  | HS256 | HS384 | HS512
  | ES256 | ES384
  | RS256 | RS384 | RS512
  | PS256 | PS384 | PS512
  | EdDSA
  deriving DecidableEq, Repr

def Algorithm.family : Algorithm → AlgorithmFamily
  | .HS256 | .HS384 | .HS512 => .hmac
  | .ES256 | .ES384 => .ec
  | .RS256 | .RS384 | .RS512 | .PS256 | .PS384 | .PS512 => .rsa
  | .EdDSA => .ed

structure Header where
  alg : Algorithm
  kid : Option String
  deriving DecidableEq, Repr

/-- The `kty` of a key. -/
inductive KeyType where
  | ellipticCurve | rsa | octetKey | octetKeyPair
  deriving DecidableEq, Repr

def KeyType.family : KeyType → AlgorithmFamily
  | .ellipticCurve => .ec
  | .rsa => .rsa
  | .octetKey => .hmac
  | .octetKeyPair => .ed

structure Jwk where
  keyId : Option String
  keyType : KeyType
  material : String
  deriving DecidableEq, Repr

structure JwkSet where
  keys : List Jwk
  deriving DecidableEq, Repr

def JwkSet.find (jwks : JwkSet) (kid : String) : Option Jwk :=
  jwks.keys.find? (fun jwk => jwk.keyId = some kid)

structure DecodingKey where
  family : AlgorithmFamily
  material : String
  deriving DecidableEq, Repr

/-- The fields of a token's payload. -/
abbrev Payload := List (String × Json)

/-- The claims the service reads. -/
structure Claims where
  sub : Option String
  exp : Nat
  iss : Option String
  deriving DecidableEq, Repr

def Claims.fromPayload (payload : Payload) : Option Claims := do
  let sub ← Json.optional Json.asString "sub" payload
  let exp ← Json.required (Json.asUnsigned 64) "exp" payload
  let iss ← Json.optional Json.asString "iss" payload
  pure ⟨sub, exp, iss⟩

/-! ## Validation of the registered claims -/

structure Validation where
  algorithms : List Algorithm
  requiredSpecClaims : List String
  leeway : Nat
  validateExp : Bool
  validateAud : Bool
  aud : Option (List String)
  iss : Option (List String)
  deriving DecidableEq, Repr

-- The time in `nbf` and the name in `sub` are not checked unless asked for, which the service does not.
def Validation.new (alg : Algorithm) : Validation :=
  { algorithms := [alg]
    requiredSpecClaims := ["exp"]
    leeway := 60
    validateExp := true
    validateAud := true
    aud := none
    iss := none }

def Validation.setIssuer (validation : Validation) (items : List String) : Validation :=
  { validation with iss := some items }

def Validation.setAudience (validation : Validation) (items : List String) : Validation :=
  { validation with aud := some items }

/-- What the library makes of an `iss` or `aud` that it looks at. -/
inductive Names where
  | single (name : String)
  | multiple (names : List String)
  | unreadable
  deriving DecidableEq, Repr

def Names.meets (accepted : List String) : Names → Bool
  | .single name => accepted.contains name
  | .multiple names => names.any accepted.contains
  | .unreadable => false

/-- The names in a claim. A claim that is neither a string nor a list of strings is
either ignored, as if it were absent, or never accepted. -/
def readNames (ignores : Json → Bool) (value : Json) : Option Names :=
  match value with
  | .str name => some (.single name)
  | value =>
    match Json.elements Json.asString value with
    | some names => some (.multiple names)
    | none => if ignores value then none else some .unreadable

/-- The names in a field of the payload; there is no result for a repeated field. -/
def claimNames (ignores : Json → Bool) (name : String) (payload : Payload) : Option (Option Names) :=
  (Json.field name payload).map fun value => value.bind (readNames ignores)

/-- A claim is compared with the accepted values only if it is there. -/
def issuerMeets (validation : Validation) : Option Names → Bool
  | none => true
  | some names => validation.iss.elim true (fun accepted => names.meets accepted)

/-- With no accepted audience, a token that has one is refused. -/
def audienceMeets (validation : Validation) : Option Names → Bool
  | none => true
  | some names => !validation.validateAud || validation.aud.elim false (fun accepted => names.meets accepted)

def notExpired (validation : Validation) (now exp : Nat) : Bool :=
  !validation.validateExp || now - validation.leeway ≤ exp

/-! ## The library -/

structure Library where
  decodeHeader : String → Except String Header
  parseJwkSet : String → Except String JwkSet
  fromJwk : Jwk → Except String DecodingKey
  payload : String → Option Payload
  verifies : String → DecodingKey → Algorithm → Bool
  ignores : Json → Bool
  -- Whether the payload can be read past an `nbf`.
  readsPast : Json → Bool
  decode : String → DecodingKey → Validation → Nat → Except String Claims

/-- What a token was found to be, for a key and a header, when its claims were decoded. -/
structure Library.Decoded (lib : Library) (token : String) (key : DecodingKey) (validation : Validation)
    (now : Nat) (header : Header) (payload : Payload) (claims : Claims) : Prop where
  headerRead : lib.decodeHeader token = .ok header
  algorithm : header.alg ∈ validation.algorithms
  family : ∀ alg ∈ validation.algorithms, key.family = alg.family
  signature : lib.verifies token key header.alg = true
  payloadRead : lib.payload token = some payload
  claimsRead : Claims.fromPayload payload = some claims
  notBefore : ∃ value, Json.field "nbf" payload = some value ∧ value.all lib.readsPast = true
  required : ∀ name ∈ validation.requiredSpecClaims, ∃ value, Json.field name payload = some (some value)
  unexpired : notExpired validation now claims.exp = true
  issuer : ∃ names, claimNames lib.ignores "iss" payload = some names ∧ issuerMeets validation names = true
  audience : ∃ names, claimNames lib.ignores "aud" payload = some names ∧
    audienceMeets validation names = true

/-- What the library documents about the parts the service calls. -/
structure Library.Documented (lib : Library) : Prop where
  fromJwk_family : ∀ {jwk key}, lib.fromJwk jwk = .ok key → key.family = jwk.keyType.family
  decode_ok : ∀ {token key validation now claims}, lib.decode token key validation now = .ok claims ↔
    ∃ header payload, lib.Decoded token key validation now header payload claims

theorem Claims.exp_field {payload : Payload} {claims : Claims}
    (decoded : Claims.fromPayload payload = some claims) :
    Json.field "exp" payload = some (some (.int claims.exp)) := by
  unfold Claims.fromPayload at decoded
  simp only [Option.bind_eq_bind, Option.pure_def, Option.bind_eq_some_iff, Option.some.injEq] at decoded
  obtain ⟨sub, _, exp, required, iss, _, same⟩ := decoded
  simp only [Json.required, Option.bind_eq_bind, Option.bind_eq_some_iff] at required
  obtain ⟨found, field, value, same', read⟩ := required
  subst same'
  rw [field]
  cases value with
  | int value =>
    cases value with
    | ofNat n =>
      simp only [Json.asUnsigned, Option.ite_none_right_eq_some, Option.some.injEq] at read
      rw [← same, ← read.2]
      rfl
    | negSucc n => cases read
  | _ => cases read

/-- An issuer is decoded only from a string, or from nothing. -/
theorem Claims.iss_field {payload : Payload} {claims : Claims}
    (decoded : Claims.fromPayload payload = some claims) :
    Json.field "iss" payload = some none ∨ Json.field "iss" payload = some (some .null) ∨
      ∃ issuer, Json.field "iss" payload = some (some (.str issuer)) := by
  unfold Claims.fromPayload at decoded
  simp only [Option.bind_eq_bind, Option.pure_def, Option.bind_eq_some_iff, Option.some.injEq] at decoded
  obtain ⟨sub, _, exp, _, iss, optional, _⟩ := decoded
  simp only [Json.optional, Option.bind_eq_bind, Option.bind_eq_some_iff] at optional
  obtain ⟨found, field, rest⟩ := optional
  cases found with
  | none => exact .inl field
  | some value =>
    cases value with
    | null => exact .inr (.inl field)
    | str issuer => exact .inr (.inr ⟨issuer, field⟩)
    | _ => simp [Json.asString] at rest

/-! ## A library made of tables

A library whose tokens and documents are listed, used to evaluate the service.
Signatures are the material of the key they were made with.
-/

structure IssuedToken where
  text : String
  header : Header
  payload : Payload
  signedWith : String

def readsNumber (value : Json) : Bool := (Json.asUnsigned 64 value).isSome

def decodeIssued (tokens : List IssuedToken) (token : String) (key : DecodingKey)
    (validation : Validation) (now : Nat) : Except String Claims :=
  match tokens.find? (fun issued => issued.text = token) with
  | none => .error "InvalidToken"
  | some issued =>
    match Claims.fromPayload issued.payload with
    | none => .error "Json"
    | some claims =>
      if issued.header.alg ∈ validation.algorithms ∧
          (∀ alg ∈ validation.algorithms, key.family = alg.family) ∧
          issued.signedWith = key.material ∧
          (Json.field "nbf" issued.payload).any (fun value => value.all readsNumber) = true ∧
          (∀ name ∈ validation.requiredSpecClaims,
            (Json.field name issued.payload).any (fun value => value.isSome) = true) ∧
          notExpired validation now claims.exp = true ∧
          (claimNames (fun _ => true) "iss" issued.payload).any (issuerMeets validation) = true ∧
          (claimNames (fun _ => true) "aud" issued.payload).any (audienceMeets validation) = true then
        .ok claims
      else .error "Invalid"

def tableLibrary (tokens : List IssuedToken) (documents : List (String × JwkSet)) : Library where
  decodeHeader token :=
    match tokens.find? (fun issued => issued.text = token) with
    | some issued => .ok issued.header
    | none => .error "InvalidToken"
  parseJwkSet text :=
    match documents.lookup text with
    | some jwks => .ok jwks
    | none => .error "expected value at line 1 column 1"
  fromJwk jwk := .ok ⟨jwk.keyType.family, jwk.material⟩
  payload token := (tokens.find? (fun issued => issued.text = token)).map IssuedToken.payload
  verifies token key _ :=
    (tokens.find? (fun issued => issued.text = token)).any (fun issued => issued.signedWith = key.material)
  ignores _ := true
  readsPast := readsNumber
  decode := decodeIssued tokens

theorem any_some_iff {A : Type} {o : Option A} {p : A → Bool} :
    o.any p = true ↔ ∃ a, o = some a ∧ p a = true := by
  cases o <;> simp

theorem tableLibrary_documented (tokens : List IssuedToken) (documents : List (String × JwkSet)) :
    (tableLibrary tokens documents).Documented := by
  constructor
  · intro jwk key built
    cases built
    rfl
  · intro token key validation now claims
    change decodeIssued tokens token key validation now = .ok claims ↔ _
    unfold decodeIssued
    cases found : tokens.find? (fun issued => issued.text = token) with
    | none =>
      constructor
      · intro accepted
        cases accepted
      · rintro ⟨header, payload, decoded⟩
        have wrong := decoded.payloadRead
        simp [tableLibrary, found] at wrong
    | some issued =>
      dsimp only
      cases read : Claims.fromPayload issued.payload with
      | none =>
        constructor
        · intro accepted
          cases accepted
        · rintro ⟨header, payload, decoded⟩
          have same := decoded.payloadRead
          have wrong := decoded.claimsRead
          simp only [tableLibrary, found, Option.map_some, Option.some.injEq] at same
          rw [← same, read] at wrong
          cases wrong
      | some own =>
        dsimp only
        constructor
        · intro accepted
          split at accepted
          next checks =>
            obtain ⟨algorithm, family, signature, notBefore, required, unexpired, issuer, audience⟩ := checks
            have same := Except.ok.inj accepted
            rw [same] at read unexpired
            refine ⟨issued.header, issued.payload, ⟨by simp [tableLibrary, found], algorithm, family,
              by simp [tableLibrary, found, signature], by simp [tableLibrary, found], read,
              any_some_iff.mp notBefore, ?_, unexpired, any_some_iff.mp issuer, any_some_iff.mp audience⟩⟩
            intro name member
            obtain ⟨value, field, present⟩ := any_some_iff.mp (required name member)
            obtain ⟨inner, same⟩ := Option.isSome_iff_exists.mp present
            exact ⟨inner, same ▸ field⟩
          next => cases accepted
        · rintro ⟨header, payload, decoded⟩
          have sameHeader := decoded.headerRead
          have samePayload := decoded.payloadRead
          have sameClaims := decoded.claimsRead
          have signature := decoded.signature
          simp only [tableLibrary, found, Except.ok.injEq, Option.map_some, Option.some.injEq] at sameHeader samePayload
          simp only [tableLibrary, found, Option.any_some, decide_eq_true_eq] at signature
          subst sameHeader samePayload
          rw [read, Option.some.injEq] at sameClaims
          subst sameClaims
          have required : ∀ name ∈ validation.requiredSpecClaims,
              (Json.field name issued.payload).any (fun value => value.isSome) = true := by
            intro name member
            obtain ⟨value, field⟩ := decoded.required name member
            simp [field]
          rw [if_pos ⟨decoded.algorithm, decoded.family, signature, any_some_iff.mpr decoded.notBefore, required,
            decoded.unexpired, any_some_iff.mpr decoded.issuer, any_some_iff.mpr decoded.audience⟩]

end TemplateServico.Jsonwebtoken
