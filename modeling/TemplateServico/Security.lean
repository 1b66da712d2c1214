import TemplateServico.State

/-! Cross-origin requests and the headers that every response is meant to carry. -/

set_option autoImplicit false

namespace TemplateServico

open Http Interaction

/-! ## The CORS layer -/

def wildcard : HeaderValue := HeaderValue.ofString "*"

inductive AllowOrigin where
  | any
  | list (origins : List HeaderValue)
  deriving DecidableEq

-- The library panics on a list with the wildcard in it, and no layer is built.
def AllowOrigin.ofList (origins : List HeaderValue) : Option AllowOrigin :=
  if wildcard ∈ origins then none else some (.list origins)

theorem AllowOrigin.ofList_eq_some {origins : List HeaderValue} {allowOrigin : AllowOrigin} :
    AllowOrigin.ofList origins = some allowOrigin ↔ wildcard ∉ origins ∧ allowOrigin = .list origins := by
  unfold AllowOrigin.ofList
  split
  next listed => exact iff_of_false nofun fun plain => plain.1 listed
  next plain =>
    rw [Option.some.injEq, eq_comm]
    exact (and_iff_right plain).symm

def AllowOrigin.toHeader : AllowOrigin → Option HeaderValue → Option HeaderValue
  | .any, _ => some wildcard
  | .list origins, origin => origin.filter (fun o => decide (o ∈ origins))

structure CorsLayer where
  allowOrigin : AllowOrigin
  allowMethods : Option HeaderValue
  allowHeaders : Option HeaderValue
  exposeHeaders : Option HeaderValue
  deriving DecidableEq

namespace CorsLayer

def permissive : CorsLayer := ⟨.any, some wildcard, some wildcard, some wildcard⟩

def vary : HeaderValue :=
  HeaderValue.ofString "origin, access-control-request-method, access-control-request-headers"

def optional (name : String) (value : Option HeaderValue) : List (String × HeaderValue) :=
  (value.map fun value => (name, value)).toList

def origin (layer : CorsLayer) (request : Request) : List (String × HeaderValue) :=
  optional "access-control-allow-origin" (layer.allowOrigin.toHeader (request.headers.get "origin"))

-- A preflight request is answered here, whatever its path.
def preflight (layer : CorsLayer) (request : Request) : Response :=
  { status := .OK
    headers := HeaderMap.empty.extend ([("vary", vary)] ++
      optional "access-control-allow-methods" layer.allowMethods ++
      optional "access-control-allow-headers" layer.allowHeaders ++ layer.origin request)
    body := .empty }

def decorate (layer : CorsLayer) (request : Request) (response : Response) : Response :=
  { response with
    headers := (response.headers.append "vary" vary).extend
      (optional "access-control-expose-headers" layer.exposeHeaders ++ layer.origin request) }

def layer (cors : CorsLayer) (inner : Request → ServiceProgram Response) (request : Request) :
    ServiceProgram Response :=
  if request.method = .options then .done (cors.preflight request)
  else (inner request).map (cors.decorate request)

theorem mem_optional {name : String} {value : Option HeaderValue} {entry : String × HeaderValue} :
    entry ∈ optional name value ↔ entry.1 = name ∧ value = some entry.2 := by
  obtain ⟨field, content⟩ := entry
  cases value with
  | none => simp [optional]
  | some other =>
    simp only [optional, Option.map_some, Option.toList_some, List.mem_singleton, Prod.mk.injEq,
      Option.some.injEq]
    rw [eq_comm (a := other)]

@[simp] theorem preflight_status {layer : CorsLayer} {request : Request} :
    (layer.preflight request).status = .OK := by
  unfold preflight
  dsimp only

@[simp] theorem decorate_status {layer : CorsLayer} {request : Request} {response : Response} :
    (layer.decorate request response).status = response.status := by
  unfold decorate
  dsimp only

@[simp] theorem decorate_body {layer : CorsLayer} {request : Request} {response : Response} :
    (layer.decorate request response).body = response.body := by
  unfold decorate
  dsimp only

/-- Fields that the layer does not write. -/
theorem getAll_decorate {layer : CorsLayer} {request : Request} {response : Response} {name : String}
    (vary : name ≠ "vary") (expose : name ≠ "access-control-expose-headers")
    (origin : name ≠ "access-control-allow-origin") :
    (layer.decorate request response).headers.getAll name = response.headers.getAll name := by
  unfold decorate
  rw [HeaderMap.getAll_extend_ne, HeaderMap.getAll_append_ne _ _ vary.symm]
  intro entry member same
  rcases List.mem_append.mp member with exposed | allowed
  · exact expose (same.symm.trans (mem_optional.mp exposed).1)
  · exact origin (same.symm.trans (mem_optional.mp allowed).1)

end CorsLayer

def buildCorsLayer (config : AppConfig) : Option CorsLayer :=
  if config.environment.isProduction then
    let parsedOrigins := config.allowedOrigins.filterMap HeaderValue.parse
    (AllowOrigin.ofList parsedOrigins).map fun allowOrigin =>
      { allowOrigin := allowOrigin
        allowMethods := some wildcard
        allowHeaders := some wildcard
        exposeHeaders := none }
  else some .permissive

/-! ## Security headers -/

def securityHeaders : List (String × HeaderValue) :=
  [("x-content-type-options", HeaderValue.ofString "nosniff"),
   ("x-frame-options", HeaderValue.ofString "DENY"),
   ("strict-transport-security", HeaderValue.ofString "max-age=31536000; includeSubDomains"),
   ("content-security-policy", HeaderValue.ofString
     "default-src 'self'; script-src 'self' 'unsafe-inline'; style-src 'self' 'unsafe-inline'; img-src 'self' data:; frame-ancestors 'none';"),
   ("referrer-policy", HeaderValue.ofString "strict-origin-when-cross-origin"),
   ("x-xss-protection", HeaderValue.ofString "0"),
   ("permissions-policy", HeaderValue.ofString "geolocation=(), camera=(), microphone=()")]

def secure (response : Response) : Response :=
  { response with headers := response.headers.extend securityHeaders }

def securityHeadersMiddleware (next : Request → ServiceProgram Response) (request : Request) :
    ServiceProgram Response :=
  (next request).map secure

/-- Each security header is there once, with its value. -/
def Secured (response : Response) : Prop :=
  ∀ entry ∈ securityHeaders, response.headers.getAll entry.1 = [entry.2]

instance (response : Response) : Decidable (Secured response) :=
  inferInstanceAs (Decidable (∀ entry ∈ securityHeaders, _))

theorem securityHeaders_distinct : (securityHeaders.map Prod.fst).Nodup := by decide

@[simp] theorem secure_status {response : Response} : (secure response).status = response.status := by
  unfold secure
  dsimp only

@[simp] theorem secure_body {response : Response} : (secure response).body = response.body := by
  unfold secure
  dsimp only

theorem getAll_secure {response : Response} {name : String} (other : name ∉ securityHeaders.map Prod.fst) :
    (secure response).headers.getAll name = response.headers.getAll name := by
  apply HeaderMap.getAll_extend_ne
  intro entry member same
  exact other (same ▸ List.mem_map_of_mem member)

/-- Whatever the response was, also if it had some of the headers before. -/
theorem secured_secure (response : Response) : Secured (secure response) := by
  intro entry member
  exact HeaderMap.getAll_extend securityHeaders_distinct member

end TemplateServico
