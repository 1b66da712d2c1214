import TemplateServico.Http
import TemplateServico.Text

/-! The preflight check of the Fetch standard, for requests without credentials.

A browser sends a request of a page to another origin only if the answer to a
preflight request permits it.
-/

set_option autoImplicit false

namespace TemplateServico.Fetch

open Http

def methodToken : Method → String
  | .get => "GET"
  | .head => "HEAD"
  | .post => "POST"
  | .put => "PUT"
  | .delete => "DELETE"
  | .connect => "CONNECT"
  | .options => "OPTIONS"
  | .trace => "TRACE"
  | .patch => "PATCH"
  | .extension token => token

/-- A request that a page wants to send. The unsafe names are those of its header
names that are not safelisted together with their values. -/
structure PageRequest where
  method : Method
  uri : Uri
  origin : HeaderValue
  headerNames : List String
  unsafeNames : List String
  unsafe_subset : unsafeNames ⊆ headerNames
  authorization_unsafe : ∀ name ∈ headerNames, Text.asciiLowercase name = "authorization" → name ∈ unsafeNames
  useCorsPreflight : Bool

def PageRequest.preflight (request : PageRequest) : Request :=
  let headers := (HeaderMap.empty.append "origin" request.origin).append "access-control-request-method"
    (HeaderValue.ofString (methodToken request.method))
  let names := (request.unsafeNames.map Text.asciiLowercase).eraseDups.mergeSort
  { method := .options
    uri := request.uri
    headers := if names.isEmpty then headers else
      headers.append "access-control-request-headers" (HeaderValue.ofString (String.intercalate "," names))
    body := [] }

@[simp] theorem PageRequest.preflight_method (request : PageRequest) : request.preflight.method = .options := rfl

theorem PageRequest.preflight_origin (request : PageRequest) :
    request.preflight.headers.get "origin" = some request.origin := by
  unfold preflight HeaderMap.get
  dsimp only
  split
  · rw [HeaderMap.getAll_append_ne _ _ (by decide), HeaderMap.getAll_append_self]
    rfl
  · rw [HeaderMap.getAll_append_ne _ _ (by decide), HeaderMap.getAll_append_ne _ _ (by decide),
      HeaderMap.getAll_append_self]
    rfl

def PageRequest.filterHeaders (request : PageRequest) (keep : String → Bool) : PageRequest :=
  { request with
    headerNames := request.headerNames.filter keep
    unsafeNames := request.unsafeNames.filter keep
    unsafe_subset := List.filter_subset keep request.unsafe_subset
    authorization_unsafe := by
      intro name member authorization
      rw [List.mem_filter] at member ⊢
      exact ⟨request.authorization_unsafe name member.1 authorization, member.2⟩ }

/-! ## Header lists -/

def star : HeaderValue := HeaderValue.ofString "*"

def isTokenByte (byte : UInt8) : Bool :=
  (0x30 ≤ byte && byte ≤ 0x39) || (0x41 ≤ byte && byte ≤ 0x5A) || (0x61 ≤ byte && byte ≤ 0x7A) ||
    (HeaderValue.ofString "!#$%&'*+-.^_`|~").contains byte

def members (value : HeaderValue) : List HeaderValue :=
  ((value.splitOn 0x2C).map (Text.trimList fun byte => byte == 0x20 || byte == 0x09)).filter fun item => !item.isEmpty

/-- The values of a header that is a list of tokens. Without such a header there is
no list, and a member that is no token is a failure. -/
def extract (headers : HeaderMap) (name : String) : Option (Option (List HeaderValue)) :=
  match headers.getAll name with
  | [] => some none
  | values =>
    let items := values.flatMap members
    if items.all fun item => item.all isTokenByte then some (some items) else none

theorem extract_star {headers : HeaderMap} {name : String} (found : headers.getAll name = [star]) :
    extract headers name = some (some [star]) := by
  unfold extract
  rw [found]
  decide

def lowercase (value : HeaderValue) : HeaderValue :=
  value.map fun byte => if 0x41 ≤ byte && byte ≤ 0x5A then byte + 0x20 else byte

def Named (items : List HeaderValue) (name : String) : Prop :=
  ∃ item ∈ items, lowercase item = HeaderValue.ofString (Text.asciiLowercase name)

theorem not_named_star {name : String} (authorization : Text.asciiLowercase name = "authorization") :
    ¬ Named [star] name := by
  intro ⟨item, member, same⟩
  rw [List.mem_singleton.mp member, authorization] at same
  revert same
  decide

/-! ## The check -/

/-- The response names the origin of the page, or any origin. -/
def CorsCheck (origin : HeaderValue) (response : Response) : Prop :=
  match response.headers.getAll "access-control-allow-origin" with
  | [] => False
  | values =>
    let value := [0x2C, 0x20].intercalate values
    value = star ∨ value = origin

theorem corsCheck_self {origin : HeaderValue} {response : Response}
    (found : response.headers.getAll "access-control-allow-origin" = [origin]) : CorsCheck origin response := by
  unfold CorsCheck
  rw [found]
  exact .inr (by simp)

def isSafelisted : Method → Bool
  | .get | .head | .post => true
  | _ => false

def MethodAllowed (request : PageRequest) (found : Option (List HeaderValue)) : Prop :=
  let token := HeaderValue.ofString (methodToken request.method)
  let methods := found.getD (if request.useCorsPreflight then [token] else [])
  token ∈ methods ∨ isSafelisted request.method = true ∨ star ∈ methods

-- The star stands for every name but one, which has to be listed by itself.
def HeadersAllowed (request : PageRequest) (found : Option (List HeaderValue)) : Prop :=
  (∀ name ∈ request.headerNames, Text.asciiLowercase name = "authorization" → Named (found.getD []) name) ∧
    ∀ name ∈ request.unsafeNames, Named (found.getD []) name ∨ star ∈ found.getD []

structure Permits (request : PageRequest) (response : Response) : Prop where
  origin : CorsCheck request.origin response
  status : 200 ≤ response.status.code ∧ response.status.code ≤ 299
  method : ∃ found, extract response.headers "access-control-allow-methods" = some found ∧ MethodAllowed request found
  headers : ∃ found, extract response.headers "access-control-allow-headers" = some found ∧ HeadersAllowed request found

theorem permits_star {request : PageRequest} {response : Response} (origin : CorsCheck request.origin response)
    (status : 200 ≤ response.status.code ∧ response.status.code ≤ 299)
    (methods : extract response.headers "access-control-allow-methods" = some (some [star]))
    (headers : extract response.headers "access-control-allow-headers" = some (some [star])) :
    Permits request response ↔ ∀ name ∈ request.headerNames, Text.asciiLowercase name ≠ "authorization" := by
  constructor
  · intro permits name member authorization
    obtain ⟨found, extracted, allowed⟩ := permits.headers
    rw [headers, Option.some.injEq] at extracted
    rw [← extracted] at allowed
    exact not_named_star authorization (allowed.1 name member authorization)
  · intro without
    refine ⟨origin, status, ⟨_, methods, .inr (.inr List.mem_cons_self)⟩, _, headers, ?_, ?_⟩
    · intro name member authorization
      exact absurd authorization (without name member)
    · intro name _
      exact .inr List.mem_cons_self

/-! ## What is sent -/

/-- The type and subtype of a media type, in lower case and without its parameters. -/
def essence (value : HeaderValue) : HeaderValue :=
  lowercase (Text.trimList (fun byte => byte == 0x20 || byte == 0x09) (value.takeWhile fun byte => byte != 0x3B))

/-- The media types of the bodies that pages have always been able to send. -/
def simpleTypes : List HeaderValue :=
  ["application/x-www-form-urlencoded", "multipart/form-data", "text/plain"].map HeaderValue.ofString

/-- A request that is sent without a preflight request. -/
structure PageRequest.Simple (request : PageRequest) : Prop where
  method : isSafelisted request.method = true
  safe : request.unsafeNames = []
  plain : request.useCorsPreflight = false

/-- What a browser sends for a page of another origin. A bearer token, or a media type that
is not simple, is there only if the page gives it. -/
structure Sent (answers : Request → Response → Prop) (page : PageRequest) (request : Request) : Prop where
  method : request.method = page.method
  uri : request.uri = page.uri
  bearer : ∀ value token, request.headers.get "authorization" = some value →
    HeaderValue.toStr value = some ("Bearer " ++ token) →
    ∃ name ∈ page.headerNames, Text.asciiLowercase name = "authorization"
  contentType : ∀ value, request.headers.get "content-type" = some value → essence value ∉ simpleTypes →
    ∃ name ∈ page.unsafeNames, Text.asciiLowercase name = "content-type"
  permitted : page.Simple ∨ ∃ response, answers page.preflight response ∧ Permits page response

theorem Sent.asks {answers : Request → Response → Prop} {page : PageRequest} {request : Request}
    (sent : Sent answers page request) {name : String} (unsafeName : name ∈ page.unsafeNames) :
    ∃ response, answers page.preflight response ∧ Permits page response := by
  rcases sent.permitted with simple | permitted
  · rw [simple.safe] at unsafeName
    cases unsafeName
  · exact permitted

end TemplateServico.Fetch
