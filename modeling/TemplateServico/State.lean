import TemplateServico.Auth.JwksCache
import TemplateServico.Config
import TemplateServico.Http
import TemplateServico.Postgres

/-! The state that handlers share, and everything the service asks of the world outside it. -/

set_option autoImplicit false

namespace TemplateServico

open Interaction Jsonwebtoken Postgres

-- The connection pool is not a field: it is what answers `send` and `receive`.
structure AppState where
  config : AppConfig
  jwksCache : Option JwksCache

/-- Places in the code that a run is observed to pass. -/
inductive Point where
  | nextRun | healthCheck | createUser | listUsers | getUser
  deriving DecidableEq, Repr

def Point.isUsersHandler : Point → Bool
  | .createUser | .listUsers | .getUser => true
  | .nextRun | .healthCheck => false

inductive ServiceOp where
  | jwks (op : JwksOp String)
  -- The rest of the request body.
  | receiveBody
  | newUuid
  | clock
  -- Hand a statement to a connection of the pool.
  | send (statement : Statement)
  -- Wait for the answer to a statement that was sent.
  | receive (statement : Statement)
  | renderMetrics
  -- Whether the time a request may take has run out.
  | deadline
  | pass (point : Point)
  deriving DecidableEq, Repr

abbrev ServiceOp.Reply : ServiceOp → Type
  | .jwks op => op.Reply
  | .receiveBody => Except String Unit
  | .newUuid => Uuid
  | .clock => Nat
  | .send _ => Except SqlxError Unit
  | .receive _ => Except SqlxError (List User)
  | .renderMetrics => String
  | .deadline => Bool
  | .pass _ => Unit

/-- The requests that suspend the handling of a request. -/
def ServiceOp.waits : ServiceOp → Bool
  | .jwks _ | .receiveBody | .send _ | .receive _ => true
  | .newUuid | .clock | .renderMetrics | .deadline | .pass _ => false

abbrev serviceInterface : Interface := ⟨ServiceOp, ServiceOp.Reply⟩

instance : DecidableEq serviceInterface.Op := inferInstanceAs (DecidableEq ServiceOp)

abbrev ServiceProgram := Program serviceInterface

def jwksEmbedding : Embedding (jwksInterface String) serviceInterface where
  op := .jwks
  lower _ reply := reply
  raise _ reply := reply
  raise_lower _ _ := rfl

abbrev passed (point : Point) : Event serviceInterface := ⟨.pass point, ()⟩

/-- What third-party code makes of a request, as far as the service relies on it. -/
structure Libraries where
  jwt : Library
  -- The extractors give the text of their rejection.
  jsonContentType : Http.HeaderMap → Except String Unit
  jsonPayload : List UInt8 → Except String CreateUserPayload
  pathUuid : String → Except String Uuid
  -- The documentation pages and the document they show.
  swaggerUi : Http.Request → Http.Response

end TemplateServico
