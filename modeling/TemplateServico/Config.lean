import TemplateServico.Text

/-! The configuration the service reads from its environment. -/

set_option autoImplicit false

namespace TemplateServico

inductive AppEnvironment where
  | development | production | test
  deriving DecidableEq, Repr

namespace AppEnvironment

def isProduction : AppEnvironment → Bool
  | .production => true
  | _ => false

theorem isProduction_iff {environment : AppEnvironment} :
    environment.isProduction = true ↔ environment = .production := by
  cases environment <;> decide

def fromStr (s : String) : Except String AppEnvironment :=
  match Text.asciiLowercase (Text.trim s) with
  | "prod" | "production" => .ok .production
  | "dev" | "development" => .ok .development
  | "test" => .ok .test
  | other => .error ("Unknown environment: " ++ other)

/-- The names and aliases that the derived deserializer knows. -/
def variants : List (String × AppEnvironment) :=
  [("development", .development), ("dev", .development), ("DEV", .development), ("Dev", .development),
   ("DEVELOPMENT", .development), ("Development", .development),
   ("production", .production), ("prod", .production), ("PROD", .production), ("Prod", .production),
   ("PRODUCTION", .production), ("Production", .production),
   ("test", .test), ("TEST", .test), ("Test", .test)]

def deserialize (s : String) : Option AppEnvironment := variants.lookup s

end AppEnvironment

structure AppConfig where
  databaseUrl : String
  port : UInt16
  host : String
  environment : AppEnvironment
  allowedOrigins : List String
  otelServiceName : String
  otlpEndpoint : Option String
  jwksUrl : Option String
  jwtAudience : Option String
  jwtIssuer : Option String
  redisUrl : Option String
  deriving DecidableEq

def defaultPort : UInt16 := 3000
def defaultHost : String := "0.0.0.0"
def defaultEnvironment : AppEnvironment := .development
def defaultAllowedOrigins : List String := []
def defaultOtelServiceName : String := "template-servico-rust"

/-- What `load` does to a list of origins that was split before. -/
def trimOrigins (origins : List String) : List String :=
  (origins.map Text.trim).filter (fun s => !s.isEmpty)

def parseAllowedOrigins (raw : String) : List String :=
  ((Text.split ',' raw).map Text.trim).filter (fun s => !s.isEmpty)

theorem mem_parseAllowedOrigins {raw origin : String} :
    origin ∈ parseAllowedOrigins raw ↔
      ∃ segment ∈ Text.split ',' raw, origin = Text.trim segment ∧ origin ≠ "" := by
  simp only [parseAllowedOrigins, List.mem_filter, List.mem_map, Bool.not_eq_true',
    String.isEmpty_eq_false_iff]
  constructor
  · rintro ⟨⟨segment, member, same⟩, nonempty⟩
    exact ⟨segment, member, same.symm, nonempty⟩
  · rintro ⟨segment, member, same, nonempty⟩
    exact ⟨⟨segment, member, same.symm⟩, nonempty⟩

example : parseAllowedOrigins ",, , https://valid.example ,,," = ["https://valid.example"] := by
  decide

end TemplateServico
