import TemplateServico.Config

/-! The global state that tracing is set up in. -/

set_option autoImplicit false

namespace TemplateServico

structure TracerProvider where
  serviceName : String
  endpoint : String
  deriving DecidableEq, Repr

inductive Subscriber where
  | pretty
  | json (tracer : Option TracerProvider)
  deriving DecidableEq, Repr

/-- What the process has installed globally. -/
structure Telemetry where
  -- Whether the trace context of requests is read.
  propagator : Bool
  provider : Option TracerProvider
  subscriber : Option Subscriber
  deriving DecidableEq, Repr

namespace Telemetry

def initial : Telemetry := ⟨false, none, none⟩

/-- The exporter is built for an endpoint, or the library gives an error. -/
def initOtelTracer (built : Except String Unit) (serviceName otlpEndpoint : String) (telemetry : Telemetry) :
    Except String TracerProvider × Telemetry :=
  let telemetry := { telemetry with propagator := true }
  match built with
  | .error reason => (.error reason, telemetry)
  | .ok () =>
    let provider : TracerProvider := ⟨serviceName, otlpEndpoint⟩
    (.ok provider, { telemetry with provider := some provider })

/-- There is one subscriber for the whole life of the process. -/
def tryInit (subscriber : Subscriber) (telemetry : Telemetry) : Except String Unit × Telemetry :=
  match telemetry.subscriber with
  | some _ => (.error "a global default trace dispatcher has already been set", telemetry)
  | none => (.ok (), { telemetry with subscriber := some subscriber })

def tryInitTracing (built : Except String Unit) (environment : AppEnvironment)
    (otelServiceName otlpEndpoint : Option String) (telemetry : Telemetry) : Except String Unit × Telemetry :=
  match environment with
  | .production =>
    match otlpEndpoint with
    | some endpoint =>
      let name := otelServiceName.getD "template-servico-rust"
      match initOtelTracer built name endpoint telemetry with
      | (.error reason, telemetry) => (.error reason, telemetry)
      | (.ok provider, telemetry) => tryInit (.json (some provider)) telemetry
    | none => tryInit (.json none) telemetry
  | .development | .test => tryInit .pretty telemetry

def initTracing (built : Except String Unit) (environment : AppEnvironment)
    (otelServiceName otlpEndpoint : Option String) (telemetry : Telemetry) : Telemetry :=
  (tryInitTracing built environment otelServiceName otlpEndpoint telemetry).2

-- The provider is taken to be gone afterwards, whether or not its last spans could be exported.
def shutdownTracerProvider (telemetry : Telemetry) : Telemetry := { telemetry with provider := none }

variable {built : Except String Unit} {environment : AppEnvironment} {otelServiceName otlpEndpoint : Option String}
  {telemetry : Telemetry}

@[simp] theorem tryInit_provider (subscriber : Subscriber) :
    (tryInit subscriber telemetry).2.provider = telemetry.provider := by
  unfold tryInit
  split <;> rfl

/-- A provider is installed where there is an endpoint in production, and only there. -/
theorem initTracing_provider (environment : AppEnvironment) (otelServiceName otlpEndpoint : Option String)
    (telemetry : Telemetry) :
    (initTracing built environment otelServiceName otlpEndpoint telemetry).provider = telemetry.provider ∨
    environment.isProduction = true ∧ ∃ endpoint, otlpEndpoint = some endpoint ∧
      (initTracing built environment otelServiceName otlpEndpoint telemetry).provider =
        some ⟨otelServiceName.getD "template-servico-rust", endpoint⟩ := by
  unfold initTracing tryInitTracing
  cases environment with
  | development => exact .inl (tryInit_provider _)
  | test => exact .inl (tryInit_provider _)
  | production =>
    cases otlpEndpoint with
    | none => exact .inl (tryInit_provider _)
    | some endpoint =>
      cases built with
      | error reason => exact .inl rfl
      | ok done => exact .inr ⟨rfl, endpoint, rfl, tryInit_provider _⟩

end Telemetry

end TemplateServico
