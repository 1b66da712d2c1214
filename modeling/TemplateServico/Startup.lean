import TemplateServico.Agreement
import TemplateServico.Cors

/-! The CORS layer that a process gets from its environment. -/

set_option autoImplicit false

namespace TemplateServico

open Http

/-! ## Layers that cannot be built -/

theorem parse_wildcard {entry : String} : HeaderValue.parse entry = some wildcard ↔ entry = "*" := by
  rw [parse_eq_some]
  constructor
  · intro ⟨same, _⟩
    exact (HeaderValue.ofString_injective same).symm
  · intro same
    rw [same]
    exact ⟨rfl, by decide⟩

theorem wildcard_mem_parsed {entries : List String} :
    wildcard ∈ entries.filterMap HeaderValue.parse ↔ "*" ∈ entries := by
  rw [List.mem_filterMap]
  constructor
  · intro ⟨entry, member, parsed⟩
    rwa [parse_wildcard.mp parsed] at member
  · intro member
    exact ⟨"*", member, parse_wildcard.mpr rfl⟩

theorem buildCorsLayer_isSome {config : AppConfig} :
    (buildCorsLayer config).isSome = true ↔ ¬ (config.environment = .production ∧ "*" ∈ config.allowedOrigins) := by
  unfold buildCorsLayer
  by_cases production : config.environment = .production
  · rw [if_pos (AppEnvironment.isProduction_iff.mpr production), Option.isSome_map, and_iff_right production,
      ← wildcard_mem_parsed]
    unfold AllowOrigin.ofList
    split
    next listed => exact iff_of_false nofun (not_not_intro listed)
    next plain => exact iff_of_true rfl plain
  · rw [if_neg (AppEnvironment.isProduction_iff.not.mpr production)]
    exact iff_of_true rfl fun listed => production listed.1

/-- The layer can be built exactly when the service is not in production or no origin
is the wildcard: in the text, when no part between commas is a star and whitespace. -/
theorem cors_built_iff (config : AppConfig) :
    ((buildCorsLayer config).isSome = true ↔
      ¬ (config.environment = .production ∧ "*" ∈ config.allowedOrigins)) ∧
    ∀ raw, config.allowedOrigins = parseAllowedOrigins raw →
      ((buildCorsLayer config).isSome = true ↔
        ¬ (config.environment = .production ∧ ∃ segment ∈ Text.split ',' raw, Text.trim segment = "*")) := by
  refine ⟨buildCorsLayer_isSome, fun raw parsed => ?_⟩
  have inText : "*" ∈ parseAllowedOrigins raw ↔ ∃ segment ∈ Text.split ',' raw, Text.trim segment = "*" := by
    rw [mem_parseAllowedOrigins]
    constructor
    · intro ⟨segment, inSplit, same, _⟩
      exact ⟨segment, inSplit, same.symm⟩
    · intro ⟨segment, inSplit, same⟩
      exact ⟨segment, inSplit, same.symm, by decide⟩
  rw [buildCorsLayer_isSome, parsed, inText]

def wildcardVariables : Environment :=
  ⟨[("ENVIRONMENT", "production"), ("ALLOWED_ORIGINS", "https://a.example, *")], by decide⟩

theorem wildcard_panics : (load wildcardVariables).allowedOrigins = parseAllowedOrigins "https://a.example, *" ∧
    buildCorsLayer (load wildcardVariables) = none ∧
    ∀ libs jwksCache, createRouter libs ⟨load wildcardVariables, jwksCache⟩ = none := by
  have panics : buildCorsLayer (load wildcardVariables) = none := by decide
  refine ⟨by decide, panics, fun libs jwksCache => ?_⟩
  unfold createRouter
  rw [panics]
  rfl

/-! ## Permissive layers -/

theorem permissive_iff {config : AppConfig} :
    buildCorsLayer config = some .permissive ↔ config.environment ≠ .production := by
  by_cases production : config.environment = .production
  · apply iff_of_false _ (not_not_intro production)
    intro built
    cases (production_layer production built).2.1
  · apply iff_of_true _ production
    unfold buildCorsLayer
    rw [if_neg (AppEnvironment.isProduction_iff.not.mpr production)]

theorem read_production {text : Option String} :
    Field.read .environment text = .production ↔ text.bind AppEnvironment.deserialize = some .production := by
  change (text.bind AppEnvironment.deserialize).getD defaultEnvironment = _ ↔ _
  cases text.bind AppEnvironment.deserialize with
  | none => exact iff_of_false nofun nofun
  | some environment => rw [Option.getD_some, Option.some.injEq]

theorem load_recognised {env : Environment} {environment : AppEnvironment}
    (recognised : envFromVar env = some environment) : (load env).environment = environment := by
  unfold load
  rw [recognised]
  cases env.get "ALLOWED_ORIGINS" <;> rfl

/-- A name that is not recognised leaves the decision to `envy`, and that only knows
the environment under another spelling of its variable. -/
theorem load_unrecognised {env : Environment} {value message : String} (first : environmentVar env = some value)
    (unknown : AppEnvironment.fromStr value = .error message) :
    (load env).environment = .production ↔ Accepted env ∧ ∃ name text,
      Text.lowercase name = "environment" ∧ env.get name = some text ∧
        AppEnvironment.deserialize text = some .production := by
  have unrecognised : envFromVar env = none := by
    unfold envFromVar
    rw [first, Option.bind_some, unknown]
    rfl
  by_cases accepted : Accepted env
  · rw [load_of_accepted accepted, and_iff_right accepted]
    change (envFromVar env).getD _ = _ ↔ _
    rw [unrecognised, Option.getD_none, read_production]
    constructor
    · intro read
      obtain ⟨text, found, read⟩ := Option.bind_eq_some_iff.mp read
      rcases text_cases (accepted.single .environment) with ⟨nothing, _⟩ | ⟨name, text', spelled, given, found'⟩
      · rw [nothing] at found
        cases found
      · rw [found'] at found
        cases found
        exact ⟨name, text, spelled, given, read⟩
    · intro ⟨name, text, spelled, given, read⟩
      rw [text_of_get (accepted.single .environment) spelled given]
      exact read
  · apply iff_of_false _ fun production => accepted production.1
    rw [load_of_rejected accepted]
    change ¬ (envFromVar env).getD _ = _
    rw [unrecognised, Option.getD_none, read_production]
    intro read
    obtain ⟨text, given, read⟩ := Option.bind_eq_some_iff.mp read
    change env.get "ENVIRONMENT" = some text at given
    unfold environmentVar at first
    rw [given, Option.some_or, Option.some.injEq] at first
    rw [← first, AppEnvironment.fromStr_of_deserialize read] at unknown
    cases unknown

/-- Where the first of the three variables does not say development or test, the layer
is not permissive exactly when it says production, or `envy` succeeds and finds
production under another spelling of the variable. -/
theorem not_permissive_iff {env : Environment} {value : String} (first : environmentVar env = some value)
    (notDevelopment : AppEnvironment.fromStr value ≠ .ok .development)
    (notTest : AppEnvironment.fromStr value ≠ .ok .test) :
    buildCorsLayer (load env) ≠ some .permissive ↔
      AppEnvironment.fromStr value = .ok .production ∨
      (Accepted env ∧ ∃ name text, Text.lowercase name = "environment" ∧ env.get name = some text ∧
        AppEnvironment.deserialize text = some .production) := by
  rw [Ne, permissive_iff, Ne, not_not]
  cases known : AppEnvironment.fromStr value with
  | error message =>
    rw [or_iff_right nofun]
    exact load_unrecognised first known
  | ok environment =>
    have recognised : envFromVar env = some environment := by
      unfold envFromVar
      rw [first, Option.bind_some, known]
      rfl
    rw [load_recognised recognised]
    cases environment with
    | development => exact absurd known notDevelopment
    | test => exact absurd known notTest
    | production => exact iff_of_true rfl (.inl rfl)

def spacedVariables : Environment :=
  ⟨[("DATABASE_URL", "postgres://db"), ("ENVIRONMENT", " Production\n")], by decide⟩

theorem spaced_production_not_permissive : ¬ Accepted spacedVariables ∧
    buildCorsLayer (load spacedVariables) ≠ some .permissive := by
  have first : environmentVar spacedVariables = some " Production\n" := by decide
  exact ⟨by decide, (not_permissive_iff first (by decide) (by decide)).mpr (.inl (by decide))⟩

def misspeltVariables : Environment :=
  ⟨[("DATABASE_URL", "postgres://db"), ("ENVIRONMENT", "prodution")], by decide⟩

theorem misspelt_production_permissive : ∃ value, environmentVar misspeltVariables = some value ∧
    AppEnvironment.fromStr value = .error "Unknown environment: prodution" ∧
    buildCorsLayer (load misspeltVariables) = some .permissive :=
  ⟨"prodution", by decide, by decide, by decide⟩

end TemplateServico
