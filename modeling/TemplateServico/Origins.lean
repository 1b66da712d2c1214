import TemplateServico.Config

/-! The list of allowed origins as a canonical form of the text it is read from. -/

set_option autoImplicit false

namespace TemplateServico

/-- An entry that reading leaves as it is. -/
structure Clean (entry : String) : Prop where
  nonempty : entry ≠ ""
  single : ',' ∉ entry.toList
  trimmed : Text.Trimmed entry

theorem parseAllowedOrigins_eq (raw : String) : parseAllowedOrigins raw = trimOrigins (Text.split ',' raw) := rfl

theorem trimOrigins_append (first second : List String) :
    trimOrigins (first ++ second) = trimOrigins first ++ trimOrigins second := by
  unfold trimOrigins
  rw [List.map_append, List.filter_append]

theorem trimOrigins_clean {entries : List String} (clean : ∀ entry ∈ entries, Clean entry) :
    trimOrigins entries = entries := by
  unfold trimOrigins
  have unchanged : entries.map Text.trim = entries := by
    conv_rhs => rw [← List.map_id entries]
    apply List.map_congr_left
    intro entry member
    exact (clean entry member).trimmed.trim_eq
  rw [unchanged, List.filter_eq_self]
  intro entry member
  simp [(clean entry member).nonempty]

theorem clean_of_mem {raw origin : String} (member : origin ∈ parseAllowedOrigins raw) : Clean origin := by
  obtain ⟨segment, inSplit, same, nonempty⟩ := mem_parseAllowedOrigins.mp member
  refine ⟨nonempty, ?_, same ▸ Text.trimmed_trim segment⟩
  rw [same, Text.toList_trim]
  intro comma
  exact Text.not_mem_split inSplit ((Text.trimList_sublist _ _).subset comma)

theorem parseAllowedOrigins_append (a b : String) :
    parseAllowedOrigins (a ++ "," ++ b) = parseAllowedOrigins a ++ parseAllowedOrigins b := by
  have split : Text.split ',' (a ++ "," ++ b) = Text.split ',' a ++ Text.split ',' b := Text.split_append ',' a b
  rw [parseAllowedOrigins_eq, split, trimOrigins_append]
  rfl

theorem parseAllowedOrigins_intercalate {entries : List String} (clean : ∀ entry ∈ entries, Clean entry) :
    parseAllowedOrigins (String.intercalate "," entries) = entries := by
  by_cases empty : entries = []
  · rw [empty, String.intercalate_nil]
    decide
  · have split : Text.split ',' (String.intercalate "," entries) = entries :=
      Text.split_intercalate empty fun entry member => (clean entry member).single
    rw [parseAllowedOrigins_eq, split, trimOrigins_clean clean]

/-- Reading a list of origins is a retraction onto lists of clean entries. It reads
parts of the text on their own, and it is what `load` does to a list that was
already split. -/
theorem parseAllowedOrigins_canonical :
    (∀ raw, ∀ origin ∈ parseAllowedOrigins raw, Clean origin) ∧
    (∀ entries, (∀ entry ∈ entries, Clean entry) →
      parseAllowedOrigins (String.intercalate "," entries) = entries) ∧
    (∀ raw, parseAllowedOrigins (String.intercalate "," (parseAllowedOrigins raw)) = parseAllowedOrigins raw) ∧
    (∀ a b, parseAllowedOrigins (a ++ "," ++ b) = parseAllowedOrigins a ++ parseAllowedOrigins b) ∧
    (∀ raw, trimOrigins (Text.split ',' raw) = parseAllowedOrigins raw) := by
  refine ⟨fun raw origin => clean_of_mem, fun entries => parseAllowedOrigins_intercalate, ?_,
    parseAllowedOrigins_append, fun raw => (parseAllowedOrigins_eq raw).symm⟩
  intro raw
  exact parseAllowedOrigins_intercalate fun origin => clean_of_mem

end TemplateServico
