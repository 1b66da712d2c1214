import Mathlib.Algebra.Group.Nat.Defs
import Mathlib.Data.List.DropRight
import Mathlib.Data.List.Infix

/-! String operations of the source language's standard library, on characters. -/

set_option autoImplicit false

namespace TemplateServico.Text

section Trimming

variable {α : Type} (blank : α → Bool)

def trimList (l : List α) : List α := (l.dropWhile blank).rdropWhile blank

theorem trimList_sublist (l : List α) : (trimList blank l).Sublist l :=
  (List.rdropWhile_prefix blank _).sublist.trans (List.dropWhile_sublist blank)

theorem trimList_getLast {l : List α} {last : α} (found : (trimList blank l).getLast? = some last) :
    blank last = false := by
  have nonempty : trimList blank l ≠ [] := by
    intro empty
    simp [empty] at found
  have unwanted := List.rdropWhile_last_not blank (l.dropWhile blank) nonempty
  rw [List.getLast?_eq_some_getLast nonempty, Option.some.injEq] at found
  rw [← found]
  exact Bool.eq_false_iff.mpr unwanted

theorem trimList_head {l : List α} {first : α} (found : (trimList blank l).head? = some first) :
    blank first = false := by
  obtain ⟨rest, partition⟩ := List.rdropWhile_prefix blank (l.dropWhile blank)
  have same : (l.dropWhile blank).head? = some first := by
    rw [← partition, List.head?_append]
    change ((trimList blank l).head?).or _ = _
    rw [found, Option.some_or]
  have unwanted := List.head?_dropWhile_not blank l
  rw [same] at unwanted
  exact unwanted

theorem trimList_self {l : List α} (first : ∀ a, l.head? = some a → blank a = false)
    (last : ∀ a, l.getLast? = some a → blank a = false) : trimList blank l = l := by
  have front : l.dropWhile blank = l := by
    cases l with
    | nil => rfl
    | cons a rest => exact List.dropWhile_cons_of_neg (by simp [first a rfl])
  unfold trimList
  rw [front, List.rdropWhile_eq_self_iff]
  intro nonempty
  simp [last _ (List.getLast?_eq_some_getLast nonempty)]

end Trimming

/-- The characters with the Unicode property White_Space. -/
def isWhitespace (c : Char) : Bool :=
  let n := c.toNat
  (9 ≤ n && n ≤ 13) || n == 0x20 || n == 0x85 || n == 0xA0 || n == 0x1680 ||
    (0x2000 ≤ n && n ≤ 0x200A) || n == 0x2028 || n == 0x2029 || n == 0x202F || n == 0x205F || n == 0x3000

/-- `str::trim`. -/
def trim (s : String) : String := .ofList (trimList isWhitespace s.toList)

@[simp] theorem toList_trim (s : String) : (trim s).toList = trimList isWhitespace s.toList :=
  String.toList_ofList

structure Trimmed (s : String) : Prop where
  first : ∀ c, s.toList.head? = some c → isWhitespace c = false
  last : ∀ c, s.toList.getLast? = some c → isWhitespace c = false

theorem trimmed_trim (s : String) : Trimmed (trim s) := by
  constructor
  · intro c found
    rw [toList_trim] at found
    exact trimList_head isWhitespace found
  · intro c found
    rw [toList_trim] at found
    exact trimList_getLast isWhitespace found

theorem Trimmed.trim_eq {s : String} (trimmed : Trimmed s) : trim s = s := by
  unfold trim
  rw [trimList_self isWhitespace trimmed.first trimmed.last, String.ofList_toList]

example : trim "\t https://a.example\u2003 " = "https://a.example" := by decide

theorem not_mem_splitOn {α : Type} [DecidableEq α] {separator : α} {l segment : List α}
    (member : segment ∈ l.splitOn separator) : separator ∉ segment := by
  induction l generalizing segment with
  | nil =>
    rw [List.splitOn_nil, List.mem_singleton] at member
    rw [member]
    exact List.not_mem_nil
  | cons a rest ih =>
    rw [List.splitOn_cons_eq_if_modifyHead] at member
    split at member
    next =>
      rcases List.mem_cons.mp member with first | later
      · rw [first]
        exact List.not_mem_nil
      · exact ih later
    next other =>
      -- The character joins the first segment of the rest.
      cases segments : rest.splitOn separator with
      | nil => exact absurd segments (List.splitOn_ne_nil separator rest)
      | cons first later =>
        rw [segments] at ih member
        rcases List.mem_cons.mp member with grown | unchanged
        · rw [grown, List.mem_cons]
          intro same
          rcases same with same | inFirst
          · exact other (beq_iff_eq.mpr same.symm)
          · exact ih List.mem_cons_self inFirst
        · exact ih (List.mem_cons_of_mem _ unchanged)

/-- `str::split` on one character: there is always one more segment than separators. -/
def split (separator : Char) (s : String) : List String :=
  (s.toList.splitOn separator).map .ofList

theorem not_mem_split {separator : Char} {s segment : String} (member : segment ∈ split separator s) :
    separator ∉ segment.toList := by
  obtain ⟨characters, inSplit, same⟩ := List.mem_map.mp member
  rw [← same, String.toList_ofList]
  exact not_mem_splitOn inSplit

theorem split_append (separator : Char) (a b : String) :
    split separator (a ++ .singleton separator ++ b) = split separator a ++ split separator b := by
  unfold split
  rw [String.toList_append, String.toList_append, String.toList_singleton, List.append_assoc,
    List.singleton_append, List.splitOn_append_cons_self, List.map_append]

/-- Joined strings are found again, if the separator is in none of them. -/
theorem split_intercalate {separator : Char} {segments : List String} (nonempty : segments ≠ [])
    (free : ∀ segment ∈ segments, separator ∉ segment.toList) :
    split separator (String.intercalate (.singleton separator) segments) = segments := by
  unfold split
  rw [String.toList_intercalate, String.toList_singleton, List.splitOn_intercalate separator]
  · simp
  · intro characters member
    obtain ⟨segment, inSegments, same⟩ := List.mem_map.mp member
    rw [← same]
    exact free segment inSegments
  · simpa using nonempty

/-- `str::contains` of a string. -/
def contains (s pattern : String) : Bool := decide (pattern.toList <:+: s.toList)

/-- `str::strip_prefix`. -/
def stripPrefix (start s : String) : Option String :=
  if start.toList.isPrefixOf s.toList then some (.ofList (s.toList.drop start.length)) else none

theorem stripPrefix_eq_some {start s rest : String} :
    stripPrefix start s = some rest ↔ s = start ++ rest := by
  unfold stripPrefix
  rw [← String.toList_inj, String.toList_append]
  constructor
  · intro stripped
    split at stripped
    next isPrefix =>
      obtain ⟨tail, partition⟩ := List.isPrefixOf_iff_prefix.mp isPrefix
      have same := Option.some.inj stripped
      rw [← same, String.toList_ofList, ← partition, ← String.length_toList, List.drop_left]
    next => cases stripped
  · intro partition
    have isPrefix : start.toList.isPrefixOf s.toList = true :=
      List.isPrefixOf_iff_prefix.mpr ⟨rest.toList, partition.symm⟩
    rw [if_pos isPrefix, partition, ← String.length_toList, List.drop_left, String.ofList_toList]

def asciiLowercase (s : String) : String := .ofList (s.toList.map Char.toLower)

/-- `str::parse` of an unsigned integer: decimal digits, after one plus sign at most. -/
def parseUnsigned (bits : Nat) (s : String) : Option Nat :=
  let digits := match s.toList with
    | '+' :: rest => rest
    | all => all
  if digits.isEmpty || !digits.all Char.isDigit then none
  else
    let value := digits.foldl (fun value digit => 10 * value + (digit.toNat - '0'.toNat)) 0
    if value < 2 ^ bits then some value else none

/-- `str::to_lowercase` as far as a search for ASCII text can tell: besides the
ASCII letters only the Kelvin sign and the dotted capital I have ASCII characters
in their lower case. -/
def lowercase (s : String) : String :=
  .ofList (s.toList.flatMap fun c =>
    if c.toNat = 0x212A then ['k'] else if c.toNat = 0x130 then ['i', '\u0307'] else [c.toLower])

end TemplateServico.Text
