import TemplateServico.Json
import Mathlib.Data.List.Basic

/-! HTTP messages: header maps that keep every value, requests and responses. -/

set_option autoImplicit false

namespace TemplateServico.Http

/-- A status code, from 100 to 999. -/
structure StatusCode where
  code : UInt16
  range : 100 ≤ code ∧ code ≤ 999
  deriving DecidableEq

namespace StatusCode

def asU16 (status : StatusCode) : UInt16 := status.code

def fromU16 (code : UInt16) : Option StatusCode :=
  if range : 100 ≤ code ∧ code ≤ 999 then some ⟨code, range⟩ else none

@[simp] theorem fromU16_asU16 (status : StatusCode) : fromU16 status.asU16 = some status := by
  simp [fromU16, asU16, status.range]

def isError (status : StatusCode) : Prop := 400 ≤ status.code

instance (status : StatusCode) : Decidable status.isError :=
  inferInstanceAs (Decidable (400 ≤ status.code))

def OK : StatusCode := ⟨200, by decide⟩
def CREATED : StatusCode := ⟨201, by decide⟩
def BAD_REQUEST : StatusCode := ⟨400, by decide⟩
def UNAUTHORIZED : StatusCode := ⟨401, by decide⟩
def FORBIDDEN : StatusCode := ⟨403, by decide⟩
def NOT_FOUND : StatusCode := ⟨404, by decide⟩
def METHOD_NOT_ALLOWED : StatusCode := ⟨405, by decide⟩
def REQUEST_TIMEOUT : StatusCode := ⟨408, by decide⟩
def CONFLICT : StatusCode := ⟨409, by decide⟩
def UNPROCESSABLE_ENTITY : StatusCode := ⟨422, by decide⟩
def INTERNAL_SERVER_ERROR : StatusCode := ⟨500, by decide⟩
def SERVICE_UNAVAILABLE : StatusCode := ⟨503, by decide⟩

theorem ok_not_error : ¬ OK.isError := by decide

theorem created_not_error : ¬ CREATED.isError := by decide

end StatusCode

/-- The bytes of a header value. -/
abbrev HeaderValue := List UInt8

namespace HeaderValue

/-- The bytes a header value has when it is text: 0x20 to 0x7E and the tab. -/
def isVisibleAscii (byte : UInt8) : Bool := (32 ≤ byte && byte < 127) || byte == 9

/-- The bytes a header value may have at all: the former and 0x80 to 0xFF. -/
def isValid (byte : UInt8) : Bool := (32 ≤ byte && byte != 127) || byte == 9

def ofString (s : String) : HeaderValue := s.toUTF8.data.toList

theorem ofString_injective {s t : String} (same : ofString s = ofString t) :
    s = t := by
  apply String.toByteArray_inj.mp
  exact ByteArray.ext (Array.toList_inj.mp same)

/-- `HeaderValue::from_str`, which refuses control characters only. -/
def parse (s : String) : Option HeaderValue :=
  if (ofString s).all isValid then some (ofString s) else none

/-- `HeaderValue::to_str`. -/
def toStr (value : HeaderValue) : Option String :=
  if value.all isVisibleAscii then some (.ofList (value.map fun byte => Char.ofNat byte.toNat)) else none

end HeaderValue

/-- Header fields in order, under their lower-case names. -/
structure HeaderMap where
  entries : List (String × HeaderValue)
  deriving DecidableEq

theorem parse_eq_some {s : String} {value : HeaderValue} :
    HeaderValue.parse s = some value ↔ value = HeaderValue.ofString s ∧ value.all HeaderValue.isValid = true := by
  unfold HeaderValue.parse
  split
  next visible =>
    rw [Option.some.injEq]
    constructor
    · intro same
      rw [← same]
      exact ⟨rfl, visible⟩
    · intro ⟨same, _⟩
      exact same.symm
  next invisible =>
    constructor
    · nofun
    · intro ⟨same, visible⟩
      rw [same] at visible
      exact absurd visible invisible

namespace HeaderMap

def empty : HeaderMap := ⟨[]⟩

def getAll (headers : HeaderMap) (name : String) : List HeaderValue :=
  headers.entries.filterMap fun entry => if entry.1 = name then some entry.2 else none

/-- The first value of a field. -/
def get (headers : HeaderMap) (name : String) : Option HeaderValue := (headers.getAll name).head?

def append (headers : HeaderMap) (name : String) (value : HeaderValue) : HeaderMap :=
  ⟨headers.entries ++ [(name, value)]⟩

/-- Replace every value of a field by one. -/
def insert (headers : HeaderMap) (name : String) (value : HeaderValue) : HeaderMap :=
  ⟨headers.entries.filter (fun entry => entry.1 ≠ name) ++ [(name, value)]⟩

/-- Insert every field of a list. -/
def extend (headers : HeaderMap) (fields : List (String × HeaderValue)) : HeaderMap :=
  fields.foldl (fun headers entry => headers.insert entry.1 entry.2) headers

@[simp] theorem getAll_empty (name : String) : empty.getAll name = [] := rfl

@[simp] theorem getAll_append_self (headers : HeaderMap) (name : String) (value : HeaderValue) :
    (headers.append name value).getAll name = headers.getAll name ++ [value] := by
  simp [getAll, append]

@[simp] theorem getAll_append_ne (headers : HeaderMap) {name other : String} (value : HeaderValue)
    (different : other ≠ name) : (headers.append other value).getAll name = headers.getAll name := by
  simp [getAll, append, different]

@[simp] theorem getAll_insert_self (headers : HeaderMap) (name : String) (value : HeaderValue) :
    (headers.insert name value).getAll name = [value] := by
  simp only [getAll, insert, List.filterMap_append, List.filterMap_cons, if_true, List.filterMap_nil]
  rw [List.filterMap_eq_nil_iff.mpr, List.nil_append]
  intro entry member
  have different := (List.mem_filter.mp member).2
  simp only [decide_not, Bool.not_eq_true', decide_eq_false_iff_not] at different
  rw [if_neg different]

@[simp] theorem getAll_insert_ne (headers : HeaderMap) {name other : String} (value : HeaderValue)
    (different : other ≠ name) : (headers.insert other value).getAll name = headers.getAll name := by
  simp only [getAll, insert, List.filterMap_append, List.filterMap_cons, if_neg different,
    List.filterMap_nil, List.append_nil, List.filterMap_filter]
  apply List.filterMap_congr
  intro entry _
  by_cases same : entry.1 = name
  · simp [same, Ne.symm different]
  · simp [same]

/-- Inserting other fields leaves a field alone. -/
theorem getAll_extend_ne (headers : HeaderMap) {name : String}
    {fields : List (String × HeaderValue)} (different : ∀ entry ∈ fields, entry.1 ≠ name) :
    (headers.extend fields).getAll name = headers.getAll name := by
  induction fields generalizing headers with
  | nil => rfl
  | cons entry rest ih =>
    change ((headers.insert entry.1 entry.2).extend rest).getAll name = _
    rw [ih _ (fun other member => different other (List.mem_cons_of_mem _ member))]
    exact getAll_insert_ne headers entry.2 (different entry List.mem_cons_self)

/-- Fields with different names, inserted one after another, are there once each. -/
theorem getAll_extend {headers : HeaderMap} {fields : List (String × HeaderValue)}
    (distinct : (fields.map Prod.fst).Nodup) {name : String} {value : HeaderValue}
    (member : (name, value) ∈ fields) : (headers.extend fields).getAll name = [value] := by
  induction fields generalizing headers with
  | nil => cases member
  | cons entry rest ih =>
    rw [List.map_cons, List.nodup_cons] at distinct
    change ((headers.insert entry.1 entry.2).extend rest).getAll name = _
    rcases List.mem_cons.mp member with same | member
    · subst same
      have absent : ∀ other ∈ rest, other.1 ≠ name := by
        intro other inRest same
        exact distinct.1 (List.mem_map.mpr ⟨other, inRest, same⟩)
      rw [getAll_extend_ne _ absent, getAll_insert_self]
    · exact ih distinct.2 member

theorem extend_append (headers : HeaderMap) (first second : List (String × HeaderValue)) :
    headers.extend (first ++ second) = (headers.extend first).extend second :=
  List.foldl_append

end HeaderMap

inductive Method where
  | get | head | post | put | delete | connect | options | trace | patch
  | extension (token : String)
  deriving DecidableEq, Repr

/-- A request target: its path, and the text it is displayed as. -/
structure Uri where
  path : String
  text : String
  deriving DecidableEq

structure Request where
  method : Method
  uri : Uri
  headers : HeaderMap
  body : List UInt8

/-- A response body. A JSON body stands for the text the serializer writes, which
parses back to the value. -/
inductive Body where
  | empty
  | json (value : Json)
  | text (content : String)

structure Response where
  status : StatusCode
  headers : HeaderMap
  body : Body

end TemplateServico.Http
