import Mathlib.Algebra.Group.Nat.Defs
import Mathlib.Data.List.Basic

/-! JSON values and how derived deserializers read the fields of an object. -/

set_option autoImplicit false

namespace TemplateServico

inductive Json where
  | null
  | bool (value : Bool)
  | int (value : Int)
  -- A number that is not an integer, by its text.
  | float (literal : String)
  | str (value : String)
  | arr (values : List Json)
  | obj (fields : List (String × Json))

namespace Json

/-- The value of a field that may be absent. A field that occurs twice is an error. -/
def field (name : String) (fields : List (String × Json)) : Option (Option Json) :=
  match fields.filter (fun entry => entry.1 = name) with
  | [] => some none
  | [entry] => some (some entry.2)
  | _ => none

def asString : Json → Option String
  | .str value => some value
  | _ => none

def asUnsigned (bits : Nat) : Json → Option Nat
  | .int (.ofNat value) => if value < 2 ^ bits then some value else none
  | _ => none

def required {A : Type} (read : Json → Option A) (name : String) (fields : List (String × Json)) :
    Option A := do
  let value ← (← field name fields)
  read value

def nullable {A : Type} (read : Json → Option A) : Json → Option (Option A)
  | .null => some none
  | value => (read value).map some

/-- A field of an optional type: absent and `null` both mean that there is none. -/
def optional {A : Type} (read : Json → Option A) (name : String) (fields : List (String × Json)) :
    Option (Option A) := do
  match ← field name fields with
  | none => pure none
  | some .null => pure none
  | some value => some (← read value)

def elements {A : Type} (read : Json → Option A) : Json → Option (List A)
  | .arr values => values.mapM read
  | _ => none

theorem asUnsigned_of_lt {bits value : Nat} (bound : value < 2 ^ bits) :
    asUnsigned bits (.int value) = some value := by
  change (if value < 2 ^ bits then some value else none) = some value
  rw [if_pos bound]

end Json

end TemplateServico
