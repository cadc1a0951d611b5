/-!
# TOML values

What a TOML document says. Numbers with a fraction and dates keep their spelling. `Value.slots?`
finds the values of the named fields of a record.
-/

namespace FeedNode.Toml

/-- A TOML value. -/
inductive Value where
  | string (s : String)
  | integer (n : Int)
  | float (spelling : String)
  | bool (b : Bool)
  | dateTime (spelling : String)
  | array (items : List Value)
  | table (entries : List (String × Value))
deriving Inhabited, Repr

namespace Value

/-- The text of a string. -/
def text? : Value → Option String
  | .string s => some s
  | _ => none

/-- The truth value. -/
def bool? : Value → Option Bool
  | .bool b => some b
  | _ => none

/-- An integer. -/
def integer? : Value → Option Int
  | .integer n => some n
  | _ => none

/-- An integer that is not negative. -/
def count? : Value → Option Nat
  | .integer n => if 0 ≤ n then some n.toNat else none
  | _ => none

/-- The values that a record gives to some fields. A table gives them by name and an array by
position; a date is a record with none of the fields. -/
def slots? (names : List String) : Value → Option (List (Option Value))
  | .table entries => some (names.map fun name => entries.lookup name)
  | .array items => some (names.zipIdx.map fun (_, i) => items[i]?)
  | .dateTime _ => some (names.map fun _ => none)
  | _ => none

/-- Reads a field that has a default when it is absent. -/
def field? {α : Type} (read? : Value → Option α) (default : α) : Option Value → Option α
  | none => some default
  | some v => read? v

end Value

end FeedNode.Toml
