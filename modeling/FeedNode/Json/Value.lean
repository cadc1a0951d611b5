/-!
# JSON values

A JSON value as its text gives it. A string may be no text, when its escapes name half of a
surrogate pair; a number keeps its spelling when it is not an integer. `Value.slots?` finds the
values of the named fields of a record, which may be an object or an array of the fields in order.
-/

namespace FeedNode.Json

/-- A JSON value. A string, or a key, is `none` when it is no text. -/
inductive Value where
  | null
  | bool (b : Bool)
  | integer (negative : Bool) (magnitude : Nat)
  /-- A number with a fraction or an exponent, as it is spelled. -/
  | decimal (spelling : String)
  | string (text : Option String)
  | array (items : List Value)
  | object (members : List (Option String × Value))
deriving Inhabited, Repr

namespace Value

/-- A string that is a text. -/
def ofText (s : String) : Value :=
  .string (some s)

/-- A natural number. -/
def ofNat (n : Nat) : Value :=
  .integer false n

/-- An object of named fields. -/
def record (fields : List (String × Value)) : Value :=
  .object (fields.map fun (name, v) => (some name, v))

/-- The text of a string. -/
def text? : Value → Option String
  | .string s => s
  | _ => none

/-- The truth value. -/
def bool? : Value → Option Bool
  | .bool b => some b
  | _ => none

/-- An integer that fits an unsigned 64-bit word. A minus sign is refused, also before a zero. -/
def word? : Value → Option Nat
  | .integer false n => if n < UInt64.size then some n else none
  | _ => none

/-- The members of an object whose keys are all texts. -/
def members? : Value → Option (List (String × Value))
  | .object members => members.mapM fun (k, v) => k.map fun k => (k, v)
  | _ => none

/-- The only value of a field: `some none` if there is none, `none` if there are several. -/
def onlyValue? (members : List (String × Value)) (name : String) : Option (Option Value) :=
  match members.filter fun (k, _) => k == name with
  | [] => some none
  | [(_, v)] => some (some v)
  | _ => none

/-- The value given for each of the fields `names`, from either form of a record. -/
def slots? (names : List String) (v : Value) : Option (List (Option Value)) :=
  match v with
  | .array items =>
    if items.length ≤ names.length then
      some (items.map some ++ List.replicate (names.length - items.length) none)
    else none
  | v => do
    let members ← v.members?
    names.mapM fun name => onlyValue? members name

/-- Reads a field that has a default when it is absent. -/
def field? {α : Type} (read? : Value → Option α) (default : α) : Option Value → Option α
  | none => some default
  | some v => read? v

end Value

end FeedNode.Json
