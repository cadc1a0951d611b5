import FeedNode.Toml.Number
import FeedNode.Toml.Table
import FeedNode.Toml.Text

/-!
# Reading TOML

A document is read line by line; the lines are put together by `Document.value?`. Every reading
function gives what was read and the characters that follow.
-/

namespace FeedNode.Toml

/-- The number of arrays and inline tables that a value may lie in, itself included. -/
def maxLevels : Nat := 79

/-- The number of parts that a key may have. -/
def maxParts : Nat := 79

/-- The character may stand in a key without quotes. -/
def isKeyChar (c : Char) : Bool :=
  c.isAlphanum || c == '_' || c == '-'

/-- A part of a key. -/
def readPart? : List Char → Option (String × List Char)
  | '"' :: s => (readBasic? s).map fun (text, s) => (String.ofList text, s)
  | '\'' :: s => (readLiteral? s).map fun (text, s) => (String.ofList text, s)
  | s =>
    let part := s.takeWhile isKeyChar
    if part.isEmpty then none else some (String.ofList part, s.dropWhile isKeyChar)

/-- The parts of a key, at most so many, with blanks around each. -/
def readParts? : (limit : Nat) → List Char → Option (List String × List Char)
  | 0, _ => none
  | limit + 1, s => do
    let (part, s) ← readPart? (skipBlanks s)
    match skipBlanks s with
    | '.' :: s =>
      let (parts, s) ← readParts? limit s
      return (part :: parts, s)
    | s => return ([part], s)

/-- A key. -/
def readKey? (s : List Char) : Option (Key × List Char) := do
  let (parts, s) ← readParts? maxParts s
  let key ← Key.ofParts? parts
  return (key, s)

/-- A key and the sign and the blanks before its value. -/
def readKeyOf? (s : List Char) : Option (Key × List Char) := do
  let (key, s) ← readKey? s
  let s ← after? '=' s
  return (key, skipBlanks s)

mutual

/-- A value, with so many levels of arrays and inline tables at most. Every call of one of these
functions by another takes one step off the given number, which is enough when it exceeds the number
of characters. -/
def readValue? : (steps levels : Nat) → List Char → Option (Value × List Char)
  | 0, _, _ => none
  | steps + 1, levels, s =>
    match s with
    | '[' :: s =>
      match levels with
      | 0 => none
      | levels + 1 => (readItems? steps levels s).map fun (items, s) => (.array items, s)
    | '\x7b' :: s =>
      match levels with
      | 0 => none
      | levels + 1 =>
        match skipBlanks s with
        | '\x7d' :: s => some (.table [], s)
        | s => do
          let (pairs, s) ← readPairs? steps levels s
          let v ← Draft.inline? pairs
          return (v, s)
    | 't' :: s => (afterWord? "rue" s).map fun s => (.bool true, s)
    | 'f' :: s => (afterWord? "alse" s).map fun s => (.bool false, s)
    | s =>
      match readString? s with
      | some (text, s) => some (.string text, s)
      | none => readNumber? s

/-- The items of an array, up to the closing bracket. A comma may follow the last one. -/
def readItems? : (steps levels : Nat) → List Char → Option (List Value × List Char)
  | 0, _, _ => none
  | steps + 1, levels, s =>
    match skipTrivia false s with
    | ']' :: s => some ([], s)
    | s => do
      let (v, s) ← readValue? steps levels s
      match skipTrivia false s with
      | ',' :: s =>
        let (items, s) ← readItems? steps levels s
        return (v :: items, s)
      | ']' :: s => return ([v], s)
      | _ => none

/-- The keys and values of an inline table, of which there is one at least, up to the closing
brace. -/
def readPairs? : (steps levels : Nat) → List Char → Option (List (Key × Value) × List Char)
  | 0, _, _ => none
  | steps + 1, levels, s => do
    let (key, s) ← readKeyOf? s
    let (v, s) ← readValue? steps levels s
    match skipBlanks s with
    | ',' :: s =>
      let (pairs, s) ← readPairs? steps levels s
      return ((key, v) :: pairs, s)
    | '\x7d' :: s => return ([(key, v)], s)
    | _ => none

end

/-- A line of a document, with its end. -/
def readLine? (s : List Char) : Option (Line × List Char) :=
  match endLine? s with
  | some s => some (.blank, s)
  | none =>
    match skipBlanks s with
    | '[' :: '[' :: s => do
      let (key, s) ← readKey? s
      let s ← after? ']' s
      let s ← after? ']' s
      let s ← endLine? s
      return (.nextHeader key, s)
    | '[' :: s => do
      let (key, s) ← readKey? s
      let s ← after? ']' s
      let s ← endLine? s
      return (.header key, s)
    | s => do
      let (key, s) ← readKeyOf? s
      let (v, s) ← readValue? (s.length + 1) maxLevels s
      let s ← endLine? s
      return (.entry key v, s)

/-- The lines of a document. A line takes one step at least; `steps` must exceed the number of
characters. -/
def readLines? : (steps : Nat) → List Char → Option (List Line)
  | 0, _ => none
  | _, [] => some []
  | steps + 1, s => do
    let (line, s) ← readLine? s
    let lines ← readLines? steps s
    return line :: lines

/-- The table that a document writes. A byte order mark may stand before it. -/
def parse? (text : String) : Option Value := do
  let s := match text.toList with
    | '\ufeff' :: s => s
    | s => s
  let lines ← readLines? (s.length + 1) s
  Document.value? lines

end FeedNode.Toml
