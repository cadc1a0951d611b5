import FeedNode.Json.Value
import FeedNode.Text.Digits

/-!
# Reading JSON

The strict grammar: no comments, no trailing commas, no leading zeros, no control characters in
strings, and nothing but blanks after the value. Every part of the grammar is a function from
characters to what was read and the characters that follow.
-/

namespace FeedNode.Json

/-- The characters that may stand between the parts of a value. -/
def isBlank (c : Char) : Bool :=
  c == ' ' || c == '\n' || c == '\t' || c == '\r'

/-- The characters after leading blanks. -/
def skipBlanks (s : List Char) : List Char :=
  s.dropWhile isBlank

/-- A part of a string: a character that stands for itself, or a UTF-16 unit given by its number. -/
inductive Piece where
  | char (c : Char)
  | unit (n : Nat)

/-- The character that a one-letter escape stands for. -/
def escaped? : Char → Option Char
  | '"' => some '"'
  | '\\' => some '\\'
  | '/' => some '/'
  | 'b' => some '\x08'
  | 'f' => some '\x0c'
  | 'n' => some '\n'
  | 'r' => some '\r'
  | 't' => some '\t'
  | _ => none

/-- The pieces of a string whose opening quote was read, up to its closing quote. -/
def readPieces? : List Char → Option (List Piece × List Char)
  | '"' :: s => some ([], s)
  | '\\' :: 'u' :: a :: b :: c :: d :: s => do
    let n ← Text.number? 16 [a, b, c, d]
    let (pieces, s) ← readPieces? s
    return (.unit n :: pieces, s)
  | '\\' :: e :: s => do
    let c ← escaped? e
    let (pieces, s) ← readPieces? s
    return (.char c :: pieces, s)
  | c :: s =>
    if c == '\\' || c.toNat < 0x20 then none
    else do
      let (pieces, s) ← readPieces? s
      return (.char c :: pieces, s)
  | [] => none

/-- The text of some pieces, if every surrogate is one of a pair. -/
def pieceText? : List Piece → Option (List Char)
  | [] => some []
  | .char c :: ps => (pieceText? ps).map (c :: ·)
  | .unit n :: .unit m :: ps =>
    if 0xd800 ≤ n ∧ n ≤ 0xdbff then
      if 0xdc00 ≤ m ∧ m ≤ 0xdfff then
        (pieceText? ps).map (Char.ofNat (0x10000 + (n - 0xd800) * 0x400 + (m - 0xdc00)) :: ·)
      else none
    else if 0xdc00 ≤ n ∧ n ≤ 0xdfff then none
    else (pieceText? (.unit m :: ps)).map (Char.ofNat n :: ·)
  | .unit n :: ps =>
    if 0xd800 ≤ n ∧ n ≤ 0xdfff then none else (pieceText? ps).map (Char.ofNat n :: ·)

/-- A string whose opening quote was read. -/
def readString? (s : List Char) : Option (Option String × List Char) :=
  (readPieces? s).map fun (pieces, s) => ((pieceText? pieces).map String.ofList, s)

/-- The decimal digits at the front, of which there must be one. -/
def readDigits? (s : List Char) : Option (List Char × List Char) :=
  let digits := s.takeWhile Char.isDigit
  if digits.isEmpty then none else some (digits, s.dropWhile Char.isDigit)

/-- A fraction, if a point follows. -/
def readFraction? : List Char → Option (List Char × List Char)
  | '.' :: s => (readDigits? s).map fun (digits, s) => ('.' :: digits, s)
  | s => some ([], s)

/-- An exponent, if its letter follows. -/
def readExponent? : List Char → Option (List Char × List Char)
  | e :: s =>
    if e == 'e' || e == 'E' then
      match s with
      | '+' :: s => (readDigits? s).map fun (digits, s) => (e :: '+' :: digits, s)
      | '-' :: s => (readDigits? s).map fun (digits, s) => (e :: '-' :: digits, s)
      | s => (readDigits? s).map fun (digits, s) => (e :: digits, s)
    else some ([], e :: s)
  | [] => some ([], [])

/-- A number after its sign. -/
def readNumber? (negative : Bool) (s : List Char) : Option (Value × List Char) := do
  let (digits, s) ← readDigits? s
  if digits.head? == some '0' && digits.length != 1 then none
  else
    let (fraction, s) ← readFraction? s
    let (exponent, s) ← readExponent? s
    if fraction.isEmpty && exponent.isEmpty then
      let n ← Text.number? 10 digits
      return (.integer negative n, s)
    else
      let sign := if negative then ['-'] else []
      return (.decimal (String.ofList (sign ++ digits ++ fraction ++ exponent)), s)

/-- The rest of the text after a word that it starts with. -/
def afterWord? (word : String) (s : List Char) : Option (List Char) :=
  if word.toList.isPrefixOf s then some (s.drop word.length) else none

mutual

/-- A value. Every call of one of these functions by another takes one step off the given number,
which is enough when it exceeds the number of characters. -/
def readValue? : (steps : Nat) → List Char → Option (Value × List Char)
  | 0, _ => none
  | steps + 1, s =>
    match skipBlanks s with
    | '"' :: s => (readString? s).map fun (text, s) => (.string text, s)
    | '[' :: s =>
      match skipBlanks s with
      | ']' :: s => some (.array [], s)
      | s => (readItems? steps s).map fun (items, s) => (.array items, s)
    | '\x7b' :: s =>
      match skipBlanks s with
      | '\x7d' :: s => some (.object [], s)
      | s => (readMembers? steps s).map fun (members, s) => (.object members, s)
    | 'n' :: s => (afterWord? "ull" s).map fun s => (.null, s)
    | 't' :: s => (afterWord? "rue" s).map fun s => (.bool true, s)
    | 'f' :: s => (afterWord? "alse" s).map fun s => (.bool false, s)
    | '-' :: s => readNumber? true s
    | s => readNumber? false s

/-- The items of an array, of which there is one at least, up to the closing bracket. -/
def readItems? : (steps : Nat) → List Char → Option (List Value × List Char)
  | 0, _ => none
  | steps + 1, s => do
    let (v, s) ← readValue? steps s
    match skipBlanks s with
    | ',' :: s =>
      let (items, s) ← readItems? steps s
      return (v :: items, s)
    | ']' :: s => return ([v], s)
    | _ => none

/-- The members of an object, of which there is one at least, up to the closing brace. -/
def readMembers? : (steps : Nat) → List Char → Option (List (Option String × Value) × List Char)
  | 0, _ => none
  | steps + 1, s =>
    match skipBlanks s with
    | '"' :: s => do
      let (key, s) ← readString? s
      match skipBlanks s with
      | ':' :: s =>
        let (v, s) ← readValue? steps s
        match skipBlanks s with
        | ',' :: s =>
          let (members, s) ← readMembers? steps s
          return ((key, v) :: members, s)
        | '\x7d' :: s => return ([(key, v)], s)
        | _ => none
      | _ => none
    | _ => none

end

/-- The value that a text writes, if there is nothing else in it. -/
def parse? (text : String) : Option Value :=
  match readValue? (text.length + 1) text.toList with
  | some (v, s) => if (skipBlanks s).isEmpty then some v else none
  | none => none

end FeedNode.Json
