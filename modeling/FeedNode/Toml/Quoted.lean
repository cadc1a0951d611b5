/-!
# Quoted strings

A text is quoted in the first of these ways that needs no escapes and keeps its lines: as a basic
string, as a literal one, as a basic one on several lines, as a literal one on several lines. If
none does, it is written with escapes. A string on several lines starts on a line of its own.
-/

namespace FeedNode.Toml

/-- The length of the longest run of a character in some text. -/
def longestRun (x : Char) (s : List Char) : Nat :=
  let step (acc : Nat × Nat) (c : Char) : Nat × Nat :=
    let run := if c = x then acc.1 + 1 else 0
    (run, max run acc.2)
  (s.foldl step (0, 0)).2

/-- The character can only be written as an escape. -/
def isControl (c : Char) : Bool :=
  (decide (c.toNat < 0x20) && c != '\t' && c != '\n') || c.toNat == 0x7f

/-- A way to write a text. -/
inductive Quoting where
  | basic
  | literal
  | longBasic
  | longLiteral
deriving DecidableEq, Repr

/-- The way in which a text is written. -/
def Quoting.of (s : List Char) : Quoting :=
  let broken := s.contains '\n'
  let coded := s.any isControl
  let slashed := s.contains '\\'
  if !coded && !slashed && !broken && longestRun '"' s == 0 then .basic
  else if !coded && !broken && longestRun '\'' s == 0 then .literal
  else if !coded && !slashed && decide (longestRun '"' s ≤ 2) then .longBasic
  else if !coded && decide (longestRun '\'' s ≤ 2) then .longLiteral
  else if broken then .longBasic
  else .basic

/-- An upper-case hexadecimal digit. -/
def upperHexDigit (n : Nat) : Char :=
  if n < 10 then Char.ofNat ('0'.toNat + n) else Char.ofNat ('A'.toNat + (n - 10))

/-- A character as an escape, if it is not written as it is. -/
def escape? (c : Char) : Option (List Char) :=
  if c = '\x08' then some ['\\', 'b']
  else if c = '\t' then some ['\\', 't']
  else if c = '\n' then some ['\\', 'n']
  else if c = '\x0c' then some ['\\', 'f']
  else if c = '\r' then some ['\\', 'r']
  else if c = '"' then some ['\\', '"']
  else if c = '\\' then some ['\\', '\\']
  else if isControl c then
    some ['\\', 'u', '0', '0', upperHexDigit (c.toNat / 16), upperHexDigit (c.toNat % 16)]
  else none

/-- A text between basic quotes. On several lines, line ends and up to two double quotes in a row
are written as they are; `run` is the number of those that precede. -/
def escapeAll (long : Bool) (run : Nat) : List Char → List Char
  | [] => []
  | c :: s =>
    if long && c == '\n' then c :: escapeAll long 0 s
    else if long && c == '"' && decide (run < 2) then c :: escapeAll long (run + 1) s
    else (escape? c).getD [c] ++ escapeAll long 0 s

/-- A text in quotes. -/
def quoted (text : String) : String :=
  let s := text.toList
  match Quoting.of s with
  | .basic => "\"" ++ String.ofList (escapeAll false 0 s) ++ "\""
  | .literal => "'" ++ text ++ "'"
  | .longBasic => "\"\"\"\n" ++ String.ofList (escapeAll true 0 s) ++ "\"\"\""
  | .longLiteral => "'''\n" ++ text ++ "'''"

end FeedNode.Toml
