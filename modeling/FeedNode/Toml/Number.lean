import FeedNode.Text.Digits
import FeedNode.Toml.Value

/-!
# Numbers and dates of TOML

Integers in four bases, numbers with a fraction or an exponent, and dates and times. An underscore
may stand between two digits. Every reading function gives what was read and the characters that
follow.
-/

namespace FeedNode.Toml

/-! ## Digits -/

/-- Digits of a base that continue a number, each one or an underscore and one. -/
def readMoreDigits? (base : Nat) : List Char → Option (List Char × List Char)
  | [] => some ([], [])
  | c :: s =>
    if Text.isDigit base c then
      (readMoreDigits? base s).map fun (digits, s) => (c :: digits, s)
    else if c == '_' then
      match s with
      | [] => none
      | d :: s =>
        if Text.isDigit base d then
          (readMoreDigits? base s).map fun (digits, s) => (d :: digits, s)
        else none
    else some ([], c :: s)

/-- Digits of a base, of which there must be one. The underscores are left out. -/
def readDigits? (base : Nat) : List Char → Option (List Char × List Char)
  | [] => none
  | c :: s =>
    if Text.isDigit base c then
      (readMoreDigits? base s).map fun (digits, s) => (c :: digits, s)
    else none

/-- Decimal digits of which the first is no zero, unless it is the only one. -/
def readWhole? : List Char → Option (List Char × List Char)
  | '0' :: s => some (['0'], s)
  | s => readDigits? 10 s

/-- A sign, if there is one: whether it is a minus. -/
def readSign : List Char → Bool × List Char
  | '+' :: s => (false, s)
  | '-' :: s => (true, s)
  | s => (false, s)

/-! ## Integers -/

/-- An integer that fits 64 bits in two's complement. -/
def integer64? (n : Int) : Option Value :=
  if Int64.minValue.toInt ≤ n ∧ n ≤ Int64.maxValue.toInt then some (.integer n) else none

/-- An integer in a base, after the letter that names the base. -/
def readBased? (base : Nat) (s : List Char) : Option (Value × List Char) := do
  let (digits, s) ← readDigits? base s
  let n ← Text.number? base digits
  let v ← integer64? n
  return (v, s)

/-- An integer. -/
def readInteger? (s : List Char) : Option (Value × List Char) :=
  match s with
  | '0' :: 'x' :: s => readBased? 16 s
  | '0' :: 'o' :: s => readBased? 8 s
  | '0' :: 'b' :: s => readBased? 2 s
  | s => do
    let (negative, s) := readSign s
    let (digits, s) ← readWhole? s
    let n ← Text.number? 10 digits
    let v ← integer64? (if negative then -n else n)
    return (v, s)

/-! ## Numbers with a fraction or an exponent -/

/-- The text that was read when `rest` follows. -/
def spelling (s rest : List Char) : String :=
  String.ofList (s.take (s.length - rest.length))

/-- The least number that is rounded to infinity in 64 bits. -/
def floatBound : Nat := (1 <<< 1024) - (1 <<< 970)

/-- The number `mantissa * 10 ^ scale`, of whose mantissa the digits are given, is too great for a
64-bit number. -/
def isTooGreat (digits : List Char) (scale : Int) : Bool :=
  let digits := digits.dropWhile (· == '0')
  let magnitude := (digits.length : Int) + scale
  if digits.isEmpty || decide (magnitude < 309) then false
  else if 309 < magnitude then true
  else
    let mantissa := (Text.number? 10 digits).getD 0
    decide (floatBound * Nat.pow 10 (-scale).toNat ≤ mantissa * Nat.pow 10 scale.toNat)

/-- A fraction after its point, if there is one. -/
def readFraction? : List Char → Option (List Char × List Char)
  | '.' :: s => readDigits? 10 s
  | s => some ([], s)

/-- An exponent after its letter, if there is one. -/
def readExponent? : List Char → Option (Int × List Char)
  | c :: s =>
    if c == 'e' || c == 'E' then do
      let (negative, s) := readSign s
      let (digits, s) ← readDigits? 10 s
      let n ← Text.number? 10 digits
      return (if negative then -n else n, s)
    else some (0, c :: s)
  | [] => some (0, [])

/-- The rest of the text after a word that it starts with. -/
def afterWord? (word : String) (s : List Char) : Option (List Char) :=
  if word.toList.isPrefixOf s then some (s.drop word.length) else none

/-- A number with a fraction or an exponent, an infinity, or no number. -/
def readFloat? (s : List Char) : Option (Value × List Char) :=
  let (negative, t) := readSign s
  match (afterWord? "inf" t).or (afterWord? "nan" t) with
  | some rest => some (.float (spelling s rest), rest)
  | none => do
    let (whole, t) ← readWhole? t
    let (fraction, u) ← readFraction? t
    let (exponent, rest) ← readExponent? u
    if rest.length = t.length then none
    else if !negative && isTooGreat (whole ++ fraction) (exponent - fraction.length) then none
    else return (.float (spelling s rest), rest)

/-! ## Dates and times -/

/-- A number of exactly so many digits, within bounds. -/
def readField? (digits low high : Nat) (s : List Char) : Option (Nat × List Char) := do
  if s.length < digits then none
  else
    let n ← Text.number? 10 (s.take digits)
    if low ≤ n ∧ n ≤ high then some (n, s.drop digits) else none

/-- The rest of the text after a character that it starts with. -/
def after? (c : Char) : List Char → Option (List Char)
  | d :: s => if d = c then some s else none
  | [] => none

/-- The number of days in a month. -/
def daysIn (year month : Nat) : Nat :=
  if month = 2 then
    if year % 4 = 0 ∧ (year % 100 ≠ 0 ∨ year % 400 = 0) then 29 else 28
  else if month = 4 ∨ month = 6 ∨ month = 9 ∨ month = 11 then 30
  else 31

/-- The characters after a date. -/
def afterDate? (s : List Char) : Option (List Char) := do
  let (year, s) ← readField? 4 0 9999 s
  let s ← after? '-' s
  let (month, s) ← readField? 2 1 12 s
  let s ← after? '-' s
  let (_, s) ← readField? 2 1 (daysIn year month) s
  return s

/-- The characters after a time of day, which may have a fraction of a second. -/
def afterTime? (s : List Char) : Option (List Char) := do
  let (_, s) ← readField? 2 0 23 s
  let s ← after? ':' s
  let (_, s) ← readField? 2 0 59 s
  let s ← after? ':' s
  let (_, s) ← readField? 2 0 60 s
  match s with
  | '.' :: d :: t =>
    return if Text.isDigit 10 d then t.dropWhile (Text.isDigit 10) else s
  | s => return s

/-- The characters after a distance to universal time. -/
def afterOffset? : List Char → Option (List Char)
  | [] => none
  | c :: s =>
    if c == 'Z' || c == 'z' then some s
    else if c == '+' || c == '-' then do
      let (_, s) ← readField? 2 0 23 s
      let s ← after? ':' s
      let (_, s) ← readField? 2 0 59 s
      return s
    else none

/-- The characters after the time that follows a date, if one follows. -/
def afterTimeOfDate (s : List Char) : List Char :=
  match s with
  | [] => []
  | c :: t =>
    if c == 'T' || c == 't' || c == ' ' then
      match afterTime? t with
      | none => s
      | some t => (afterOffset? t).getD t
    else s

/-- A date, a time, or both. -/
def readDateTime? (s : List Char) : Option (Value × List Char) :=
  ((afterDate? s).map afterTimeOfDate).or (afterTime? s) |>.map fun rest =>
    (.dateTime (spelling s rest), rest)

/-- A date or a number. -/
def readNumber? (s : List Char) : Option (Value × List Char) :=
  (readDateTime? s).or ((readFloat? s).or (readInteger? s))

end FeedNode.Toml
