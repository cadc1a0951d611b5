import FeedNode.Text.Digits

/-!
# Characters and strings of TOML

The blanks, line ends and comments between the parts of a document, and its four kinds of strings:
basic strings, which have escapes, and literal ones, which have not, each on one line or on several.
Every reading function takes what follows the opening quotes and gives what was read and the
characters that follow.
-/

namespace FeedNode.Toml

/-! ## Between the parts -/

/-- The character is a space or a tab. -/
def isBlank (c : Char) : Bool :=
  c == ' ' || c == '\t'

/-- The character may stand in a comment or a string: it is no control character, save the tab. -/
def isPlain (c : Char) : Bool :=
  c == '\t' || (decide (0x20 ≤ c.toNat) && c.toNat != 0x7f)

/-- The characters after leading blanks. -/
def skipBlanks (s : List Char) : List Char :=
  s.dropWhile isBlank

/-- The characters after a line end. -/
def newline? : List Char → Option (List Char)
  | '\n' :: s => some s
  | '\r' :: '\n' :: s => some s
  | _ => none

/-- The characters after the end of a line, before which there may be blanks and a comment. -/
def endLine? (s : List Char) : Option (List Char) :=
  let s := match skipBlanks s with
    | '#' :: s => s.dropWhile isPlain
    | s => s
  if s.isEmpty then some [] else newline? s

/-- The characters after blanks, line ends and comments. -/
def skipTrivia (inComment : Bool) : List Char → List Char
  | [] => []
  | '\r' :: '\n' :: s => skipTrivia false s
  | c :: s =>
    if c == '\n' then skipTrivia false s
    else if inComment then if isPlain c then skipTrivia true s else c :: s
    else if c == '#' then skipTrivia true s
    else if isBlank c then skipTrivia false s
    else c :: s

/-! ## Escapes -/

/-- The character that a one-letter escape stands for. -/
def escaped? : Char → Option Char
  | 'b' => some '\x08'
  | 't' => some '\t'
  | 'n' => some '\n'
  | 'f' => some '\x0c'
  | 'r' => some '\r'
  | '"' => some '"'
  | '\\' => some '\\'
  | _ => none

/-- The character whose number is written with so many hexadecimal digits. -/
def readNumbered? (digits : Nat) (s : List Char) : Option (Char × List Char) := do
  if s.length < digits then none
  else
    let n ← Text.number? 16 (s.take digits)
    if n.isValidChar then some (Char.ofNat n, s.drop digits) else none

/-- The character that an escape stands for, after its backslash. -/
def readEscape? : List Char → Option (Char × List Char)
  | [] => none
  | 'u' :: s => readNumbered? 4 s
  | 'U' :: s => readNumbered? 8 s
  | c :: s => (escaped? c).map fun x => (x, s)

/-- The characters after leading blanks and line ends. -/
def skipLines : List Char → List Char
  | [] => []
  | '\r' :: '\n' :: s => skipLines s
  | c :: s => if isBlank c || c == '\n' then skipLines s else c :: s

/-- The characters after a line end that a backslash hides, with the blanks around it. -/
def hiddenLineEnd? (s : List Char) : Option (List Char) :=
  (newline? (skipBlanks s)).map skipLines

/-- A numbered character takes its digits from the text. -/
theorem length_readNumbered {digits : Nat} {s rest : List Char} {c : Char}
    (h : readNumbered? digits s = some (c, rest)) : rest.length ≤ s.length := by
  simp only [readNumbered?] at h
  split at h
  · simp at h
  · -- the number is one of a character
    simp only [Option.bind_eq_bind, Option.bind_eq_some_iff] at h
    obtain ⟨n, _, h⟩ := h
    split at h
    · simp only [Option.some.injEq, Prod.mk.injEq] at h
      simp [← h.2]
    · simp at h

/-- An escape takes at least one character from the text. -/
theorem length_readEscape {s rest : List Char} {c : Char}
    (h : readEscape? s = some (c, rest)) : rest.length < s.length := by
  unfold readEscape? at h
  split at h
  · -- nothing follows the backslash
    simp at h
  · -- four digits
    have := length_readNumbered h
    simp only [List.length_cons]
    omega
  · -- eight digits
    have := length_readNumbered h
    simp only [List.length_cons]
    omega
  · -- a character with a name of its own
    simp only [Option.map_eq_some_iff, Prod.mk.injEq] at h
    obtain ⟨_, _, _, rfl⟩ := h
    simp

/-- A line end takes nothing from the text but itself. -/
theorem length_newline {s rest : List Char} (h : newline? s = some rest) :
    rest.length ≤ s.length := by
  unfold newline? at h
  split at h
  · -- a line feed alone
    obtain rfl := Option.some.inj h
    simp
  · -- a carriage return before it
    obtain rfl := Option.some.inj h
    simp only [List.length_cons]
    omega
  · cases h

/-- What is left of a text without its leading lines is no longer than the text. -/
theorem length_skipLines (s : List Char) : (skipLines s).length ≤ s.length := by
  fun_induction skipLines s with
  | case1 => simp
  | case2 s ih => simp only [List.length_cons]; omega
  | case3 c s _ _ ih => simp only [List.length_cons]; omega
  | case4 => simp

/-- A hidden line end leaves no more than the text that it stood in. -/
theorem length_hiddenLineEnd {s rest : List Char} (h : hiddenLineEnd? s = some rest) :
    rest.length ≤ s.length := by
  simp only [hiddenLineEnd?, Option.map_eq_some_iff] at h
  obtain ⟨t, ht, rfl⟩ := h
  have h₁ := length_newline ht
  have h₂ := length_skipLines t
  have h₃ := (List.dropWhile_suffix (l := s) isBlank).length_le
  simp only [skipBlanks] at h₁
  omega

/-! ## Strings -/

/-- What was read, with one more character before it. -/
def withFirst (c : Char) (r : Option (List Char × List Char)) : Option (List Char × List Char) :=
  r.map fun (text, s) => (c :: text, s)

/-- A basic string on one line. -/
def readBasic? (s : List Char) : Option (List Char × List Char) :=
  match s with
  | [] => none
  | '"' :: s => some ([], s)
  | '\\' :: s =>
    match _h : readEscape? s with
    | none => none
    | some (c, rest) => withFirst c (readBasic? rest)
  | c :: s => if isPlain c then withFirst c (readBasic? s) else none
termination_by s.length
decreasing_by
  · have := length_readEscape _h
    simp only [List.length_cons]
    omega
  · simp

/-- A literal string on one line. -/
def readLiteral? : List Char → Option (List Char × List Char)
  | [] => none
  | '\'' :: s => some ([], s)
  | c :: s => if isPlain c then withFirst c (readLiteral? s) else none

/-- The quotes, two at most, that still belong to a string although three closing ones were read. -/
def lastQuotes (quote : Char) : List Char → List Char × List Char
  | a :: b :: s =>
    if a = quote then if b = quote then ([a, b], s) else ([a], b :: s) else ([], a :: b :: s)
  | [a] => if a = quote then ([a], []) else ([], [a])
  | [] => ([], [])

/-- A basic string on several lines. -/
def readLongBasic? (s : List Char) : Option (List Char × List Char) :=
  match s with
  | [] => none
  | '"' :: '"' :: '"' :: s => some (lastQuotes '"' s)
  | '\r' :: '\n' :: s => withFirst '\n' (readLongBasic? s)
  | '\\' :: s =>
    match _h : hiddenLineEnd? s with
    | some rest => readLongBasic? rest
    | none =>
      match _h' : readEscape? s with
      | none => none
      | some (c, rest) => withFirst c (readLongBasic? rest)
  | c :: s => if isPlain c || c == '\n' then withFirst c (readLongBasic? s) else none
termination_by s.length
decreasing_by
  · simp only [List.length_cons]
    omega
  · have := length_hiddenLineEnd _h
    simp only [List.length_cons]
    omega
  · have := length_readEscape _h'
    simp only [List.length_cons]
    omega
  · simp

/-- A literal string on several lines. -/
def readLongLiteral? : List Char → Option (List Char × List Char)
  | [] => none
  | '\'' :: '\'' :: '\'' :: s => some (lastQuotes '\'' s)
  | '\r' :: '\n' :: s => withFirst '\n' (readLongLiteral? s)
  | c :: s => if isPlain c || c == '\n' then withFirst c (readLongLiteral? s) else none

/-- The characters after a line end, if there is one at the front. -/
def dropNewline (s : List Char) : List Char :=
  (newline? s).getD s

/-- A string of any kind, with its opening quotes. -/
def readString? : List Char → Option (String × List Char)
  | '"' :: '"' :: '"' :: s =>
    (readLongBasic? (dropNewline s)).map fun (text, s) => (String.ofList text, s)
  | '"' :: s => (readBasic? s).map fun (text, s) => (String.ofList text, s)
  | '\'' :: '\'' :: '\'' :: s =>
    (readLongLiteral? (dropNewline s)).map fun (text, s) => (String.ofList text, s)
  | '\'' :: s => (readLiteral? s).map fun (text, s) => (String.ofList text, s)
  | _ => none

end FeedNode.Toml
