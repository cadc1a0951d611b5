import FeedNode.Dict
import FeedNode.Toml.Value

/-!
# Tables under construction

A document says in many places what is in its tables: under headers, by dotted keys, in arrays of
tables. What may be added where depends on how a table came to be, its standing. A table that has
had its header gets no second one and is not extended by dotted keys; a dotted key only adds to
tables that dotted keys made, or that so far were only passed on the way to a header. A value that
is written as a whole, inline tables among them, is closed.
-/

namespace FeedNode.Toml

/-- How a table came to be. -/
inductive Standing where
  /-- By a header of its own. -/
  | opened
  /-- On the way to the header of a table in it. -/
  | implied
  /-- By a dotted key. -/
  | dotted
deriving DecidableEq, Repr

/-- What is under a key. -/
inductive Node where
  | value (v : Value)
  | table (standing : Standing) (entries : List (String × Node))
  /-- An array of tables, each opened by a header. -/
  | tables (items : List (List (String × Node)))

/-- A key with the keys of the tables that it lies in. -/
structure Key where
  path : List String
  name : String
deriving DecidableEq, Repr

/-- The key of some parts, of which there must be one. -/
def Key.ofParts? (parts : List String) : Option Key :=
  parts.getLast?.map fun name => { path := parts.dropLast, name }

/-- A table that is not finished. -/
structure Draft where
  standing : Standing
  entries : List (String × Node)

namespace Draft

/-- A document, or an inline table, with nothing in it. -/
def empty : Draft where
  standing := .opened
  entries := []

/-- What is under a key. -/
def find? (t : Draft) (name : String) : Option Node :=
  Dict.find? name t.entries

/-- Puts something under a key. -/
def put (t : Draft) (name : String) (n : Node) : Draft :=
  { t with entries := Dict.put name n t.entries }

/-- Changes the table at the end of a path. Tables that are missing on the way get the standing
`made`; of an array of tables, the last one is on the way. -/
def update? (made : Standing) (f : Draft → Option Draft) :
    (path : List String) → Draft → Option Draft
  | [], t => f t
  | name :: path, t =>
    match t.find? name with
    | none => do
      let inner ← update? made f path { standing := made, entries := [] }
      return t.put name (.table inner.standing inner.entries)
    | some (.value _) => none
    | some (.table standing entries) =>
      -- a dotted key does not reach into a table that has a header
      if made = .dotted ∧ standing = .opened then none
      else do
        let inner ← update? made f path { standing, entries }
        return t.put name (.table inner.standing inner.entries)
    | some (.tables items) => do
      let last ← items.getLast?
      let inner ← update? made f path { standing := .opened, entries := last }
      return t.put name (.tables (items.dropLast ++ [inner.entries]))

/-- Gives a key a value. The table that gets it is the one at hand or one that dotted keys made. -/
def add? (key : Key) (v : Value) (t : Draft) : Option Draft :=
  let add (inner : Draft) : Option Draft :=
    -- a key without a path goes to the table at hand, one with a path to a table of its own kind
    if (inner.standing == .dotted) == key.path.isEmpty then none
    else
      match inner.find? key.name with
      | some _ => none
      | none => some (inner.put key.name (.value v))
  update? .dotted add key.path t

/-- Opens the table of a header. -/
def openTable? (key : Key) (t : Draft) : Option Draft :=
  let opened (inner : Draft) : Option Draft :=
    match inner.find? key.name with
    | none => some (inner.put key.name (.table .opened []))
    | some (.table .implied entries) => some (inner.put key.name (.table .opened entries))
    | some _ => none
  update? .implied opened key.path t

/-- Opens the next table of an array of tables. -/
def openNext? (key : Key) (t : Draft) : Option Draft :=
  let opened (inner : Draft) : Option Draft :=
    match inner.find? key.name with
    | none => some (inner.put key.name (.tables [[]]))
    | some (.tables items) => some (inner.put key.name (.tables (items ++ [[]])))
    | some _ => none
  update? .implied opened key.path t

mutual

/-- The value that is under a key in the end. -/
def valueOf : Node → Value
  | .value v => v
  | .table _ entries => .table (entriesOf entries)
  | .tables items => .array (itemsOf items)

/-- The entries of a table in the end. -/
def entriesOf : List (String × Node) → List (String × Value)
  | [] => []
  | (name, n) :: entries => (name, valueOf n) :: entriesOf entries

/-- The tables of an array in the end. -/
def itemsOf : List (List (String × Node)) → List Value
  | [] => []
  | entries :: items => .table (entriesOf entries) :: itemsOf items

end

/-- The table as a value. -/
def value (t : Draft) : Value :=
  .table (entriesOf t.entries)

/-- The inline table of some keys and values. -/
def inline? (pairs : List (Key × Value)) : Option Value :=
  (pairs.foldlM (fun (t : Draft) (key, v) => t.add? key v) empty).map value

end Draft

/-- What a line of a document says. -/
inductive Line where
  | blank
  | entry (key : Key) (v : Value)
  | header (key : Key)
  | nextHeader (key : Key)
deriving Repr

/-- A document under construction: what it says so far, and the way to the table that was opened
last. -/
structure Document where
  root : Draft
  opened : List String

namespace Document

/-- The document without lines. -/
def empty : Document where
  root := .empty
  opened := []

/-- Adds what a line says. -/
def add? (d : Document) : Line → Option Document
  | .blank => some d
  | .entry key v => do
    let root ← d.root.update? .implied (Draft.add? key v) d.opened
    return { d with root }
  | .header key => do
    let root ← d.root.openTable? key
    return { root, opened := key.path ++ [key.name] }
  | .nextHeader key => do
    let root ← d.root.openNext? key
    return { root, opened := key.path ++ [key.name] }

/-- The value of a document with some lines. -/
def value? (lines : List Line) : Option Value :=
  (lines.foldlM Document.add? empty).map fun d => d.root.value

end Document

end FeedNode.Toml
