import FeedNode.Delivery.Queue
import FeedNode.Stream.Frame

/-!
# Lines

A line is the outgoing half of a connection. Frames wait on it in the order in which they were
handed over, and its writer puts them on the stream one at a time; the receipt of a frame comes when
its write ended. The frames for a peer go to the line that was registered last under its name. A
peer without such a line, or with one whose writer failed, is offline.
-/

namespace FeedNode.Stream

open Delivery (Carrier Origin Peer Queues)

/-- A frame that waits for the writer. -/
structure Waiting where
  frame : Bytes
  origin : Origin
deriving DecidableEq, Repr

/-- The outgoing half of a connection. -/
structure Line where
  peer : Peer
  waiting : List Waiting
  /-- The octets written so far. -/
  output : Bytes
  /-- A write failed; no frame is taken any more. -/
  isBroken : Bool
deriving DecidableEq, Repr

/-- All lines that ever were, each under its number. -/
structure Lines where
  lines : Dict Nat Line
  /-- The line that a peer's frames go to. -/
  registered : Dict Peer Nat
  nextLine : Nat
deriving Repr

namespace Lines

/-- No line at all. -/
def empty : Lines where
  lines := .empty
  registered := .empty
  nextLine := 0

/-- The number of peers that have a line. -/
def size (c : Lines) : Nat :=
  c.registered.size

/-- Changes a line. -/
def put (c : Lines) (id : Nat) (line : Line) : Lines :=
  { c with lines := c.lines.insert id line }

/-- The line that takes a peer's frames, and its number. -/
def open? (c : Lines) (peer : Peer) : Option (Nat × Line) :=
  match c.registered.get? peer with
  | none => none
  | some id =>
    match c.lines.get? id with
    | none => none
    | some line => if line.isBroken then none else some (id, line)

/-- Registers a new line for a peer, in the place of an earlier one. Gives its number. -/
def connect (c : Lines) (peer : Peer) : Nat × Lines :=
  (c.nextLine,
    { lines := c.lines.insert c.nextLine { peer, waiting := [], output := [], isBroken := false }
      registered := c.registered.insert peer c.nextLine
      nextLine := c.nextLine + 1 })

/-- Takes a peer off the register. What waits on its line is still written. -/
def disconnect (c : Lines) (peer : Peer) : Lines :=
  { c with registered := c.registered.erase peer }

instance : Carrier Lines where
  send c peer frame origin :=
    match c.open? peer with
    | none => (c, some .offline)
    | some (id, line) =>
      let w : Waiting := { frame, origin }
      (c.put id { line with waiting := line.waiting ++ [w] }, none)

end Lines

/-- What became of writing a frame. -/
inductive Write where
  | whole
  /-- The write failed after some octets. If the frame has no more than these, all of it was written
  and bringing it out failed. -/
  | failed (octets : Nat)
deriving DecidableEq, Repr

/-- The write of a frame whose length has no room in four octets fails before it starts. -/
def Write.of (w : Write) (x : Bytes) : Write :=
  if x.length < UInt32.size then w else .failed 0

/-- A write failed on a line: all that still waits on it is refused. -/
def breakLine (d : Queues Lines) (id : Nat) : Queues Lines :=
  match d.carrier.lines.get? id with
  | none => d
  | some line =>
    line.waiting.foldl (fun d x => d.onReceipt line.peer x.origin .offline)
      { d with carrier := d.carrier.put id { line with waiting := [], isBroken := true } }

/-- The writer of a line writes the frame that has waited longest. -/
def writeNext (d : Queues Lines) (id : Nat) (w : Write) : Queues Lines :=
  match d.carrier.lines.get? id with
  | none => d
  | some line =>
    match line.waiting with
    | [] => d
    | x :: waiting =>
      match w.of x.frame with
      | .whole =>
        let line := { line with waiting, output := line.output ++ frame x.frame }
        { d with carrier := d.carrier.put id line }.onReceipt line.peer x.origin .delivered
      | .failed octets =>
        let line := { line with waiting, output := line.output ++ (frame x.frame).take octets }
        breakLine ({ d with carrier := d.carrier.put id line }.onReceipt line.peer x.origin .failed)
          id

/-- The frames that a line's writer may still get before its peer has to send again. -/
def outstanding (d : Queues Lines) (id : Nat) : Nat :=
  match d.carrier.lines.get? id with
  | none => 0
  | some line => line.waiting.length + d.pending line.peer

/-- The writer of a line writes `count` frames, or all there are. -/
def writeMany (d : Queues Lines) (id : Nat) : (count : Nat) → Queues Lines
  | 0 => d
  | count + 1 => writeMany (writeNext d id .whole) id count

/-- The writers of all lines write until nothing waits. -/
def writeAll (d : Queues Lines) : Queues Lines :=
  d.carrier.lines.keys.foldl (fun d id => writeMany d id (outstanding d id)) d

end FeedNode.Stream
