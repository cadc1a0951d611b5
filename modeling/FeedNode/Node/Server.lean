import FeedNode.Node.Node
import FeedNode.Stream.Line

/-!
# The server

A node behind connections. What a connection brings is cut into frames, which are handed to the node
one after the other; a frame that is too long ends the connection, like the end of its stream does.
Then the peer is off the register, and the node is told that it is offline.
-/

namespace FeedNode.Node

open Delivery (Peer)
open FeedNode.Stream (FrameReader Lines)

/-- A node and the connections to it, each under the number of its line. -/
structure Server where
  node : Node Lines
  /-- The readers of the connections whose peers may still send. -/
  readers : Dict Nat FrameReader
  /-- The length of the longest frame that is taken. -/
  limit : Nat

namespace Server

/-- A server that no peer is connected to. -/
def new (services : Services) (limit : Nat) : Server where
  node := { services, delivery := .new .empty }
  readers := .empty
  limit := limit

/-- The lines of the connections. -/
def lines (s : Server) : Lines :=
  s.node.delivery.carrier

/-- The lines changed. -/
def withLines (s : Server) (c : Lines) : Server :=
  { s with node := { s.node with delivery := { s.node.delivery with carrier := c } } }

/-- What was written to a connection. -/
def output (s : Server) (id : Nat) : Bytes :=
  ((s.lines.lines.get? id).map fun line => line.output).getD []

/-- The peer of a connection may still send. -/
def isOpen (s : Server) (id : Nat) : Bool :=
  s.readers.contains id

/-- A peer connects. Gives the number of the connection. -/
def connect (s : Server) (peer : Peer) : Nat × Server :=
  let (id, c) := s.lines.connect peer
  let s := s.withLines c
  (id, { s with readers := s.readers.insert id (.new s.limit) })

/-- Writes everything that waits to be written. -/
def settle (s : Server) : Server :=
  { s with node := { s.node with delivery := Stream.writeAll s.node.delivery } }

/-- The node takes a frame of a peer. -/
def take (peer : Peer) (s : Server) (frame : Bytes) : Server :=
  settle { s with node := s.node.receive peer frame }

/-- A connection ended. -/
def disconnect (s : Server) (id : Nat) : Server :=
  match s.lines.lines.get? id with
  | none => s
  | some line =>
    if s.isOpen id then
      let s := s.withLines (s.lines.disconnect line.peer)
      settle { s with node := s.node.peerOffline line.peer, readers := s.readers.erase id }
    else s

/-- A connection brings a piece of its stream. -/
def receive (s : Server) (id : Nat) (piece : Bytes) : Server :=
  match s.readers.get? id, s.lines.lines.get? id with
  | some reader, some line =>
    let (frames, rest) := reader.feed piece
    let s := frames.foldl (take line.peer) s
    match rest with
    | .error _ => s.disconnect id
    | .ok reader => { s with readers := s.readers.insert id reader }
  | _, _ => s

end Server

end FeedNode.Node
