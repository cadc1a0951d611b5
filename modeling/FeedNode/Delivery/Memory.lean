import FeedNode.Delivery.Carrier

/-!
# The carrier in memory

It records every frame. In automatic mode each frame is confirmed as soon as it is recorded; in
manual mode the receipts are held, for each peer in the order of its frames, until they are fired.
Frames to a peer that is marked offline are refused and not recorded.
-/

namespace FeedNode.Delivery

/-- A frame whose receipt is still to come. -/
structure Held where
  peer : Peer
  frame : Bytes
  origin : Origin
deriving DecidableEq, Repr

/-- Frames recorded in memory. -/
structure Memory where
  automatic : Bool
  offline : List Peer
  /-- Every recorded frame, in the order of sending. -/
  sent : List (Peer × Bytes)
  held : List Held
deriving Repr

namespace Memory

/-- A carrier that has seen no frame. -/
def new (automatic : Bool) : Memory where
  automatic := automatic
  offline := []
  sent := []
  held := []

instance : Carrier Memory where
  send m peer frame origin :=
    if m.offline.contains peer then (m, some .offline)
    else
      let m := { m with sent := m.sent ++ [(peer, frame)] }
      if m.automatic then (m, some .delivered)
      else
        let h : Held := { peer, frame, origin }
        ({ m with held := m.held ++ [h] }, none)

/-- Refuses all further frames to a peer. -/
def setOffline (m : Memory) (peer : Peer) : Memory :=
  { m with offline := m.offline ++ [peer] }

/-- The number of receipts that a peer still owes. -/
def owed (m : Memory) (peer : Peer) : Nat :=
  (m.held.filter fun h => h.peer == peer).length

/-- The number of frames ever recorded for a peer. -/
def countSent (m : Memory) (peer : Peer) : Nat :=
  (m.sent.filter fun (p, _) => p == peer).length

/-- The oldest frame of a peer whose receipt is still to come, and the carrier without it. -/
def takeHeld? (m : Memory) (peer : Peer) : Option (Held × Memory) :=
  (m.held.find? fun h => h.peer == peer).map fun h =>
    (h, { m with held := m.held.eraseP fun h => h.peer == peer })

end Memory

end FeedNode.Delivery
