import FeedNode.Bytes

/-!
# Frames

On a stream every message is a frame: its length in four octets, most significant first, and then
the message. A stream may end between two frames, also within the length of the next one, but not
within a message. `readFrames` reads a stream that is there as a whole; a `FrameReader` takes it in
pieces.

Main statement: `readFrames_eq_feed`, a reader finds the messages that the whole stream has.
-/

namespace FeedNode.Stream

/-- Why no further frame could be read. -/
inductive FrameError where
  | tooLong (length limit : Nat)
  | cutShort
deriving DecidableEq, Repr

/-- The text of an error, where it is fixed. -/
def FrameError.message? : FrameError → Option String
  | .tooLong length limit => some s!"frame of {length} bytes exceeds {limit}"
  | .cutShort => none

/-- A message with its length before it. -/
def frame (message : Bytes) : Bytes :=
  Bytes.bigEndian 4 message.length ++ message

/-- The first message of a stream and what follows it; nothing at a clean end. -/
def readFrame (limit : Nat) (s : Bytes) : Except FrameError (Option (Bytes × Bytes)) :=
  match Bytes.readNat? 4 s with
  | none => .ok none
  | some (length, rest) =>
    if limit < length then .error (.tooLong length limit)
    else
      match rest.split? length with
      | none => .error .cutShort
      | some (message, rest) => .ok (some (message, rest))

/-- A message takes at least the octets of its length from the stream. -/
theorem length_readFrame {limit : Nat} {s message rest : Bytes}
    (h : readFrame limit s = .ok (some (message, rest))) : rest.length < s.length := by
  unfold readFrame at h
  split at h
  · simp at h
  · rename_i length tail htail
    -- the length is read off the front
    have htail' : tail.length < s.length := by
      simp only [Bytes.readNat?, Option.map_eq_some_iff] at htail
      obtain ⟨⟨front, back⟩, hsplit, heq⟩ := htail
      obtain ⟨rfl, hlen⟩ := Bytes.split?_eq_some_iff.1 hsplit
      simp only [Prod.mk.injEq] at heq
      obtain ⟨_, rfl⟩ := heq
      simp only [List.length_append]
      omega
    split at h
    · -- a length over the limit ends the reading
      simp at h
    · split at h
      · -- so does a message that is cut short
        simp at h
      · -- the message is read off behind the length
        rename_i m r hsplit
        obtain ⟨rfl, _⟩ := Bytes.split?_eq_some_iff.1 hsplit
        simp only [Except.ok.injEq, Option.some.injEq, Prod.mk.injEq] at h
        obtain ⟨_, rfl⟩ := h
        simp only [List.length_append] at htail'
        omega

/-- Every message of a stream, and why it does not go on, if that is not its clean end. -/
def readFrames (limit : Nat) (s : Bytes) : List Bytes × Option FrameError :=
  match _h : readFrame limit s with
  | .error e => ([], some e)
  | .ok none => ([], none)
  | .ok (some (message, rest)) =>
    let (messages, e) := readFrames limit rest
    (message :: messages, e)
termination_by s.length
decreasing_by exact length_readFrame _h

/-! ## Streams in pieces -/

/-- The messages that are whole at the front of a stream, and the octets after them, unless it
cannot go on. -/
def wholeFrames (limit : Nat) (s : Bytes) : List Bytes × Except FrameError Bytes :=
  match _h : readFrame limit s with
  | .error .cutShort => ([], .ok s)
  | .error e => ([], .error e)
  | .ok none => ([], .ok s)
  | .ok (some (message, rest)) =>
    let (messages, r) := wholeFrames limit rest
    (message :: messages, r)
termination_by s.length
decreasing_by exact length_readFrame _h

/-- A reader of messages from a stream that comes in pieces. -/
structure FrameReader where
  /-- The length of the longest message that is taken. -/
  limit : Nat
  /-- What has come of the next message. -/
  begun : Bytes
deriving DecidableEq, Repr

namespace FrameReader

/-- A reader at the start of a stream. -/
def new (limit : Nat) : FrameReader where
  limit := limit
  begun := []

/-- Takes a piece: gives the messages that are whole now, and the reader of what follows. -/
def feed (r : FrameReader) (piece : Bytes) : List Bytes × Except FrameError FrameReader :=
  let (messages, rest) := wholeFrames r.limit (r.begun ++ piece)
  (messages, rest.map fun begun => { r with begun })

/-- What is wrong with a stream that ends here. -/
def finish (r : FrameReader) : Option FrameError :=
  match readFrame r.limit r.begun with
  | .error e => some e
  | .ok _ => none

/-- What is wrong with a stream that ends after some of it was taken. -/
def finishAfter (r : Except FrameError FrameReader) : Option FrameError :=
  match r with
  | .error e => some e
  | .ok r => r.finish

theorem readFrames_eq_wholeFrames (limit : Nat) (s : Bytes) :
    readFrames limit s =
      ((wholeFrames limit s).1,
        finishAfter ((wholeFrames limit s).2.map fun begun => { limit, begun })) := by
  fun_induction wholeFrames limit s with
  | case1 s h => rw [readFrames]; split <;> simp_all [finishAfter, finish, Except.map]
  | case2 s e hne h => rw [readFrames]; split <;> simp_all [finishAfter, Except.map]
  | case3 s h => rw [readFrames]; split <;> simp_all [finishAfter, finish, Except.map]
  | case4 s message rest h messages r hr ih => rw [readFrames]; split <;> simp_all

/-- A stream that comes in one piece has the messages that it has as a whole. -/
theorem readFrames_eq_feed (limit : Nat) (s : Bytes) :
    readFrames limit s = (((new limit).feed s).1, finishAfter ((new limit).feed s).2) := by
  rw [readFrames_eq_wholeFrames]
  rfl

end FrameReader

end FeedNode.Stream
