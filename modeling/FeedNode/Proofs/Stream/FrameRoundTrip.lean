import FeedNode.Stream.Frame

/-!
# Frames read back

What a reader finds at the front of a stream is decided by the first four octets and the number in
them: fewer octets are its end, a number above the limit stops it, and so does a message that is
shorter than the number says. Each of the four outcomes is said here once, as the form of the
stream (`readFrame_eq_none_iff` and the three after it), and `readFrame` is not opened again.

A stream may also come in pieces. A reader keeps what has come of the next message, so that the
cuts between the pieces do not matter (`readPieces_eq`).

Main statement: `frames_read_back`.
-/

namespace FeedNode.Stream

/-- A message that can be written, and that a reader with the limit takes. -/
structure Fits (limit : Nat) (message : Bytes) : Prop where
  le_limit : message.length ≤ limit
  lt_size : message.length < UInt32.size

instance (limit : Nat) (message : Bytes) : Decidable (Fits limit message) :=
  decidable_of_iff (message.length ≤ limit ∧ message.length < UInt32.size)
    ⟨fun h => ⟨h.1, h.2⟩, fun h => ⟨h.le_limit, h.lt_size⟩⟩

variable {limit : Nat} {s t message rest : Bytes}

/-! ## One frame -/

/-- Four octets hold the numbers up to the size of a 32-bit word. -/
theorem room_four : Bytes.room 4 = UInt32.size := rfl

/-- A stream is too short for a length, or begins with one. -/
theorem length_lt_or_eq_length (s : Bytes) :
    s.length < 4 ∨ ∃ n rest, n < UInt32.size ∧ s = Bytes.bigEndian 4 n ++ rest := by
  by_cases h : s.length < 4
  · exact .inl h
  · have hfront : (s.take 4).length = 4 := by simp; omega
    -- the number in the first four octets, and what follows them
    refine .inr ⟨Bytes.toNatBE (s.take 4), s.drop 4, ?_, ?_⟩
    · have hroom := Bytes.toNatBE_lt_room (s.take 4)
      rwa [hfront, room_four] at hroom
    · have hwritten := Bytes.bigEndian_toNatBE (s.take 4)
      rw [hfront] at hwritten
      rw [hwritten, List.take_append_drop]

/-- A stream that is too short for a length is taken to be at its end. -/
theorem readFrame_of_lt (limit : Nat) (h : s.length < 4) : readFrame limit s = .ok none := by
  have hshort : s.split? 4 = none := by
    rw [Bytes.split?, if_neg]
    simp
    omega
  rw [readFrame, Bytes.readNat?, hshort]
  rfl

/-- What is read behind a length. -/
theorem readFrame_length (limit : Nat) {n : Nat} (hn : n < UInt32.size) (rest : Bytes) :
    readFrame limit (Bytes.bigEndian 4 n ++ rest) =
      if limit < n then .error (.tooLong n limit)
      else
        match rest.split? n with
        | none => .error .cutShort
        | some (message, rest) => .ok (some (message, rest)) := by
  have hread : Bytes.readNat? 4 (Bytes.bigEndian 4 n ++ rest) = some (n, rest) :=
    Bytes.readNat?_bigEndian hn rest
  cases hsplit : rest.split? n with
  | none => simp only [readFrame, hread, hsplit]
  | some found => simp only [readFrame, hread, hsplit]

/-- No frame is read from a stream that is too short for a length, and from no other. -/
theorem readFrame_eq_none_iff : readFrame limit s = .ok none ↔ s.length < 4 := by
  refine ⟨fun h => ?_, readFrame_of_lt limit⟩
  obtain hlt | ⟨n, rest, hn, rfl⟩ := length_lt_or_eq_length s
  · exact hlt
  · -- with a length there is a message, or an error
    rw [readFrame_length limit hn] at h
    split at h
    · cases h
    · split at h <;> cases h

/-- A frame is read where one that fits was written. -/
theorem readFrame_eq_some_iff :
    readFrame limit s = .ok (some (message, rest)) ↔
      Fits limit message ∧ s = frame message ++ rest := by
  constructor
  · intro h
    obtain hlt | ⟨n, tail, hn, rfl⟩ := length_lt_or_eq_length s
    · rw [readFrame_of_lt limit hlt] at h
      cases h
    · rw [readFrame_length limit hn] at h
      split at h
      · -- above the limit
        cases h
      · rename_i hlimit
        split at h
        · cases h
        · -- the message is there as a whole
          rename_i hsplit
          obtain ⟨rfl, rfl⟩ := Bytes.split?_eq_some_iff.1 hsplit
          cases h
          exact ⟨⟨Nat.not_lt.1 hlimit, hn⟩, by rw [frame, List.append_assoc]⟩
  · -- the length that is written is the one that is read
    rintro ⟨⟨hlimit, hsize⟩, rfl⟩
    rw [frame, List.append_assoc, readFrame_length limit hsize, if_neg (Nat.not_lt.2 hlimit),
      Bytes.split?_append]

/-- The reader stops at a length above its limit, whatever follows it. -/
theorem readFrame_eq_tooLong_iff {n l : Nat} :
    readFrame limit s = .error (.tooLong n l) ↔
      l = limit ∧ limit < n ∧ n < UInt32.size ∧ ∃ rest, s = Bytes.bigEndian 4 n ++ rest := by
  constructor
  · intro h
    obtain hlt | ⟨m, rest, hm, rfl⟩ := length_lt_or_eq_length s
    · rw [readFrame_of_lt limit hlt] at h
      cases h
    · -- only a length above the limit ends so
      rw [readFrame_length limit hm] at h
      split at h
      · rename_i hlimit
        cases h
        exact ⟨rfl, hlimit, hm, rest, rfl⟩
      · split at h <;> cases h
  · rintro ⟨rfl, hlimit, hn, rest, rfl⟩
    rw [readFrame_length l hn, if_pos hlimit]

/-- The reader stops where fewer octets follow than the length says. -/
theorem readFrame_eq_cutShort_iff :
    readFrame limit s = .error .cutShort ↔
      ∃ n rest, n ≤ limit ∧ n < UInt32.size ∧ rest.length < n ∧
        s = Bytes.bigEndian 4 n ++ rest := by
  constructor
  · intro h
    obtain hlt | ⟨n, rest, hn, rfl⟩ := length_lt_or_eq_length s
    · rw [readFrame_of_lt limit hlt] at h
      cases h
    · rw [readFrame_length limit hn] at h
      split at h
      · -- above the limit it would be too long
        cases h
      · rename_i hlimit
        split at h
        · rename_i hsplit
          -- the message is not there as a whole, so something of it is missing
          refine ⟨n, rest, Nat.not_lt.1 hlimit, hn, Nat.lt_of_not_le fun hle => ?_, rfl⟩
          rw [Bytes.split?, if_pos (by simp; omega)] at hsplit
          cases hsplit
        · cases h
  · rintro ⟨n, rest, hlimit, hn, hlt, rfl⟩
    have hsplit : rest.split? n = none := by
      rw [Bytes.split?, if_neg]
      simp
      omega
    rw [readFrame_length limit hn, if_neg (Nat.not_lt.2 hlimit), hsplit]

/-! ## Whole streams -/

/-- A stream at its end has no messages. -/
theorem readFrames_of_none (h : readFrame limit s = .ok none) :
    readFrames limit s = ([], none) := by
  rw [readFrames]
  split <;> simp_all

/-- A stream that cannot go on has no messages. -/
theorem readFrames_of_error {e : FrameError} (h : readFrame limit s = .error e) :
    readFrames limit s = ([], some e) := by
  rw [readFrames]
  split <;> simp_all

/-- A stream that begins with a frame has its message and those of the rest. -/
theorem readFrames_of_some (h : readFrame limit s = .ok (some (message, rest))) :
    readFrames limit s = (message :: (readFrames limit rest).1, (readFrames limit rest).2) := by
  rw [readFrames]
  split <;> simp_all

/-- Frames that fit are read, and then what is behind them. -/
theorem readFrames_frames {messages : List Bytes} (h : ∀ m ∈ messages, Fits limit m)
    (rest : Bytes) :
    readFrames limit (messages.flatMap frame ++ rest) =
      (messages ++ (readFrames limit rest).1, (readFrames limit rest).2) := by
  induction messages with
  | nil => rfl
  | cons m messages ih =>
    obtain ⟨hm, hmessages⟩ := List.forall_mem_cons.1 h
    rw [List.flatMap_cons, List.append_assoc,
      readFrames_of_some (readFrame_eq_some_iff.2 ⟨hm, rfl⟩), ih hmessages]
    rfl

/-! ## Streams in pieces -/

/-- A stream at its end has no whole frames. -/
theorem wholeFrames_of_none (h : readFrame limit s = .ok none) :
    wholeFrames limit s = ([], .ok s) := by
  rw [wholeFrames]
  split <;> simp_all

/-- A frame that is cut short is kept for later. -/
theorem wholeFrames_of_cutShort (h : readFrame limit s = .error .cutShort) :
    wholeFrames limit s = ([], .ok s) := by
  rw [wholeFrames]
  split <;> simp_all

/-- A length above the limit ends the stream. -/
theorem wholeFrames_of_tooLong {n l : Nat} (h : readFrame limit s = .error (.tooLong n l)) :
    wholeFrames limit s = ([], .error (.tooLong n l)) := by
  rw [wholeFrames]
  split <;> simp_all

/-- A whole frame is taken off the front. -/
theorem wholeFrames_of_some (h : readFrame limit s = .ok (some (message, rest))) :
    wholeFrames limit s = (message :: (wholeFrames limit rest).1, (wholeFrames limit rest).2) := by
  rw [wholeFrames]
  split <;> simp_all

/-- What is whole at the front of a stream stays so when more of it comes, and so does an error. -/
theorem wholeFrames_append (limit : Nat) (s t : Bytes) :
    wholeFrames limit (s ++ t) =
      match (wholeFrames limit s).2 with
      | .error e => ((wholeFrames limit s).1, .error e)
      | .ok left =>
        ((wholeFrames limit s).1 ++ (wholeFrames limit (left ++ t)).1,
          (wholeFrames limit (left ++ t)).2) := by
  fun_induction wholeFrames limit s with
  -- a frame that is cut short waits for more
  | case1 s h => rfl
  | case2 s e hne h =>
    -- only a length above the limit stops a reader for good
    cases e with
    | cutShort => exact absurd rfl hne
    | tooLong n l =>
      obtain ⟨rfl, hlimit, hn, tail, rfl⟩ := readFrame_eq_tooLong_iff.1 h
      have hmore : readFrame l (Bytes.bigEndian 4 n ++ tail ++ t) = .error (.tooLong n l) :=
        readFrame_eq_tooLong_iff.2 ⟨rfl, hlimit, hn, tail ++ t, List.append_assoc ..⟩
      rw [wholeFrames_of_tooLong hmore]
  | case3 s h => rfl
  | case4 s message rest h messages r hr ih =>
    -- the first frame is whole with more behind it, too
    obtain ⟨hfits, rfl⟩ := readFrame_eq_some_iff.1 h
    have hmore : readFrame limit (frame message ++ rest ++ t) =
        .ok (some (message, rest ++ t)) :=
      readFrame_eq_some_iff.2 ⟨hfits, List.append_assoc ..⟩
    rw [wholeFrames_of_some hmore, ih, hr]
    cases r <;> rfl

/-- No message is whole in what a reader keeps. -/
theorem wholeFrames_left {left : Bytes} (h : (wholeFrames limit s).2 = .ok left) :
    wholeFrames limit left = ([], .ok left) := by
  fun_induction wholeFrames limit s with
  -- what is kept is a frame that is cut short, or a part of a length
  | case1 s hs =>
    cases h
    exact wholeFrames_of_cutShort hs
  | case2 s e hne hs => cases h
  | case3 s hs =>
    cases h
    exact wholeFrames_of_none hs
  | case4 s message rest hs messages r hr ih => exact ih (by rw [hr]; exact h)

namespace FrameReader

/-- Takes pieces one after the other, until the stream cannot go on. -/
def feedAll (r : FrameReader) : List Bytes → List Bytes × Except FrameError FrameReader
  | [] => ([], .ok r)
  | piece :: pieces =>
    match r.feed piece with
    | (messages, .error e) => (messages, .error e)
    | (messages, .ok r) => (messages ++ (r.feedAll pieces).1, (r.feedAll pieces).2)

/-- Every message of a stream that comes in pieces, and why it does not go on, if that is not its
clean end. -/
def readPieces (limit : Nat) (pieces : List Bytes) : List Bytes × Option FrameError :=
  (((new limit).feedAll pieces).1, finishAfter ((new limit).feedAll pieces).2)

/-- A reader that has begun a message waits for the rest of it. -/
def Waits (r : FrameReader) : Prop :=
  wholeFrames r.limit r.begun = ([], .ok r.begun)

/-- Feeding a reader reads the frames that are whole with what it kept. -/
theorem feed_eq (r : FrameReader) (piece : Bytes) :
    r.feed piece = ((wholeFrames r.limit (r.begun ++ piece)).1,
      (wholeFrames r.limit (r.begun ++ piece)).2.map fun begun => { r with begun }) := rfl

/-- A new reader waits for its first message. -/
theorem waits_new (limit : Nat) : (new limit).Waits :=
  wholeFrames_of_none (readFrame_of_lt limit (by simp [new]))

/-- Pieces are taken like the octets in them. -/
theorem feedAll_eq {r : FrameReader} (hr : r.Waits) (pieces : List Bytes) :
    r.feedAll pieces = r.feed pieces.flatten := by
  induction pieces generalizing r with
  | nil =>
    rw [List.flatten_nil, feed_eq, List.append_nil, hr]
    rfl
  | cons piece pieces ih =>
    -- what is whole in the first piece stays whole when the others come
    have hwhole := wholeFrames_append r.limit (r.begun ++ piece) pieces.flatten
    rw [feedAll, List.flatten_cons, feed_eq, feed_eq, ← List.append_assoc, hwhole]
    cases hleft : (wholeFrames r.limit (r.begun ++ piece)).2 with
    | error e => rfl
    | ok left =>
      -- what is left of the first piece is the beginning of a message
      have hnext : Waits { r with begun := left } := wholeFrames_left hleft
      simp only [Except.map, ih hnext, feed_eq]

/-- It does not matter where a stream is cut into pieces. -/
theorem readPieces_eq (limit : Nat) (pieces : List Bytes) :
    readPieces limit pieces = readFrames limit pieces.flatten := by
  rw [readPieces, feedAll_eq (waits_new limit), ← readFrames_eq_feed]

end FrameReader

/-! ## The round trip -/

/-- Messages that fit are read back from the stream that they were written to, which then ends
cleanly. If something follows them that the reader does not take, a frame above its limit or one
that is cut short, then they are read and nothing else, and there is an error. None of it depends
on how the stream is cut into pieces. -/
theorem frames_read_back {limit : Nat} {messages : List Bytes}
    (h : ∀ m ∈ messages, Fits limit m) :
    readFrames limit (messages.flatMap frame) = (messages, none) ∧
      (∀ long rest, limit < long.length → long.length < UInt32.size →
        readFrames limit (messages.flatMap frame ++ (frame long ++ rest)) =
          (messages, some (.tooLong long.length limit))) ∧
      (∀ message begun missing, message = begun ++ missing → missing ≠ [] →
        message.length < UInt32.size →
        readFrames limit
            (messages.flatMap frame ++ (Bytes.bigEndian 4 message.length ++ begun)) =
          (messages,
            some (if limit < message.length then .tooLong message.length limit
              else .cutShort))) ∧
      ∀ pieces, FrameReader.readPieces limit pieces = readFrames limit pieces.flatten := by
  refine ⟨?_, fun long rest hlong hsize => ?_, fun message begun missing hcut hmissing hsize => ?_,
    FrameReader.readPieces_eq limit⟩
  · -- the stream is at its end behind the frames
    have hend : readFrame limit [] = .ok none := readFrame_of_lt limit (by simp)
    have hread := readFrames_frames h []
    rwa [readFrames_of_none hend, List.append_nil, List.append_nil] at hread
  · -- behind the frames the length is above the limit
    have herror : readFrame limit (frame long ++ rest) = .error (.tooLong long.length limit) :=
      readFrame_eq_tooLong_iff.2 ⟨rfl, hlong, hsize, long ++ rest, List.append_assoc ..⟩
    rw [readFrames_frames h, readFrames_of_error herror, List.append_nil]
  · -- behind the frames is a length that is too long, or a message that is cut short
    have hbegun : begun.length < message.length := by
      have := List.length_pos_iff.2 hmissing
      rw [hcut, List.length_append]
      omega
    have herror : readFrame limit (Bytes.bigEndian 4 message.length ++ begun) =
        .error (if limit < message.length then .tooLong message.length limit else .cutShort) := by
      split
      · rename_i hlong
        exact readFrame_eq_tooLong_iff.2 ⟨rfl, hlong, hsize, begun, rfl⟩
      · rename_i hlimit
        exact readFrame_eq_cutShort_iff.2
          ⟨message.length, begun, Nat.not_lt.1 hlimit, hsize, hbegun, rfl⟩
    rw [readFrames_frames h, readFrames_of_error herror, List.append_nil]

/-- Two messages, one of them as long as the limit and one without an octet, in pieces that are cut
in the second length. A third message is one octet too long, and another is cut short. -/
theorem frames_read_back_two :
    let messages : List Bytes := [[7, 8], []]
    (∀ m ∈ messages, Fits 2 m) ∧ messages.flatMap frame = [0, 0, 0, 2, 7, 8, 0, 0, 0, 0] ∧
      FrameReader.readPieces 2 [[0, 0], [0, 2, 7, 8, 0], [], [0, 0, 0]] = (messages, none) ∧
      readFrames 2 (messages.flatMap frame ++ (frame [1, 2, 3] ++ [9])) =
        (messages, some (.tooLong 3 2)) ∧
      readFrames 2 (messages.flatMap frame ++ [0, 0, 0, 2, 5]) = (messages, some .cutShort) := by
  intro messages
  have hfits : ∀ m ∈ messages, Fits 2 m := by decide
  obtain ⟨hread, hlong, hcut, hpieces⟩ := frames_read_back hfits
  refine ⟨hfits, by decide, ?_, ?_, ?_⟩
  · rw [hpieces]
    exact hread
  · exact hlong [1, 2, 3] [9] (by decide) (by decide)
  · exact hcut [5, 6] [5] [6] rfl (by decide) (by decide)

end FeedNode.Stream
