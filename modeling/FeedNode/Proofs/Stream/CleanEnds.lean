import FeedNode.Proofs.Stream.FrameRoundTrip

/-!
# Clean ends

Which streams a reader takes to end cleanly: those that are frames and nothing else, but also those
that are cut off within the four octets of a length. So a clean end tells that no message was lost
of which more than the length was sent, and not that the stream was written to its end.

Main statement: `clean_end_iff`.
-/

namespace FeedNode.Stream

variable {limit : Nat} {s : Bytes} {messages : List Bytes}

/-- The stream is the frames of messages that fit, and after them at most a part of a length. -/
def Framed (limit : Nat) (messages : List Bytes) (s : Bytes) : Prop :=
  (∀ m ∈ messages, Fits limit m) ∧
    ∃ tail : Bytes, tail.length < 4 ∧ s = messages.flatMap frame ++ tail

/-- What is read to a clean end is made of frames and at most a part of a length. -/
theorem framed_of_readFrames (h : readFrames limit s = (messages, none)) :
    Framed limit messages s := by
  fun_induction readFrames limit s generalizing messages with
  | case1 s e hread => cases h
  | case2 s hread =>
    -- fewer than four octets are left
    cases h
    exact ⟨by simp, s, readFrame_eq_none_iff.1 hread, rfl⟩
  | case3 s message rest hread more e hmore ih =>
    obtain ⟨hfits, rfl⟩ := readFrame_eq_some_iff.1 hread
    -- a message that fits, and what follows it
    cases h
    obtain ⟨hall, tail, htail, rfl⟩ := ih hmore
    exact ⟨List.forall_mem_cons.2 ⟨hfits, hall⟩, tail, htail, by simp⟩

/-- Frames and at most a part of a length are read to a clean end. -/
theorem readFrames_of_framed (h : Framed limit messages s) :
    readFrames limit s = (messages, none) := by
  obtain ⟨hfits, tail, htail, rfl⟩ := h
  rw [readFrames_frames hfits, readFrames_of_none (readFrame_of_lt limit htail), List.append_nil]

/-- A reader comes to a clean end with some messages if and only if all of them fit and the stream
is their frames and after them nothing, or an octet to three of another length. All other streams
end in an error. -/
theorem clean_end_iff (limit : Nat) (s : Bytes) :
    (∀ messages, readFrames limit s = (messages, none) ↔ Framed limit messages s) ∧
      ((∃ messages e, readFrames limit s = (messages, some e)) ↔
        ∀ messages, ¬ Framed limit messages s) := by
  refine ⟨fun messages => ⟨framed_of_readFrames, readFrames_of_framed⟩, ?_, fun hno => ?_⟩
  · -- what is made of frames does not end in an error
    rintro ⟨messages, e, herror⟩ others hframed
    rw [readFrames_of_framed hframed] at herror
    cases herror
  · -- what does not end in an error ends cleanly
    cases hread : readFrames limit s with
    | mk messages e =>
      cases e with
      | none => exact absurd (framed_of_readFrames hread) (hno messages)
      | some e => exact ⟨messages, e, rfl⟩

/-- A stream that is one frame and half a length ends cleanly, and is not made of frames. -/
theorem clean_end_within_length :
    let s : Bytes := [0, 0, 0, 1, 171, 0, 0]
    readFrames 16 s = ([[171]], none) ∧ s ≠ [[171]].flatMap frame := by
  have hframed : Framed 16 [[171]] [0, 0, 0, 1, 171, 0, 0] := ⟨by decide, [0, 0], by decide, rfl⟩
  exact ⟨readFrames_of_framed hframed, by decide⟩

end FeedNode.Stream
