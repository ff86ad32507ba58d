/-
Module: CacheDirectory.Proofs.ReaderAgreement
Purpose: The reader of bytes that are all there and the reader of a stream find the same
  messages in the same bytes, and fail alike exactly where the bytes decide what the frame
  at their start is.
Trusted boundary: none
Main exports: Frame.nextAtEnd_eq_some_iff, Frame.decodeNext, Frame.Decided,
  Frame.decided_iff, Frame.readMany, Family.readers_agree
-/
import CacheDirectory.Proofs.Truncation

namespace CacheDirectory.Wire

namespace Frame

variable {M : Type} [Message M]

/-! ### The first frame -/

theorem nextAtEnd_eq_some_iff {stream rest : Bytes} {found : M} :
    nextAtEnd stream = .ok (some (found, rest)) ↔ next stream = .message found rest := by
  rw [nextAtEnd]
  cases next (M := M) stream with
  | message | betweenFrames | withinFrame | broken => simp

/-- Both readers accept the same frames. -/
theorem decode_eq_ok_iff_nextAtEnd (faithful : (Message.layout (M := M)).Faithful) {data : Bytes}
    {found : M} {size : Nat} :
    decode data = .ok (found, size) ↔
      size ≤ data.length ∧ nextAtEnd data = .ok (some (found, data.drop size)) := by
  rw [nextAtEnd_eq_some_iff, next_eq_message_iff]
  constructor
  · intro read
    exact ⟨((decode_eq_ok_iff faithful).mp read).whole, size, read, rfl⟩
  · rintro ⟨inside, other, read, same⟩
    have inside' := ((decode_eq_ok_iff faithful).mp read).whole
    have left := congrArg List.length same
    rw [List.length_drop, List.length_drop] at left
    obtain rfl : size = other := by omega
    exact read

/-- The message in the frame at the start of `data`, and what follows the frame. -/
def decodeNext (data : Bytes) : Except ProtocolError (Option (M × Bytes)) :=
  (decode data).map fun (found, size) => some (found, data.drop size)

/-- The bytes hold a tag behind a length, and the length is either one that no frame has or
that of a frame that is all there. -/
def Decided (data : Bytes) : Prop :=
  5 ≤ data.length ∧
    (bigEndian (data.take 4) = 0 ∨ maxPayload + 1 < bigEndian (data.take 4) ∨
      4 + bigEndian (data.take 4) ≤ data.length)

/-- A length that no frame has is told from bytes that are too few. -/
theorem checkLength_ne_tooShort (length : Nat) :
    checkLength length ≠ .error (.framing .tooShort) := by
  unfold checkLength
  split
  case isTrue => exact nofun
  case isFalse => split <;> exact nofun

theorem decided_cons {b₀ b₁ b₂ b₃ tag : UInt8} {rest : Bytes} :
    Decided (b₀ :: b₁ :: b₂ :: b₃ :: tag :: rest) ↔
      (checkLength (announced [b₀, b₁, b₂, b₃]) = .ok () →
        announced [b₀, b₁, b₂, b₃] ≤ rest.length + 1) := by
  have length_eq : bigEndian ((b₀ :: b₁ :: b₂ :: b₃ :: tag :: rest).take 4) =
      announced [b₀, b₁, b₂, b₃] := (announced_eq_bigEndian _).symm
  rw [Decided, length_eq, checkLength_eq_ok_iff]
  simp only [List.length_cons]
  omega

/-- The readers come to the same, be it a message or a failure, exactly where the frame is
decided. -/
theorem decided_iff (data : Bytes) :
    Decided data ↔ nextAtEnd (M := M) data = decodeNext data := by
  match data with
  | [] | [_] | [_, _] | [_, _, _] =>
    refine iff_of_false (fun decided => absurd decided.1 (by simp)) fun same => ?_
    cases same
  | [b₀, b₁, b₂, b₃] =>
    refine iff_of_false (fun decided => absurd decided.1 (by simp)) fun same => ?_
    rw [nextAtEnd, next_cons] at same
    cases checked : checkLength (announced [b₀, b₁, b₂, b₃]) with
    | error error =>
      rw [checked] at same
      rw [Except.error.inj same] at checked
      exact checkLength_ne_tooShort _ checked
    | ok =>
      obtain ⟨positive, -⟩ := checkLength_eq_ok_iff.mp checked
      have cut : ([] : Bytes).length < announced [b₀, b₁, b₂, b₃] := positive
      simp only [checked, held, if_pos cut] at same
      cases same
  | b₀ :: b₁ :: b₂ :: b₃ :: tag :: rest =>
    rw [decided_cons, nextAtEnd, next_cons, decodeNext, decode_cons]
    generalize announced [b₀, b₁, b₂, b₃] = length
    cases checkLength length with
    | error error => exact iff_of_true (fun valid => by cases valid) rfl
    | ok =>
      dsimp only [held]
      rw [List.length_cons]
      by_cases cut : rest.length + 1 < length
      case pos =>
        rw [if_pos cut, if_pos cut]
        exact iff_of_false (fun whole => absurd (whole rfl) (by omega)) fun same => by cases same
      case neg =>
        rw [if_neg cut, if_neg cut]
        refine iff_of_true (fun _ => by omega) ?_
        rw [List.headD_cons, List.tail_cons]
        cases message (M := M) tag (rest.take (length - 1)) <;> rfl

/-! ### All frames -/

/-- Read a number of messages, each from what the one before it left over, and stop where
there is none. -/
def readMany (read : Bytes → Except ProtocolError (Option (M × Bytes))) :
    Nat → Bytes → Except ProtocolError (List M × Bytes)
  | 0, bytes => .ok ([], bytes)
  | count + 1, bytes => do
    match ← read bytes with
    | none => return ([], bytes)
    | some (first, rest) =>
      let (later, left) ← readMany read count rest
      return (first :: later, left)

/-- A reader that finds the frame of a message wherever the bytes start with it finds one
frame after the other. -/
theorem readMany_encodeAll {read : Bytes → Except ProtocolError (Option (M × Bytes))}
    (reads : ∀ message frame, encode message = .ok frame →
      ∀ rest, read (frame ++ rest) = .ok (some (message, rest)))
    {messages : List M} (written : ∀ message ∈ messages, ∃ frame, encode message = .ok frame)
    (rest : Bytes) :
    readMany read messages.length ((encodeAll messages).2.1 ++ rest) = .ok (messages, rest) := by
  induction messages with
  | nil => rfl
  | cons first later ih =>
    obtain ⟨frame, framed⟩ := written first List.mem_cons_self
    have following := ih fun message among => written message (List.mem_cons_of_mem first among)
    rw [encodeAll_cons framed, List.append_assoc, List.length_cons, readMany,
      reads first frame framed]
    simp only [bind, Except.bind, following]
    rfl

variable (faithful : (Message.layout (M := M)).Faithful)

include faithful

theorem nextAtEnd_of_encode {message : M} {frame : Bytes} (written : encode message = .ok frame)
    (rest : Bytes) : nextAtEnd (frame ++ rest) = .ok (some (message, rest)) :=
  nextAtEnd_eq_some_iff.mpr (next_of_encode faithful written rest)

theorem decodeNext_of_encode {message : M} {frame : Bytes} (written : encode message = .ok frame)
    (rest : Bytes) : decodeNext (frame ++ rest) = .ok (some (message, rest)) := by
  have read := (decode_eq_ok_iff faithful).mpr (begins_of_encode written rest)
  simp only [decodeNext, read, Except.map, List.drop_left]

end Frame

/-- In every family: both readers accept the same frames, as the same messages, and leave the
same bytes. They come to the same, be it a message or a failure, exactly where the bytes
hold a tag behind a length that no frame has, or behind the length of a frame that is all
there. So either reader returns the messages whose frames stand one after the other, in
order, and leaves what follows. -/
theorem Family.readers_agree (family : Family) :
    (∀ (data : Bytes) (found : family.Carried) (size : Nat),
      Frame.decode data = .ok (found, size) ↔
        size ≤ data.length ∧ Frame.nextAtEnd data = .ok (some (found, data.drop size))) ∧
    (∀ data : Bytes, Frame.Decided data ↔
      Frame.nextAtEnd (M := family.Carried) data =
        (Frame.decode data).map fun (found, size) => some (found, data.drop size)) ∧
    (∀ messages : List family.Carried,
      (∀ message ∈ messages, ∃ frame, Frame.encode message = .ok frame) → ∀ rest : Bytes,
      let stream := (Frame.encodeAll messages).2.1 ++ rest
      Frame.readMany Frame.nextAtEnd messages.length stream = .ok (messages, rest) ∧
      Frame.readMany Frame.decodeNext messages.length stream = .ok (messages, rest)) := by
  have faithful := family.faithful
  refine ⟨fun _ _ _ => Frame.decode_eq_ok_iff_nextAtEnd faithful, Frame.decided_iff, ?_⟩
  -- A single frame is found by either reader, hence any number of them.
  intro messages written rest
  constructor
  · exact Frame.readMany_encodeAll (fun _ _ => Frame.nextAtEnd_of_encode faithful) written rest
  · exact Frame.readMany_encodeAll (fun _ _ => Frame.decodeNext_of_encode faithful) written rest

end CacheDirectory.Wire
