/-
Module: CacheDirectory.Proofs.Truncation
Purpose: What is read from a stream of frames that ends early: the messages whose frames
  are whole, and then a failure if the next frame was cut behind its length. A length that
  is cut itself is taken for the end of the stream.
Trusted boundary: none
Main exports: Frame.next_take, Frame.size, Frame.Cut, Frame.readAll_within,
  Family.read_truncated, Family.cut_length_reads_as_end
-/
import CacheDirectory.Proofs.Streams

namespace CacheDirectory.Wire

namespace Frame

variable {M : Type} [Message M]

/-! ### One frame that is cut -/

/-- A stream shows nothing of a frame exactly as long as its length is not whole. -/
theorem next_eq_betweenFrames_iff {unread : Bytes} :
    next (M := M) unread = .betweenFrames ↔ unread.length < 4 := by
  match unread with
  | [] | [_] | [_, _] | [_, _, _] => exact ⟨fun _ => by simp, fun _ => rfl⟩
  | b₀ :: b₁ :: b₂ :: b₃ :: behind =>
    refine ⟨fun nothing => ?_, fun short => by simp only [List.length_cons] at short; omega⟩
    rw [next_cons] at nothing
    cases checked : checkLength (announced [b₀, b₁, b₂, b₃]) with
    | error error =>
      rw [checked] at nothing
      cases nothing
    | ok =>
      rw [checked] at nothing
      simp only [held] at nothing
      split at nothing
      case isTrue => cases nothing
      case isFalse => split at nothing <;> cases nothing

/-- What is found in the first bytes of a frame, not all of them: nothing, or the start
of a frame once the length is whole. -/
theorem next_take (faithful : (Message.layout (M := M)).Faithful) {found : M} {frame : Bytes}
    (written : encode found = .ok frame) {extra : Nat} (cut : extra < frame.length) :
    next (M := M) (frame.take extra) = if extra < 4 then .betweenFrames else .withinFrame := by
  have length : (frame.take extra).length = extra := by
    rw [List.length_take]
    omega
  have whole : next (frame.take extra ++ frame.drop extra) = .message found [] := by
    have read := next_of_encode faithful written []
    rwa [List.append_nil, ← List.take_append_drop extra frame] at read
  -- A frame that were found in its first bytes would leave the others over.
  have unfound : next (M := M) (frame.take extra) = .betweenFrames ∨
      next (M := M) (frame.take extra) = .withinFrame := by
    obtain nothing | within | found' := next_append (M := M) (frame.take extra) (frame.drop extra)
    · exact .inl nothing
    · exact .inr within
    · rw [whole] at found'
      cases front : next (M := M) (frame.take extra) with
      | betweenFrames => exact .inl rfl
      | withinFrame => exact .inr rfl
      | broken error rest =>
        rw [front] at found'
        cases found'
      | message other rest =>
        rw [front] at found'
        have nothingLeft := (Incoming.message.inj found').2
        have left : (frame.drop extra).length = 0 := by
          rw [(List.append_eq_nil_iff.mp nothingLeft.symm).2, List.length_nil]
        rw [List.length_drop] at left
        omega
  split
  case isTrue short => exact next_eq_betweenFrames_iff.mpr (by omega)
  case isFalse long =>
    refine unfound.resolve_left fun nothing => long ?_
    have short := next_eq_betweenFrames_iff.mp nothing
    omega

/-! ### Reading to the end -/

/-- Reading all of a stream is reading its next message, again and again. -/
theorem readAll_eq (stream : Bytes) :
    readAll (M := M) stream =
      match nextAtEnd (M := M) stream with
      | .ok (some (found, rest)) =>
        let (later, stopped) := readAll rest
        (found :: later, stopped)
      | .ok none => ([], none)
      | .error error => ([], some error) := by
  rw [readAll, nextAtEnd]
  split <;> rename_i front <;> simp only [front]

/-! ### Several frames -/

/-- The number of bytes in the frame of a message. -/
def size (message : M) : Nat :=
  (payload message).length + 5

theorem length_of_encode {message : M} {frame : Bytes} (written : encode message = .ok frame) :
    frame.length = size message := by
  obtain ⟨-, rfl⟩ := encode_eq_ok_iff.mp written
  simp only [List.length_append, List.length_cons, length_header, size]
  omega

theorem encodeAll_cons {first : M} {frame : Bytes} {rest : List M}
    (written : encode first = .ok frame) :
    (encodeAll (first :: rest)).2.1 = frame ++ (encodeAll rest).2.1 := by
  simp only [encodeAll, written]

/-- The frames of the messages stand one after the other. Within the first `cut` bytes lie
exactly those of the messages `whole`, and of the next frame, if there is one, `extra`
bytes. -/
structure Cut (messages : List M) (cut : Nat) (whole : List M) (extra : Nat) : Prop where
  cut_eq : cut = (encodeAll whole).2.1.length + extra
  first : whole <+: messages
  next : ∀ message, messages[whole.length]? = some message → extra < size message
  last : whole = messages → extra = 0

namespace Cut

variable {first : M} {frame : Bytes} {rest whole : List M} {cut extra : Nat}

theorem nil : Cut ([] : List M) 0 [] 0 :=
  ⟨rfl, List.prefix_rfl, nofun, fun _ => rfl⟩

/-- The cut is within the first frame. -/
theorem within (short : cut < size first) : Cut (first :: rest) cut [] cut := by
  refine ⟨(Nat.zero_add cut).symm, List.nil_prefix, ?_, nofun⟩
  rintro message ⟨⟩
  exact short

/-- The cut is behind the first frame. -/
theorem cons (written : encode first = .ok frame) (later : Cut rest cut whole extra) :
    Cut (first :: rest) (frame.length + cut) (first :: whole) extra := by
  refine ⟨?_, (List.prefix_cons_inj first).mpr later.first, later.next, ?_⟩
  · rw [encodeAll_cons written, List.length_append, Nat.add_assoc, ← later.cut_eq]
  · exact fun all => later.last (List.cons.inj all).2

end Cut

section

variable {first : M} {frame : Bytes}

/-- Of a stream that ends within its first frame nothing is read. -/
theorem readAll_within (faithful : (Message.layout (M := M)).Faithful)
    (written : encode first = .ok frame) {cut : Nat} (short : cut < frame.length) (more : Bytes) :
    readAll (M := M) ((frame ++ more).take cut) =
      ([], if cut < 4 then none else some (.connection .earlyEnd)) := by
  rw [List.take_append_of_le_length (Nat.le_of_lt short), readAll_eq, nextAtEnd,
    next_take faithful written short]
  by_cases begun : cut < 4 <;> simp only [begun, if_true, if_false]

/-- The first frame of a stream that ends behind it is read. -/
theorem readAll_behind (faithful : (Message.layout (M := M)).Faithful)
    (written : encode first = .ok frame) (cut : Nat) (more : Bytes) :
    readAll (M := M) ((frame ++ more).take (frame.length + cut)) =
      (first :: (readAll (more.take cut)).1, (readAll (M := M) (more.take cut)).2) := by
  rw [List.take_length_add_append, readAll_eq, nextAtEnd, next_of_encode faithful written]

end

end Frame

namespace Family

/-- A stream of frames that ends after any number of bytes: read are the messages whose
frames are whole, in order. What is then left is the beginning of the next frame, and is
a failure if it is at least a length; anything shorter passes for the end of the stream,
as it should only where no frame has begun. By induction on the messages: the stream ends
within the first frame or behind it. -/
theorem read_truncated (family : Family) (messages : List family.Carried)
    (written : ∀ message ∈ messages, ∃ frame, Frame.encode message = .ok frame) (cut : Nat)
    (inside : cut ≤ (Frame.encodeAll messages).2.1.length) :
    ∃ whole extra, Frame.Cut messages cut whole extra ∧
      Frame.readAll ((Frame.encodeAll messages).2.1.take cut) =
        (whole, if extra < 4 then none else some (.connection .earlyEnd)) := by
  induction messages generalizing cut with
  | nil =>
    obtain rfl : cut = 0 := Nat.le_zero.mp inside
    exact ⟨[], 0, .nil, by rw [Frame.readAll_eq]; rfl⟩
  | cons first rest ih =>
    obtain ⟨frame, framed⟩ := written first List.mem_cons_self
    rw [Frame.encodeAll_cons framed] at inside ⊢
    rw [List.length_append] at inside
    by_cases short : cut < frame.length
    case pos =>
      have size_eq := Frame.length_of_encode framed
      exact ⟨[], cut, .within (size_eq ▸ short), Frame.readAll_within family.faithful framed short _⟩
    case neg =>
      obtain ⟨further, rfl⟩ := Nat.exists_eq_add_of_le (Nat.le_of_not_lt short)
      obtain ⟨whole, extra, split, read⟩ := ih
        (fun message among => written message (List.mem_cons_of_mem first among)) further (by omega)
      refine ⟨first :: whole, extra, split.cons framed, ?_⟩
      rw [Frame.readAll_behind family.faithful framed, read]

/-- The first of two frames is read, and the second has been begun: its length is whole. -/
theorem read_truncated_second :
    let messages : List CallbackMessage := [.ack, .refused "no"]
    (∀ message ∈ messages, ∃ frame, Frame.encode message = .ok frame) ∧
      14 ≤ (Frame.encodeAll messages).2.1.length ∧
      ∃ whole extra, Frame.Cut messages 14 whole extra ∧
        Frame.readAll ((Frame.encodeAll messages).2.1.take 14) =
          (whole, if extra < 4 then none else some (.connection .earlyEnd)) := by
  intro messages
  have written : ∀ message ∈ messages, ∃ frame, Frame.encode message = .ok frame := by
    intro message among
    rcases List.mem_cons.mp among with rfl | among
    · exact ⟨_, rfl⟩
    · rw [List.mem_singleton.mp among]
      exact ⟨_, rfl⟩
  have inside : 14 ≤ (Frame.encodeAll messages).2.1.length := by decide
  exact ⟨written, inside, read_truncated .callback messages written 14 inside⟩

/-- A stream that ends after three bytes of a frame is read like one that ends before the
frame. -/
theorem cut_length_reads_as_end :
    Frame.encode CallbackMessage.ack = .ok [0, 0, 0, 5, 202, 1, 0, 0, 0] ∧
      Frame.readAll (M := CallbackMessage) ([0, 0, 0, 5, 202, 1, 0, 0, 0].take 3) = ([], none) :=
  ⟨rfl, by rw [Frame.readAll_eq]; rfl⟩

end Family

end CacheDirectory.Wire
