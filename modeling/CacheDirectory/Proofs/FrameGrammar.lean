/-
Module: CacheDirectory.Proofs.FrameGrammar
Purpose: The frames that are accepted, said without a reader: where the length, the
  tag and the payload of a message stand. What is written is such a frame, and no bytes
  are a frame of two families.
Trusted boundary: none
Main exports: Frame.Begins, Frame.decode_eq_ok_iff, Frame.encode_eq_ok_iff,
  Frame.begins_of_encode, Family.frame_grammar
-/
import CacheDirectory.Proofs.Messages
import CacheDirectory.Wire.Frame

namespace CacheDirectory.Wire

namespace Frame

variable {M : Type} [Message M]

/-! ### Lengths -/

/-- The number whose digits to base 256 are the bytes, the highest first. -/
def bigEndian (bytes : Bytes) : Nat :=
  bytes.foldl (fun number byte => 256 * number + byte.toNat) 0

theorem announced_eq_bigEndian (bytes : Bytes) : announced bytes = bigEndian bytes := by
  have folded (bytes : Bytes) :
      ofLittleEndian bytes = bytes.foldr (fun byte number => 256 * number + byte.toNat) 0 := by
    induction bytes with
    | nil => rfl
    | cons byte rest ih => rw [ofLittleEndian, List.foldr_cons, ih, Nat.add_comm]
  rw [announced, folded, List.foldr_reverse, bigEndian]

@[simp] theorem length_header (length : Nat) : (header length).length = 4 := by
  rw [header, List.length_reverse, length_littleEndian]

theorem announced_header {length : Nat} (fits : length < UInt32.size) :
    announced (header length) = length := by
  rw [announced, header, List.reverse_reverse, ofLittleEndian_littleEndian fits]

theorem checkLength_eq_ok_iff {length : Nat} :
    checkLength length = .ok () ↔ 1 ≤ length ∧ length ≤ maxPayload + 1 := by
  unfold checkLength
  split
  case isTrue zero => exact ⟨nofun, fun bounds => by omega⟩
  case isFalse nonzero =>
    split
    case isTrue large => exact ⟨nofun, fun bounds => by omega⟩
    case isFalse fits => exact ⟨fun _ => by omega, fun _ => rfl⟩

/-! ### Tag and payload -/

/-- A message is found exactly where its tag stands and its payload comes first. -/
theorem message_eq_ok_iff (faithful : (Message.layout (M := M)).Faithful) {tag : UInt8}
    {content : Bytes} {found : M} (short : content.length < UInt64.size) :
    message tag content = .ok found ↔ Message.tag found = tag ∧ payload found <+: content := by
  unfold message
  constructor
  · intro read
    cases accepted : (Message.layout (M := M)).read content with
    | error fault =>
      rw [accepted] at read
      cases read
    | ok result =>
      rw [accepted] at read
      obtain ⟨value, rest⟩ := result
      dsimp only at read
      split at read
      case isFalse => cases read
      case isTrue tagged =>
        cases read
        exact ⟨tagged, rest, (faithful.written accepted).symm⟩
  · rintro ⟨tagged, rest, rfl⟩
    have size : (payload found).length < UInt64.size := by
      rw [List.length_append] at short
      omega
    have accepted : (Message.layout (M := M)).read (payload found ++ rest) = .ok (found, rest) :=
      faithful.yields found size rest
    rw [accepted]
    exact if_pos tagged

/-! ### Frames -/

/-- `data` begins with a frame of `size` bytes that holds `found`: four bytes that
announce the length of the rest of the frame, the tag, and a part that starts with the
payload. -/
structure Begins (data : Bytes) (found : M) (size : Nat) : Prop where
  withTag : 5 ≤ data.length
  size_eq : size = 4 + bigEndian (data.take 4)
  notEmpty : 1 ≤ bigEndian (data.take 4)
  notTooLarge : bigEndian (data.take 4) ≤ maxPayload + 1
  whole : size ≤ data.length
  tagged : data[4]? = some (Message.tag found)
  content : payload found <+: (data.take size).drop 5

/-- The reader of frames step by step, where the bytes suffice for a length and a tag. -/
theorem decode_cons (b₀ b₁ b₂ b₃ tag : UInt8) (rest : Bytes) :
    decode (M := M) (b₀ :: b₁ :: b₂ :: b₃ :: tag :: rest) =
      match checkLength (announced [b₀, b₁, b₂, b₃]) with
      | .error error => .error error
      | .ok _ =>
        if rest.length + 1 < announced [b₀, b₁, b₂, b₃] then
          .error (.framing (.incomplete (rest.length + 5) (announced [b₀, b₁, b₂, b₃] + 4)))
        else
          (message tag (rest.take (announced [b₀, b₁, b₂, b₃] - 1))).map
            fun found => (found, announced [b₀, b₁, b₂, b₃] + 4) := by
  simp only [decode]
  generalize announced [b₀, b₁, b₂, b₃] = length
  cases checkLength length with
  | error error => rfl
  | ok =>
    by_cases cut : rest.length + 1 < length
    case pos =>
      rw [if_pos cut]
      exact if_pos (by simp only [List.length_cons]; omega)
    case neg =>
      rw [if_neg cut]
      refine (if_neg (by simp only [List.length_cons]; omega)).trans ?_
      cases message (M := M) tag (rest.take (length - 1)) <;> rfl

theorem decode_cons_eq_ok_iff {b₀ b₁ b₂ b₃ tag : UInt8} {rest : Bytes} {found : M} {size : Nat} :
    decode (b₀ :: b₁ :: b₂ :: b₃ :: tag :: rest) = .ok (found, size) ↔
      checkLength (announced [b₀, b₁, b₂, b₃]) = .ok () ∧
        announced [b₀, b₁, b₂, b₃] ≤ rest.length + 1 ∧
        message tag (rest.take (announced [b₀, b₁, b₂, b₃] - 1)) = .ok found ∧
        size = announced [b₀, b₁, b₂, b₃] + 4 := by
  rw [decode_cons]
  generalize announced [b₀, b₁, b₂, b₃] = length
  cases checkLength length with
  | error error => exact ⟨nofun, fun read => by cases read.1⟩
  | ok =>
    dsimp only
    split
    case isTrue cut => exact ⟨nofun, fun read => by omega⟩
    case isFalse enough =>
      cases message (M := M) tag (rest.take (length - 1)) with
      | error error => exact ⟨nofun, fun read => by cases read.2.2.1⟩
      | ok value =>
        constructor
        · intro read
          cases read
          exact ⟨rfl, by omega, rfl, rfl⟩
        · rintro ⟨-, -, same, rfl⟩
          cases same
          rfl

/-- A frame is accepted exactly where there is one. -/
theorem decode_eq_ok_iff (faithful : (Message.layout (M := M)).Faithful) {data : Bytes} {found : M}
    {size : Nat} : decode data = .ok (found, size) ↔ Begins data found size := by
  match data with
  | b₀ :: b₁ :: b₂ :: b₃ :: tag :: rest =>
    have length_eq : bigEndian ((b₀ :: b₁ :: b₂ :: b₃ :: tag :: rest).take 4) =
        announced [b₀, b₁, b₂, b₃] := (announced_eq_bigEndian _).symm
    rw [decode_cons_eq_ok_iff, checkLength_eq_ok_iff]
    generalize announced [b₀, b₁, b₂, b₃] = length at length_eq
    have small (bounded : length ≤ maxPayload + 1) : (rest.take (length - 1)).length < UInt64.size := by
      have limit : maxPayload + 1 < UInt64.size := by decide
      rw [List.length_take]
      omega
    have inside : ((b₀ :: b₁ :: b₂ :: b₃ :: tag :: rest).take (4 + length)).drop 5 =
        rest.take (length - 1) := by
      match length with
      | 0 => rfl
      | length + 1 => rw [Nat.add_comm 4]; rfl
    constructor
    · rintro ⟨⟨notEmpty, notTooLarge⟩, whole, read, rfl⟩
      obtain ⟨tagged, content⟩ := (message_eq_ok_iff faithful (small notTooLarge)).mp read
      refine ⟨Nat.le_add_left 5 _, ?_, ?_, ?_, ?_, ?_, ?_⟩
      · rw [length_eq, Nat.add_comm]
      · rwa [length_eq]
      · rwa [length_eq]
      · simp only [List.length_cons]
        omega
      · exact congrArg some tagged.symm
      · rwa [Nat.add_comm, inside]
    · intro frame
      obtain ⟨-, rfl, notEmpty, notTooLarge, whole, tagged, content⟩ := frame
      rw [length_eq] at notEmpty notTooLarge whole content ⊢
      rw [inside] at content
      simp only [List.length_cons] at whole
      have same : Message.tag found = tag := (Option.some.inj tagged).symm
      have read := (message_eq_ok_iff faithful (small notTooLarge)).mpr ⟨same, content⟩
      exact ⟨⟨notEmpty, notTooLarge⟩, by omega, read, Nat.add_comm ..⟩
  | [] | [_] | [_, _] | [_, _, _] | [_, _, _, _] =>
    constructor
    · intro read
      cases read
    · intro frame
      have withTag := frame.withTag
      simp only [List.length_cons, List.length_nil] at withTag
      omega

theorem encode_eq_ok_iff {found : M} {frame : Bytes} :
    encode found = .ok frame ↔ (payload found).length ≤ maxPayload ∧
      frame = header ((payload found).length + 1) ++ Message.tag found :: payload found := by
  simp only [encode]
  split
  case isTrue large => exact ⟨nofun, fun written => by omega⟩
  case isFalse fits =>
    rw [Except.ok.injEq]
    exact ⟨fun written => ⟨by omega, written.symm⟩, fun written => written.2.symm⟩

/-- A message has a frame exactly if its payload is not too large. -/
theorem exists_encode_iff {found : M} :
    (∃ frame, encode found = .ok frame) ↔ (payload found).length ≤ maxPayload := by
  constructor
  · rintro ⟨frame, written⟩
    exact (encode_eq_ok_iff.mp written).1
  · intro fits
    exact ⟨_, encode_eq_ok_iff.mpr ⟨fits, rfl⟩⟩

/-- Bytes that start with the frame of a message begin with a frame that holds it. -/
theorem begins_of_encode {found : M} {frame : Bytes} (written : encode found = .ok frame)
    (rest : Bytes) : Begins (frame ++ rest) found frame.length := by
  obtain ⟨fits, rfl⟩ := encode_eq_ok_iff.mp written
  have limit : maxPayload + 1 < UInt32.size := by decide
  have length_eq : bigEndian ((header ((payload found).length + 1) ++
      Message.tag found :: payload found ++ rest).take 4) = (payload found).length + 1 := by
    rw [List.append_assoc, List.take_left' (length_header _), ← announced_eq_bigEndian]
    exact announced_header (by omega)
  refine ⟨?_, ?_, ?_, ?_, ?_, ?_, ?_⟩
  · simp only [List.length_append, List.length_cons, length_header]
    omega
  · rw [length_eq]
    simp only [List.length_append, List.length_cons, length_header]
  · omega
  · omega
  · simp only [List.length_append]
    omega
  · rw [List.append_assoc, List.getElem?_append_right (Nat.le_of_eq (length_header _)), length_header]
    rfl
  · rw [List.take_left, List.drop_append, List.drop_eq_nil_of_le (by rw [length_header]; decide),
      length_header]
    exact List.prefix_rfl

end Frame

namespace Family

/-- Bytes that begin with a frame of a family tell the family. -/
theorem ofTag?_of_begins {family : Family} {data : Bytes} {found : family.Carried} {size : Nat}
    (frame : Frame.Begins data found size) : data[4]?.bind ofTag? = some family := by
  rw [frame.tagged]
  exact ofTag?_tag found

/-- In every family: a frame is accepted exactly where the bytes begin with one, and as
the message it holds; a message has a frame exactly if its payload is not too large, and
that frame is accepted as this message, whatever follows; and what is accepted in one
family is accepted in no other. -/
theorem frame_grammar :
    (∀ (family : Family) (data : Bytes) (found : family.Carried) (size : Nat),
      Frame.decode data = .ok (found, size) ↔ Frame.Begins data found size) ∧
    (∀ (family : Family) (message : family.Carried),
      ((∃ frame, Frame.encode message = .ok frame) ↔
        (Frame.payload message).length ≤ maxPayload) ∧
      ∀ frame, Frame.encode message = .ok frame →
        ∀ rest, Frame.decode (frame ++ rest) = .ok (message, frame.length)) ∧
    (∀ (data : Bytes) (family other : Family) (found : family.Carried) (size : Nat)
      (foundOther : other.Carried) (sizeOther : Nat),
      Frame.decode data = .ok (found, size) →
        Frame.decode data = .ok (foundOther, sizeOther) → family = other) := by
  refine ⟨fun family _ _ _ => Frame.decode_eq_ok_iff family.faithful, ?_, ?_⟩
  · intro family message
    refine ⟨Frame.exists_encode_iff, fun frame written rest => ?_⟩
    exact (Frame.decode_eq_ok_iff family.faithful).mpr (Frame.begins_of_encode written rest)
  · intro data family other found size foundOther sizeOther here there
    have ofFamily := ofTag?_of_begins ((Frame.decode_eq_ok_iff family.faithful).mp here)
    have ofOther := ofTag?_of_begins ((Frame.decode_eq_ok_iff other.faithful).mp there)
    rw [ofFamily] at ofOther
    exact Option.some.inj ofOther

/-- Two bytes after the payload belong to the frame and change nothing. -/
example : Frame.decode [0, 0, 0, 7, 202, 1, 0, 0, 0, 9, 9] = .ok (CallbackMessage.ack, 11) :=
  rfl

end Family

end CacheDirectory.Wire
