/-
Module: CacheDirectory.Wire.Frame
Purpose: Messages in frames: the length of tag and payload as four bytes, highest
  first, then the tag, then the payload. Frames are read in two ways, from bytes
  that are all there and from a stream that ends somewhere.
Trusted boundary: none
Main exports: Frame.encode, Frame.decode, Frame.next, Frame.nextAtEnd,
  Frame.encodeAll, Frame.readAll
-/
import CacheDirectory.Wire.Message

namespace CacheDirectory.Wire.Frame

variable {M : Type} [Message M]

/-- The four bytes of a length, the highest first. -/
def header (length : Nat) : Bytes :=
  (littleEndian 4 length).reverse

/-- The length that four bytes announce. -/
def announced (header : Bytes) : Nat :=
  ofLittleEndian header.reverse

/-- The payload of a message. -/
def payload (message : M) : Bytes :=
  Message.layout.write message

/-- The frame of a message, if its payload is not too large. -/
def encode (message : M) : Except ProtocolError Bytes :=
  let content := payload message
  let size := content.length
  if maxPayload < size then .error (.messageTooLarge size)
  else .ok (header (size + 1) ++ Message.tag message :: content)

/-- An announced length counts the tag and a payload that is not too large. -/
def checkLength (length : Nat) : Except ProtocolError Unit :=
  if length = 0 then .error (.framing .zeroLength)
  else if maxPayload < length - 1 then .error (.messageTooLarge (length - 1))
  else .ok ()

/-- The message with a tag and a payload. Bytes of the payload after the message
are ignored; the tag has to be that of the message. -/
def message (tag : UInt8) (content : Bytes) : Except ProtocolError M :=
  match (Message.layout (M := M)).read content with
  | .error fault => .error (.payload fault)
  | .ok (found, _) =>
    if Message.tag found = tag then .ok found
    else .error (.framing (.wrongTag tag (Message.typeName found) (Message.tag found)))

/-- The message in the frame at the start of `bytes`, and the length of that
frame. -/
def decode (bytes : Bytes) : Except ProtocolError (M × Nat) := do
  match bytes with
  | b₀ :: b₁ :: b₂ :: b₃ :: tag :: rest =>
    let length := announced [b₀, b₁, b₂, b₃]
    checkLength length
    let size := bytes.length
    if size < length + 4 then throw (.framing (.incomplete size (length + 4)))
    let found ← message tag (rest.take (length - 1))
    return (found, length + 4)
  | _ => throw (.framing .tooShort)

/-- What the unread bytes of a stream begin with. -/
inductive Incoming (M : Type) where
  /-- A whole frame and what follows it. -/
  | message (found : M) (rest : Bytes)
  /-- Not even a whole length; the stream may end here. -/
  | betweenFrames
  /-- The start of a frame. -/
  | withinFrame
  /-- A frame that holds no message, or a length that no frame has, and what
  follows it. -/
  | broken (error : ProtocolError) (rest : Bytes)
deriving Inhabited

/-- Look for a frame at the start of the unread bytes of a stream. -/
def next (unread : Bytes) : Incoming M :=
  match unread.splitAt 4 with
  | ([b₀, b₁, b₂, b₃], afterLength) =>
    let length := announced [b₀, b₁, b₂, b₃]
    match checkLength length with
    | .error error => .broken error afterLength
    | .ok () =>
      match afterLength.splitAt length with
      | (tag :: content, rest) =>
        if content.length + 1 < length then .withinFrame
        else
          match message tag content with
          | .ok found => .message found rest
          | .error error => .broken error rest
      | ([], _) => .withinFrame
  | _ => .betweenFrames

/-- The next message of a stream that holds nothing after the unread bytes, and
what is then left; nothing at the end of the stream. -/
def nextAtEnd (unread : Bytes) : Except ProtocolError (Option (M × Bytes)) :=
  match next unread with
  | .message found rest => .ok (some (found, rest))
  | .betweenFrames => .ok none
  | .withinFrame => .error (.connection .earlyEnd)
  | .broken error _ => .error error

/-- The frames of several messages, up to the first that has none: how many
there are, their bytes, and why they stop. -/
def encodeAll : List M → Nat × Bytes × Option ProtocolError
  | [] => (0, [], none)
  | first :: rest =>
    match encode first with
    | .error error => (0, [], some error)
    | .ok frame =>
      let (count, frames, stopped) := encodeAll rest
      (count + 1, frame ++ frames, stopped)

/-- Whole frames leave less to read. -/
theorem length_lt_of_next {unread rest : Bytes} {found : M}
    (read : next unread = .message found rest) : rest.length < unread.length := by
  unfold next at read
  simp only [List.splitAt_eq] at read
  split at read
  next b₀ b₁ b₂ b₃ afterLength parts =>
    obtain ⟨front, rfl⟩ := Prod.mk.inj parts
    have four := congrArg List.length front
    simp only [List.length_take, List.length_cons, List.length_nil] at four
    split at read
    next => cases read
    next =>
      split at read
      next tag content left pieces =>
        obtain ⟨-, rfl⟩ := Prod.mk.inj pieces
        split at read
        next => cases read
        next =>
          split at read
          next =>
            cases read
            simp only [List.length_drop]
            omega
          next => cases read
      next => cases read
  next => cases read

/-- All messages of a stream, and why reading stopped: the end of the stream or
a failure. -/
def readAll (stream : Bytes) : List M × Option ProtocolError :=
  match _read : next (M := M) stream with
  | .message found rest =>
    let (later, stopped) := readAll rest
    (found :: later, stopped)
  | .betweenFrames => ([], none)
  | .withinFrame => ([], some (.connection .earlyEnd))
  | .broken error _ => ([], some error)
termination_by stream.length
decreasing_by exact length_lt_of_next _read

end CacheDirectory.Wire.Frame
