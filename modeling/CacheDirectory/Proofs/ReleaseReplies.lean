/-
Module: CacheDirectory.Proofs.ReleaseReplies
Purpose: What the server makes of a node's reply to a release request. Of the replies that
  are there in full and wrong only another release request is called malformed; those that
  hold no message at all count like a node that is out of reach.
Trusted boundary: none
Main exports: Frame.Framed, Frame.Fault, Frame.nextAtEnd_eq_error_iff, Classified,
  requestRelease_classified
-/
import CacheDirectory.Connection.Callback
import CacheDirectory.Proofs.ReaderAgreement

namespace CacheDirectory

open Wire

namespace Wire.Frame

/-! ### Frames that hold no message -/

/-- `stream` begins with a whole frame of a valid length, which holds a tag and a content. -/
structure Framed (stream : Bytes) (tag : UInt8) (content : Bytes) : Prop where
  length_eq : bigEndian (stream.take 4) = content.length + 1
  notTooLarge : content.length ≤ maxPayload
  start : stream.take 4 ++ tag :: content <+: stream

theorem Framed.short {stream : Bytes} {tag : UInt8} {content : Bytes}
    (framed : Framed stream tag content) : content.length < UInt64.size :=
  Nat.lt_of_le_of_lt framed.notTooLarge (by decide)

/-- Why a stream that has begun with a length does not begin with the frame of a message.
The length may be one that no frame has, or the frame may end early; in a whole frame the
content may not be read, or not be that of the tag. -/
inductive Fault (M : Type) [Message M] (stream : Bytes) : ProtocolError → Prop
  | zeroLength (begun : 4 ≤ stream.length) (zero : bigEndian (stream.take 4) = 0) :
    Fault M stream (.framing .zeroLength)
  | tooLarge (begun : 4 ≤ stream.length) (large : maxPayload + 1 < bigEndian (stream.take 4)) :
    Fault M stream (.messageTooLarge (bigEndian (stream.take 4) - 1))
  | cut (begun : 4 ≤ stream.length) (notEmpty : 1 ≤ bigEndian (stream.take 4))
      (notTooLarge : bigEndian (stream.take 4) ≤ maxPayload + 1)
      (missing : stream.length < 4 + bigEndian (stream.take 4)) :
    Fault M stream (.connection .earlyEnd)
  | undecodable {tag : UInt8} {content : Bytes} {fault : PayloadFault}
      (framed : Framed stream tag content)
      (unread : (Message.layout (M := M)).read content = .error fault) :
    Fault M stream (.payload fault)
  | wrongTag {tag : UInt8} {content : Bytes} {found : M} (framed : Framed stream tag content)
      (start : payload found <+: content) (differs : Message.tag found ≠ tag) :
    Fault M stream (.framing (.wrongTag tag (Message.typeName found) (Message.tag found)))

/-- No fault of a frame is a refusal by the server. -/
theorem Fault.isTransport {M : Type} [Message M] {stream : Bytes} {error : ProtocolError}
    (fault : Fault M stream error) : error.isTransport = true := by
  cases fault <;> rfl

section

variable {M : Type} [Message M] {stream : Bytes}

theorem checkLength_of_tooLarge {length : Nat} (large : maxPayload + 1 < length) :
    checkLength length = .error (.messageTooLarge (length - 1)) := by
  rw [checkLength, if_neg (by omega), if_pos (by omega)]

/-- Where there is a length, it tells what is read behind it. -/
theorem nextAtEnd_of_begun (begun : 4 ≤ stream.length) :
    nextAtEnd (M := M) stream =
      match checkLength (bigEndian (stream.take 4)) with
      | .error error => .error error
      | .ok _ =>
        if (stream.drop 4).length < bigEndian (stream.take 4) then .error (.connection .earlyEnd)
        else
          (message ((stream.drop 4).headD 0)
              ((stream.drop 4).tail.take (bigEndian (stream.take 4) - 1))).map
            fun found => some (found, (stream.drop 4).drop (bigEndian (stream.take 4))) := by
  match stream with
  | b₀ :: b₁ :: b₂ :: b₃ :: behind =>
    have length_eq : bigEndian ((b₀ :: b₁ :: b₂ :: b₃ :: behind).take 4) =
        announced [b₀, b₁, b₂, b₃] := (announced_eq_bigEndian _).symm
    have behind_eq : (b₀ :: b₁ :: b₂ :: b₃ :: behind).drop 4 = behind := rfl
    rw [length_eq, behind_eq, nextAtEnd, next_cons]
    cases checkLength (announced [b₀, b₁, b₂, b₃]) with
    | error error => rfl
    | ok =>
      dsimp only [held]
      by_cases cut : behind.length < announced [b₀, b₁, b₂, b₃]
      case pos => rw [if_pos cut, if_pos cut]
      case neg =>
        rw [if_neg cut, if_neg cut]
        cases message (M := M) (behind.headD 0)
          (behind.tail.take (announced [b₀, b₁, b₂, b₃] - 1)) <;> rfl

/-- A frame that is there in full is read by its tag and its content. -/
theorem nextAtEnd_of_framed {tag : UInt8} {content : Bytes} (framed : Framed stream tag content) :
    nextAtEnd (M := M) stream =
      (message tag content).map fun found => some (found, stream.drop (content.length + 5)) := by
  obtain ⟨length_eq, notTooLarge, rest, split⟩ := framed
  have begun : 4 ≤ stream.length := by
    have length := congrArg List.length split
    simp only [List.length_append, List.length_cons, List.length_take] at length
    omega
  have behind : stream.drop 4 = tag :: (content ++ rest) := by
    have whole := (List.take_append_drop 4 stream).trans split.symm
    rw [List.append_assoc] at whole
    exact List.append_cancel_left whole
  have valid : checkLength (content.length + 1) = .ok () :=
    checkLength_eq_ok_iff.mpr ⟨by omega, by omega⟩
  have left : stream.drop (content.length + 5) = rest := by
    rw [Nat.add_comm, show 5 + content.length = 4 + (content.length + 1) by omega,
      ← List.drop_drop, behind, List.drop_succ_cons, List.drop_left]
  rw [nextAtEnd_of_begun begun, length_eq, valid, behind, left]
  simp only [List.length_cons, List.length_append, List.headD_cons, List.tail_cons,
    Nat.add_sub_cancel, List.take_left, List.drop_succ_cons, List.drop_left]
  exact if_neg (by omega)

/-- What can stand behind a length. -/
theorem framed_of_begun (begun : 4 ≤ stream.length) :
    bigEndian (stream.take 4) = 0 ∨ maxPayload + 1 < bigEndian (stream.take 4) ∨
      (1 ≤ bigEndian (stream.take 4) ∧ bigEndian (stream.take 4) ≤ maxPayload + 1 ∧
        stream.length < 4 + bigEndian (stream.take 4)) ∨
      ∃ tag content, Framed stream tag content := by
  by_cases zero : bigEndian (stream.take 4) = 0
  · exact .inl zero
  by_cases large : maxPayload + 1 < bigEndian (stream.take 4)
  · exact .inr (.inl large)
  by_cases missing : stream.length < 4 + bigEndian (stream.take 4)
  · exact .inr (.inr (.inl ⟨by omega, by omega, missing⟩))
  have behind := List.length_drop (i := 4) (l := stream)
  cases split : stream.drop 4 with
  | nil =>
    rw [split, List.length_nil] at behind
    omega
  | cons tag more =>
    rw [split, List.length_cons] at behind
    have whole := List.take_append_drop 4 stream
    rw [split] at whole
    refine .inr (.inr (.inr ⟨tag, more.take (bigEndian (stream.take 4) - 1), ?_, ?_, ?_⟩))
    · rw [List.length_take_of_le (by omega)]
      omega
    · rw [List.length_take_of_le (by omega)]
      omega
    · refine ⟨more.drop (bigEndian (stream.take 4) - 1), ?_⟩
      rw [List.append_assoc, List.cons_append, List.take_append_drop, whole]

variable (faithful : (Message.layout (M := M)).Faithful)

include faithful

/-- A tag and a content that make no message. -/
theorem message_eq_error_iff {tag : UInt8} {content : Bytes} (short : content.length < UInt64.size)
    {error : ProtocolError} :
    message (M := M) tag content = .error error ↔
      (∃ fault, (Message.layout (M := M)).read content = .error fault ∧ error = .payload fault) ∨
      ∃ found : M, payload found <+: content ∧ Message.tag found ≠ tag ∧
        error = .framing (.wrongTag tag (Message.typeName found) (Message.tag found)) := by
  have fits (found : M) (start : payload found <+: content) :
      (payload found).length < UInt64.size := Nat.lt_of_le_of_lt start.length_le short
  unfold message
  cases read : (Message.layout (M := M)).read content with
  | error fault =>
    simp only [Except.error.injEq]
    constructor
    · rintro rfl
      exact .inl ⟨fault, rfl, rfl⟩
    · rintro (⟨_, rfl, rfl⟩ | ⟨found, start, -⟩)
      · rfl
      · obtain ⟨rest, rfl⟩ := start
        cases read.symm.trans (faithful.yields found (fits found ⟨rest, rfl⟩) rest)
  | ok result =>
    obtain ⟨value, rest⟩ := result
    have begins : payload value <+: content := ⟨rest, (faithful.written read).symm⟩
    -- The content starts with the payload of no other message.
    have only (found : M) (start : payload found <+: content) : found = value := by
      obtain ⟨after, rfl⟩ := start
      have again := faithful.yields found (fits found ⟨after, rfl⟩) after
      exact (Prod.mk.inj (Except.ok.inj (again.symm.trans read))).1
    dsimp only
    by_cases tagged : Message.tag value = tag
    case pos =>
      rw [if_pos tagged]
      refine iff_of_false nofun ?_
      rintro (⟨_, unread, -⟩ | ⟨found, start, differs, -⟩)
      · cases unread
      · exact differs (only found start ▸ tagged)
    case neg =>
      rw [if_neg tagged]
      constructor
      · rintro ⟨⟩
        exact .inr ⟨value, begins, tagged, rfl⟩
      · rintro (⟨_, unread, -⟩ | ⟨found, start, -, rfl⟩)
        · cases unread
        · rw [only found start]

theorem nextAtEnd_of_fault {error : ProtocolError} (fault : Fault M stream error) :
    nextAtEnd (M := M) stream = .error error := by
  cases fault with
  | zeroLength begun zero => rw [nextAtEnd_of_begun begun, zero]; rfl
  | tooLarge begun large => rw [nextAtEnd_of_begun begun, checkLength_of_tooLarge large]
  | cut begun notEmpty notTooLarge missing =>
    rw [nextAtEnd_of_begun begun, checkLength_eq_ok_iff.mpr ⟨notEmpty, notTooLarge⟩]
    refine if_pos ?_
    rw [List.length_drop]
    omega
  | @undecodable tag content fault framed unread =>
    have unmade : message (M := M) tag content = .error (.payload fault) :=
      (message_eq_error_iff faithful framed.short).mpr (.inl ⟨fault, unread, rfl⟩)
    rw [nextAtEnd_of_framed framed, unmade]
    rfl
  | wrongTag framed start differs =>
    have unmade := (message_eq_error_iff faithful framed.short).mpr
      (.inr ⟨_, start, differs, rfl⟩)
    rw [nextAtEnd_of_framed framed, unmade]
    rfl

omit faithful in
theorem nextAtEnd_eq_none_iff : nextAtEnd (M := M) stream = .ok none ↔ stream.length < 4 := by
  rw [← next_eq_betweenFrames_iff (M := M), nextAtEnd]
  cases next (M := M) stream with
  | message | betweenFrames | withinFrame | broken => simp

/-- Reading the next message fails exactly where a frame has begun that is not one of a
message, and as it is at fault. -/
theorem nextAtEnd_eq_error_iff {error : ProtocolError} :
    nextAtEnd (M := M) stream = .error error ↔ Fault M stream error := by
  refine ⟨fun failed => ?_, nextAtEnd_of_fault faithful⟩
  have same {other : ProtocolError} (fault : Fault M stream other) : Fault M stream error :=
    Except.error.inj ((nextAtEnd_of_fault faithful fault).symm.trans failed) ▸ fault
  by_cases begun : 4 ≤ stream.length
  case neg =>
    rw [(nextAtEnd_eq_none_iff (M := M)).mpr (Nat.lt_of_not_le begun)] at failed
    cases failed
  obtain zero | large | ⟨notEmpty, notTooLarge, missing⟩ | ⟨tag, content, framed⟩ :=
    framed_of_begun begun
  · exact same (.zeroLength begun zero)
  · exact same (.tooLarge begun large)
  · exact same (.cut begun notEmpty notTooLarge missing)
  · rw [nextAtEnd_of_framed framed] at failed
    cases made : message (M := M) tag content with
    | ok found =>
      rw [made] at failed
      cases failed
    | error error =>
      obtain ⟨fault, unread, -⟩ | ⟨found, start, differs, -⟩ :=
        (message_eq_error_iff faithful framed.short).mp made
      · exact same (.undecodable framed unread)
      · exact same (.wrongTag framed start differs)

theorem nextAtEnd_eq_begins_iff {found : M} {rest : Bytes} :
    nextAtEnd stream = .ok (some (found, rest)) ↔
      ∃ size, Begins stream found size ∧ rest = stream.drop size := by
  simp only [nextAtEnd_eq_some_iff, next_eq_message_iff, decode_eq_ok_iff faithful]

end

end Wire.Frame

/-! ### What a reply means -/

/-- The server has not heard a node out: it closed the connection before a length was sent,
or has sent what is no frame of a message. -/
inductive Unheard (answer : Bytes) : ProtocolError → Prop
  | closed (short : answer.length < 4) : Unheard answer (.framing .closedBeforeReply)
  | faulty {error : ProtocolError} (fault : Frame.Fault CallbackMessage answer error) :
    Unheard answer error

/-- A release request is judged by the first frame of the answer. -/
structure Classified (answer : Bytes) (result : Except CallbackError Unit) : Prop where
  acknowledged : result = .ok () ↔ ∃ size, Frame.Begins answer CallbackMessage.ack size
  refused : ∀ reason, result = .error (.refused reason) ↔
    ∃ size, Frame.Begins answer (CallbackMessage.refused reason) size
  malformed : ∀ detail, result = .error (.malformed detail) ↔
    detail = "unexpected Release reply" ∧
      ∃ key kind size, Frame.Begins answer (CallbackMessage.release key kind) size
  unreachable : ∀ detail, result = .error (.unreachable detail) ↔
    ∃ error, Unheard answer error ∧ detail = error.message

theorem CallbackError.ofExchange_of_isTransport {error : ProtocolError}
    (transport : error.isTransport = true) :
    CallbackError.ofExchange error = .unreachable error.message :=
  if_pos transport

/-- Whatever an exchange fails of, the node counts as out of reach. -/
theorem releaseVerdict_eq (answer : Bytes) :
    releaseVerdict answer =
      match Frame.nextAtEnd (M := CallbackMessage) answer with
      | .ok (some (reply, _)) => reply.verdict
      | .ok none => .error (.unreachable (ProtocolError.framing .closedBeforeReply).message)
      | .error error => .error (.unreachable error.message) := by
  unfold releaseVerdict
  cases read : Frame.nextAtEnd (M := CallbackMessage) answer with
  | ok found => cases found <;> rfl
  | error error =>
    have fault := (Frame.nextAtEnd_eq_error_iff CallbackMessage.faithful).mp read
    dsimp only
    rw [CallbackError.ofExchange_of_isTransport fault.isTransport]

theorem exists_begins_iff {answer : Bytes} {found : CallbackMessage} :
    (∃ size, Frame.Begins answer found size) ↔
      ∃ rest, Frame.nextAtEnd answer = .ok (some (found, rest)) := by
  simp only [Frame.nextAtEnd_eq_begins_iff CallbackMessage.faithful]
  exact ⟨fun ⟨size, begins⟩ => ⟨_, size, begins, rfl⟩, fun ⟨_, size, begins, _⟩ => ⟨size, begins⟩⟩

theorem unheard_iff {answer : Bytes} {error : ProtocolError} :
    Unheard answer error ↔
      Frame.nextAtEnd (M := CallbackMessage) answer = .ok none ∧
          error = .framing .closedBeforeReply ∨
        Frame.nextAtEnd (M := CallbackMessage) answer = .error error := by
  rw [Frame.nextAtEnd_eq_none_iff, Frame.nextAtEnd_eq_error_iff CallbackMessage.faithful]
  constructor
  · rintro (short | fault)
    · exact .inl ⟨short, rfl⟩
    · exact .inr fault
  · rintro (⟨short, rfl⟩ | fault)
    · exact .closed short
    · exact .faulty fault

theorem verdict_ack : CallbackMessage.ack.verdict = .ok () := rfl

theorem verdict_refused (reason : String) :
    (CallbackMessage.refused reason).verdict = .error (.refused reason) := rfl

theorem verdict_release (key : Key) (kind : Release) :
    (CallbackMessage.release key kind).verdict = .error (.malformed "unexpected Release reply") :=
  rfl

theorem classified_releaseVerdict (answer : Bytes) :
    Classified answer (releaseVerdict answer) := by
  rw [releaseVerdict_eq]
  cases read : Frame.nextAtEnd (M := CallbackMessage) answer with
  | error error =>
    refine ⟨?_, fun reason => ?_, fun detail => ?_, fun detail => ?_⟩ <;>
      simp [exists_begins_iff, unheard_iff, read, eq_comm]
  | ok found =>
    match found with
    | none | some (.release _ _, _) | some (.ack, _) | some (.refused _, _) =>
      refine ⟨?_, fun reason => ?_, fun detail => ?_, fun detail => ?_⟩ <;>
        simp [exists_begins_iff, unheard_iff, read, verdict_ack, verdict_refused, verdict_release,
          eq_comm]

theorem requestRelease_of_sent {host : Host} {address : String} {key : Key} {kind : Release}
    {peer : Bytes → Bytes} {frame : Bytes} (dialled : host.dial address = .ok ())
    (sent : Frame.encode (CallbackMessage.release key kind) = .ok frame) :
    (requestRelease host address key kind peer).1 = releaseVerdict (peer frame) := by
  simp only [requestRelease, dialled, sent]

/-- Whatever the network, the key and the bytes that the node sends before it closes the
connection: if the node cannot be dialled, or the request has no frame, it counts as out of
reach; otherwise what it sends is classified. -/
theorem requestRelease_classified (host : Host) (address : String) (key : Key) (kind : Release)
    (peer : Bytes → Bytes) :
    let result := (requestRelease host address key kind peer).1
    (∀ failure, host.dial address = .error failure →
      result = .error (.unreachable (ProtocolError.connection failure).message)) ∧
    (host.dial address = .ok () →
      (∀ error, Frame.encode (CallbackMessage.release key kind) = .error error →
        result = .error (.unreachable error.message)) ∧
      ∀ frame, Frame.encode (CallbackMessage.release key kind) = .ok frame →
        Classified (peer frame) result) := by
  refine ⟨fun failure undialled => ?_, fun dialled => ⟨fun error unsent => ?_, fun frame sent => ?_⟩⟩
  · rw [requestRelease, undialled]
    rfl
  · have tooLarge : error.isTransport = true := by
      simp only [Frame.encode] at unsent
      split at unsent <;> cases unsent
      rfl
    simp only [requestRelease, dialled, unsent, CallbackError.ofExchange_of_isTransport tooLarge]
  · rw [requestRelease_of_sent dialled sent]
    exact classified_releaseVerdict (peer frame)

/-- Answers that are there in full and hold no reply: two lengths that no frame has, a content
that is no message, and an acknowledgement under another tag. A node that sends one of them
has been reached, and is said to be out of reach. -/
theorem wrong_answers_unreachable :
    [[0, 0, 0, 0], [1, 0, 0, 2], [0, 0, 0, 5, 202, 9, 0, 0, 0], [0, 0, 0, 5, 201, 1, 0, 0, 0]].map
        (fun answer => (requestRelease {} "127.0.0.1:80" (.object 7) .evict fun _ => answer).1) =
      [.framing .zeroLength, .messageTooLarge 16777217, .payload (.invalidVariant 9 3),
        .framing (.wrongTag 201 "Ack" 202)].map
          fun error => .error (.unreachable (ProtocolError.message error)) := rfl

end CacheDirectory
