/-
Module: CacheDirectory.Proofs.ReleaseSessions
Purpose: A node answers the release requests of a connection one for one: every whole
  message gets one reply, in order, and the node acts on nothing but the requests. At the
  other end of such a connection the server is told what the node has made of its request.
Trusted boundary: none
Main exports: Frame.Row, Frame.Longest, Answered, ReleaseHandler.logged,
  answerReleases_of_row, releases_answered
-/
import CacheDirectory.Proofs.ReleaseReplies

namespace CacheDirectory

open Wire

namespace Wire.Frame

variable {M : Type} [Message M]

/-! ### Whole frames in a row -/

/-- A stream is a row of whole frames that hold these messages, and what is left behind
them. -/
inductive Row : Bytes → List M → Bytes → Prop
  | nil (rest : Bytes) : Row rest [] rest
  | cons {stream rest : Bytes} {first : M} {size : Nat} {later : List M}
      (begins : Begins stream first size) (row : Row (stream.drop size) later rest) :
    Row stream (first :: later) rest

/-- The row cannot be continued. -/
structure Longest (stream : Bytes) (messages : List M) (rest : Bytes) : Prop where
  row : Row stream messages rest
  ends : ∀ (message : M) (size : Nat), ¬ Begins rest message size

theorem Begins.unique (faithful : (Message.layout (M := M)).Faithful) {stream : Bytes}
    {one other : M} {size size' : Nat} (here : Begins stream one size)
    (there : Begins stream other size') : one = other ∧ size = size' := by
  rw [← decode_eq_ok_iff faithful] at here there
  exact Prod.mk.inj (Except.ok.inj (here.symm.trans there))

namespace Longest

variable {stream rest rest' : Bytes} {messages messages' : List M}

theorem unique (faithful : (Message.layout (M := M)).Faithful)
    (one : Longest stream messages rest) (other : Longest stream messages' rest') :
    messages = messages' ∧ rest = rest' := by
  obtain ⟨row, ends⟩ := one
  obtain ⟨row', ends'⟩ := other
  induction row generalizing messages' with
  | nil =>
    cases row' with
    | nil => exact ⟨rfl, rfl⟩
    | cons begins => exact absurd begins (ends _ _)
  | cons begins row ih =>
    cases row' with
    | nil => exact absurd begins (ends' _ _)
    | cons begins' row' =>
      obtain ⟨rfl, rfl⟩ := begins.unique faithful begins'
      obtain ⟨rfl, rfl⟩ := ih ends row'
      exact ⟨rfl, rfl⟩

end Longest

theorem exists_longest (stream : Bytes) :
    ∃ (messages : List M) (rest : Bytes), Longest stream messages rest := by
  by_cases begins : ∃ (first : M) (size : Nat), Begins stream first size
  case neg =>
    exact ⟨[], stream, .nil stream, fun message size begun => begins ⟨message, size, begun⟩⟩
  obtain ⟨first, size, begins⟩ := begins
  have shorter : stream.length - size < stream.length := by
    have size_eq := begins.size_eq
    have withTag := begins.withTag
    omega
  obtain ⟨messages, rest, row, ends⟩ := exists_longest (stream.drop size)
  exact ⟨first :: messages, rest, .cons begins row, ends⟩
termination_by stream.length

end Wire.Frame

/-! ### One reply to each message -/

/-- The key that is asked for and how it is to be released, if anything is asked for. -/
def Wire.CallbackMessage.asked : CallbackMessage → Option (Key × Release)
  | .release key kind => some (key, kind)
  | _ => none

section

variable {H : Type}

/-- The replies to messages, and the node behind them. A release request is acknowledged if
the node has done as it was asked, and refused with the words of its failure if it has
not. Anything else is refused, and does not concern the node. -/
inductive Answered (handle : ReleaseHandler H) :
    H → List CallbackMessage → List CallbackMessage → H → Prop
  | nil (node : H) : Answered handle node [] [] node
  | acknowledged {node next final : H} {key : Key} {kind : Release}
      {messages replies : List CallbackMessage}
      (released : handle node key kind = (.ok (), next))
      (later : Answered handle next messages replies final) :
    Answered handle node (.release key kind :: messages) (.ack :: replies) final
  | refused {node next final : H} {key : Key} {kind : Release} {error : CallbackError}
      {messages replies : List CallbackMessage}
      (failed : handle node key kind = (.error error, next))
      (later : Answered handle next messages replies final) :
    Answered handle node (.release key kind :: messages) (.refused error.message :: replies) final
  | unasked {node final : H} {message : CallbackMessage} {messages replies : List CallbackMessage}
      (nothing : message.asked = none)
      (later : Answered handle node messages replies final) :
    Answered handle node (message :: messages)
      (.refused ("unexpected " ++ Message.typeName message) :: replies) final

/-- The same node, of which it is written down what it has been asked. -/
def ReleaseHandler.logged (handle : ReleaseHandler H) :
    ReleaseHandler (H × List (Key × Release)) := fun (node, log) key kind =>
  ((handle node key kind).1, (handle node key kind).2, log ++ [(key, kind)])

namespace Answered

variable {handle : ReleaseHandler H} {node final : H} {messages replies : List CallbackMessage}

theorem exists_answered (handle : ReleaseHandler H) (node : H) (messages : List CallbackMessage) :
    ∃ replies final, Answered handle node messages replies final := by
  induction messages generalizing node with
  | nil => exact ⟨[], node, .nil node⟩
  | cons first later ih =>
    cases asked : first.asked with
    | none =>
      obtain ⟨replies, final, answered⟩ := ih node
      exact ⟨_, final, .unasked asked answered⟩
    | some request =>
      cases first with
      | ack | refused => cases asked
      | release key kind =>
        obtain ⟨replies, final, answered⟩ := ih (handle node key kind).2
        cases outcome : (handle node key kind).1 with
        | ok => exact ⟨_, final, .acknowledged (Prod.ext outcome rfl) answered⟩
        | error error => exact ⟨_, final, .refused (Prod.ext outcome rfl) answered⟩

theorem length_eq (answered : Answered handle node messages replies final) :
    replies.length = messages.length := by
  induction answered with
  | nil => rfl
  | acknowledged _ _ ih | refused _ _ ih | unasked _ _ ih => exact congrArg (· + 1) ih

/-- What is done with the first of several messages. -/
theorem reply_first {first : CallbackMessage}
    (answered : Answered handle node (first :: messages) replies final) :
    ∃ reply next later, releaseReply handle node first = (reply, next) ∧
      replies = reply :: later ∧ Answered handle next messages later final := by
  cases answered with
  | acknowledged released later =>
    exact ⟨_, _, _, by rw [releaseReply, released], rfl, later⟩
  | refused failed later => exact ⟨_, _, _, by rw [releaseReply, failed], rfl, later⟩
  | unasked nothing later =>
    refine ⟨_, _, _, ?_, rfl, later⟩
    cases first with
    | release => cases nothing
    | ack | refused => rfl

/-- The node is asked for exactly what the release requests ask for, in order. -/
theorem logged (answered : Answered handle node messages replies final)
    (log : List (Key × Release)) :
    Answered handle.logged (node, log) messages replies
      (final, log ++ messages.filterMap CallbackMessage.asked) := by
  induction answered generalizing log with
  | nil node =>
    rw [List.filterMap_nil, List.append_nil]
    exact .nil (node, log)
  | @acknowledged node next final key kind _ _ released _ ih =>
    rw [List.filterMap_cons_some (f := CallbackMessage.asked) rfl, List.append_cons]
    refine .acknowledged ?_ (ih (log ++ [(key, kind)]))
    rw [ReleaseHandler.logged, released]
  | @refused node next final key kind _ _ _ failed _ ih =>
    rw [List.filterMap_cons_some (f := CallbackMessage.asked) rfl, List.append_cons]
    refine .refused ?_ (ih (log ++ [(key, kind)]))
    rw [ReleaseHandler.logged, failed]
  | unasked nothing _ ih =>
    rw [List.filterMap_cons_none nothing]
    exact .unasked nothing (ih log)

end Answered

/-! ### A whole connection -/

variable {handle : ReleaseHandler H} {node : H}

/-- One message whose reply can be sent. -/
theorem answerReleases_of_begins {stream : Bytes} {message reply : CallbackMessage} {size : Nat}
    {next : H} {frame : Bytes} (begins : Frame.Begins stream message size)
    (answer : releaseReply handle node message = (reply, next))
    (sent : Frame.encode reply = .ok frame) :
    answerReleases handle node stream =
      { answerReleases handle next (stream.drop size) with
        replies := reply :: (answerReleases handle next (stream.drop size)).replies } := by
  have read : Frame.next stream = .message message (stream.drop size) :=
    Frame.nextAtEnd_eq_some_iff.mp
      ((Frame.nextAtEnd_eq_begins_iff CallbackMessage.faithful).mpr ⟨size, begins, rfl⟩)
  rw [answerReleases]
  split
  case h_1 found rest front =>
    cases read.symm.trans front
    simp only [answer, sent]
  case h_2 front | h_3 front | h_4 front => cases read.symm.trans front

theorem answerReleases_of_none {stream : Bytes}
    (read : Frame.nextAtEnd (M := CallbackMessage) stream = .ok none) :
    answerReleases handle node stream = { node } := by
  rw [Frame.nextAtEnd] at read
  rw [answerReleases]
  split <;> rename_i front <;> rw [front] at read <;> cases read

theorem answerReleases_of_error {stream : Bytes} {error : ProtocolError}
    (read : Frame.nextAtEnd (M := CallbackMessage) stream = .error error) :
    answerReleases handle node stream = { node, failure := some error } := by
  rw [Frame.nextAtEnd] at read
  rw [answerReleases]
  split <;> rename_i front <;> rw [front] at read <;> cases read
  case h_3 | h_4 => rfl

/-- As long as there are whole messages and their replies can be sent, a connection goes on
behind them as one that begins there. -/
theorem answerReleases_of_row {stream rest : Bytes} {messages replies : List CallbackMessage}
    {final : H} (row : Frame.Row stream messages rest)
    (answered : Answered handle node messages replies final)
    (fit : ∀ reply ∈ replies, ∃ frame, Frame.encode reply = .ok frame) :
    answerReleases handle node stream =
      { answerReleases handle final rest with
        replies := replies ++ (answerReleases handle final rest).replies } := by
  induction row generalizing node replies with
  | nil rest =>
    cases answered
    rfl
  | cons begins row ih =>
    obtain ⟨reply, next, later, answer, rfl, following⟩ := answered.reply_first
    obtain ⟨frame, sent⟩ := fit reply List.mem_cons_self
    rw [answerReleases_of_begins begins answer sent,
      ih following fun reply among => fit reply (List.mem_cons_of_mem _ among)]
    rfl

/-- Where no message begins nothing more is answered. -/
theorem answerReleases_of_ends {rest : Bytes}
    (ends : ∀ (message : CallbackMessage) (size : Nat), ¬ Frame.Begins rest message size) :
    ∃ failure, (∀ {H : Type} (handle : ReleaseHandler H) (node : H),
        answerReleases handle node rest = { node, failure }) ∧
      (failure = none ↔ rest.length < 4) ∧
      ∀ error, failure = some error ↔ Frame.Fault CallbackMessage rest error := by
  rw [← Frame.nextAtEnd_eq_none_iff (M := CallbackMessage)]
  simp only [← Frame.nextAtEnd_eq_error_iff CallbackMessage.faithful]
  cases read : Frame.nextAtEnd (M := CallbackMessage) rest with
  | error error =>
    exact ⟨some error, fun handle node => answerReleases_of_error read, by simp, by simp⟩
  | ok found =>
    cases found with
    | none => exact ⟨none, fun handle node => answerReleases_of_none read, by simp, by simp⟩
    | some found =>
      obtain ⟨size, begins, -⟩ := (Frame.nextAtEnd_eq_begins_iff CallbackMessage.faithful).mp read
      exact absurd begins (ends found.1 size)

/-- The bytes that a node writes to a connection over which it was sent some. -/
def releaseReplies (handle : ReleaseHandler H) (node : H) (sent : Bytes) : Bytes :=
  (Frame.encodeAll (answerReleases handle node sent).replies).2.1

/-- A node that is sent one request writes the reply to it. -/
theorem releaseReplies_of_sent {key : Key} {kind : Release} {frame written : Bytes}
    {reply : CallbackMessage} {next : H}
    (sent : Frame.encode (CallbackMessage.release key kind) = .ok frame)
    (answer : releaseReply handle node (.release key kind) = (reply, next))
    (replied : Frame.encode reply = .ok written) :
    releaseReplies handle node frame = written := by
  have begins := Frame.begins_of_encode sent []
  rw [List.append_nil] at begins
  have behind : answerReleases handle next (frame.drop frame.length) = { node := next } := by
    rw [List.drop_length]
    exact answerReleases_of_none rfl
  rw [releaseReplies, answerReleases_of_begins begins answer replied, behind,
    Frame.encodeAll_cons replied]
  exact List.append_nil written

theorem releaseVerdict_of_encode {reply : CallbackMessage} {written : Bytes}
    (replied : Frame.encode reply = .ok written) : releaseVerdict written = reply.verdict := by
  have read := Frame.nextAtEnd_of_encode CallbackMessage.faithful replied []
  rw [List.append_nil] at read
  rw [releaseVerdict_eq, read]

/-- Whatever a node is sent over a connection, and whatever it makes of a request: the whole
frames at the start of what it is sent hold certain messages, and something else is left.
If the replies to these messages have frames, they are what is written, one to each message
and in order, and the node is asked for what the release requests ask for, once each and in
order. The connection ends in good order if what is left is no whole length, and with a
failure exactly if a frame has begun that is not one of a message.

Over such a connection the server is told that a key has been released exactly if the node
has done so, and in the node's own words why not if it has not. -/
theorem releases_answered (handle : ReleaseHandler H) (node : H) :
    (∀ stream : Bytes, ∃ (messages replies : List CallbackMessage) (rest : Bytes) (final : H),
      (∀ whole left, Frame.Longest stream whole left ↔ whole = messages ∧ left = rest) ∧
      Answered handle node messages replies final ∧ replies.length = messages.length ∧
      ((∀ reply ∈ replies, ∃ frame, Frame.encode reply = .ok frame) →
        ∃ failure,
          answerReleases handle node stream = ⟨replies, failure, final⟩ ∧
          answerReleases handle.logged (node, []) stream =
            ⟨replies, failure, final, messages.filterMap CallbackMessage.asked⟩ ∧
          (failure = none ↔ rest.length < 4) ∧
          ∀ error, failure = some error ↔ Frame.Fault CallbackMessage rest error)) ∧
    ∀ (host : Host) (address : String) (key : Key) (kind : Release) (frame : Bytes),
      host.dial address = .ok () →
      Frame.encode (CallbackMessage.release key kind) = .ok frame →
      (∀ error, (handle node key kind).1 = .error error →
        ∃ reply, Frame.encode (CallbackMessage.refused error.message) = .ok reply) →
      (requestRelease host address key kind (releaseReplies handle node)).1 =
        (handle node key kind).1.mapError fun error => .refused error.message := by
  constructor
  · intro stream
    obtain ⟨messages, rest, longest⟩ := Frame.exists_longest (M := CallbackMessage) stream
    obtain ⟨replies, final, answered⟩ := Answered.exists_answered handle node messages
    refine ⟨messages, replies, rest, final, fun whole left => ⟨?_, ?_⟩, answered,
      answered.length_eq, fun fit => ?_⟩
    · exact fun other => other.unique CallbackMessage.faithful longest
    · rintro ⟨rfl, rfl⟩
      exact longest
    · obtain ⟨failure, ended, inOrder, faulty⟩ := answerReleases_of_ends longest.ends
      refine ⟨failure, ?_, ?_, inOrder, faulty⟩
      · rw [answerReleases_of_row longest.row answered fit, ended, List.append_nil]
      · rw [answerReleases_of_row longest.row (answered.logged []) fit, ended, List.append_nil,
          List.nil_append]
  · intro host address key kind frame dialled sent fits
    rw [requestRelease_of_sent dialled sent]
    rcases outcome : handle node key kind with ⟨⟨error⟩ | ⟨⟩, next⟩
    · obtain ⟨written, replied⟩ := fits error (congrArg Prod.fst outcome)
      have answer : releaseReply handle node (.release key kind) =
          (.refused error.message, next) := by
        rw [releaseReply, outcome]
      rw [releaseReplies_of_sent sent answer replied, releaseVerdict_of_encode replied]
      rfl
    · have answer : releaseReply handle node (.release key kind) = (.ack, next) := by
        rw [releaseReply, outcome]
      have replied : Frame.encode CallbackMessage.ack = .ok [0, 0, 0, 5, 202, 1, 0, 0, 0] := rfl
      rw [releaseReplies_of_sent sent answer replied, releaseVerdict_of_encode replied]
      rfl

/-- A node that refuses whatever it is asked, and what the server is told. -/
theorem releases_answered_pinned :
    let handle : ReleaseHandler Unit := fun node _ _ => (.error (.refused "entry pinned"), node)
    let host : Host := {}
    host.dial "127.0.0.1:80" = .ok () ∧
      (requestRelease host "127.0.0.1:80" (.object 1) .evict (releaseReplies handle ())).1 =
        .error (.refused "callback refused by node: entry pinned") := by
  intro handle host
  have dialled : host.dial "127.0.0.1:80" = .ok () := rfl
  have fits : ∀ error, (handle () (.object 1) .evict).1 = .error error →
      ∃ reply, Frame.encode (CallbackMessage.refused error.message) = .ok reply := by
    rintro _ ⟨⟩
    exact ⟨_, rfl⟩
  exact ⟨dialled, (releases_answered handle ()).2 host _ _ _ _ dialled rfl fits⟩

end

end CacheDirectory
