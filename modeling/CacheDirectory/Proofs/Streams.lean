/-
Module: CacheDirectory.Proofs.Streams
Purpose: Reading from a connection does not depend on the pieces in which the bytes
  arrive: what has been read stays read when more bytes come, so a connection that is
  served piece by piece ends up where it would be if all bytes had come at once.
Trusted boundary: none
Main exports: Frame.next_eq_message_iff, Frame.next_append, Transport,
  Session.receiveAll_eq, Inbox.await_eq, Remote.callOver_eq_call
-/
import CacheDirectory.Connection.Client
import CacheDirectory.Proofs.FrameGrammar

namespace CacheDirectory

open Wire

namespace Wire.Frame

variable {M : Type} [Message M]

/-! ### The next frame of a stream -/

/-- What follows a valid length: the frame if all of it is there. -/
def held (length : Nat) (behind : Bytes) : Incoming M :=
  if behind.length < length then .withinFrame
  else
    match message (behind.headD 0) (behind.tail.take (length - 1)) with
    | .ok found => .message found (behind.drop length)
    | .error error => .broken error (behind.drop length)

/-- The reader of a stream step by step, where the bytes suffice for a length. -/
theorem next_cons (b₀ b₁ b₂ b₃ : UInt8) (behind : Bytes) :
    next (M := M) (b₀ :: b₁ :: b₂ :: b₃ :: behind) =
      match checkLength (announced [b₀, b₁, b₂, b₃]) with
      | .error error => .broken error behind
      | .ok _ => held (announced [b₀, b₁, b₂, b₃]) behind := by
  simp only [next, List.splitAt_eq, List.take_succ_cons, List.take_zero, List.drop_succ_cons,
    List.drop_zero]
  generalize announced [b₀, b₁, b₂, b₃] = length
  cases checked : checkLength length with
  | error error => rfl
  | ok =>
    obtain ⟨positive, -⟩ := checkLength_eq_ok_iff.mp checked
    obtain ⟨length, rfl⟩ := Nat.exists_eq_add_one_of_ne_zero (Nat.ne_of_gt positive)
    cases behind with
    | nil => exact (if_pos (Nat.succ_pos length)).symm
    | cons tag content =>
      simp only [held, List.take_succ_cons, List.length_take, List.length_cons, List.headD_cons,
        List.tail_cons, Nat.add_sub_cancel]
      by_cases cut : content.length < length
      case pos => exact (if_pos (by omega)).trans (if_pos (by omega)).symm
      case neg =>
        cases message (M := M) tag (content.take length) with
        | ok found => exact (if_neg (by omega)).trans (if_neg (by omega)).symm
        | error error => exact (if_neg (by omega)).trans (if_neg (by omega)).symm

theorem held_cons_eq_message_iff {length : Nat} {tag : UInt8} {content rest : Bytes} {found : M} :
    held length (tag :: content) = .message found rest ↔
      length ≤ content.length + 1 ∧ message tag (content.take (length - 1)) = .ok found ∧
        rest = (tag :: content).drop length := by
  simp only [held, List.length_cons, List.headD_cons, List.tail_cons]
  split
  case isTrue cut => exact ⟨nofun, fun whole => by omega⟩
  case isFalse whole =>
    cases message (M := M) tag (content.take (length - 1)) with
    | error error => exact ⟨nofun, nofun⟩
    | ok value =>
      simp only [Incoming.message.injEq, Except.ok.injEq]
      exact ⟨fun ⟨same, left⟩ => ⟨by omega, same, left.symm⟩, fun ⟨_, same, left⟩ => ⟨same, left.symm⟩⟩

/-- A stream is read as bytes that are all there are, up to the end of the frame. -/
theorem next_eq_message_iff {unread rest : Bytes} {found : M} :
    next unread = .message found rest ↔
      ∃ size, decode unread = .ok (found, size) ∧ rest = unread.drop size := by
  match unread with
  | [] | [_] | [_, _] | [_, _, _] => exact ⟨nofun, nofun⟩
  | [b₀, b₁, b₂, b₃] =>
    rw [next_cons]
    constructor
    · intro read
      cases checked : checkLength (announced [b₀, b₁, b₂, b₃]) with
      | error error =>
        rw [checked] at read
        cases read
      | ok =>
        rw [checked] at read
        cases (if_pos (checkLength_eq_ok_iff.mp checked).1).symm.trans read
    · exact nofun
  | b₀ :: b₁ :: b₂ :: b₃ :: tag :: content =>
    simp only [next_cons, decode_cons_eq_ok_iff]
    cases checked : checkLength (announced [b₀, b₁, b₂, b₃]) with
    | error error => exact ⟨nofun, nofun⟩
    | ok =>
      show held _ _ = _ ↔ _
      rw [held_cons_eq_message_iff]
      constructor
      · rintro ⟨whole, read, left⟩
        exact ⟨_, ⟨rfl, whole, read, rfl⟩, left⟩
      · rintro ⟨_, ⟨-, whole, read, rfl⟩, left⟩
        exact ⟨whole, read, left⟩

/-- What is found in a stream to which more bytes come. -/
def Incoming.followedBy (more : Bytes) : Incoming M → Incoming M
  | .message found rest => .message found (rest ++ more)
  | .broken error rest => .broken error (rest ++ more)
  | .betweenFrames => .betweenFrames
  | .withinFrame => .withinFrame

theorem held_append {length : Nat} {behind : Bytes} (whole : length ≤ behind.length)
    (positive : 0 < length) (more : Bytes) :
    held (M := M) length (behind ++ more) = (held length behind).followedBy more := by
  obtain ⟨length, rfl⟩ := Nat.exists_eq_add_one_of_ne_zero (Nat.ne_of_gt positive)
  cases behind with
  | nil => cases whole
  | cons tag content =>
    simp only [List.length_cons] at whole
    simp only [held, List.cons_append, List.length_cons, List.length_append, List.headD_cons,
      List.tail_cons, Nat.add_sub_cancel, List.drop_succ_cons]
    rw [if_neg (by omega), if_neg (by omega), List.take_append_of_le_length (by omega),
      List.drop_append_of_le_length (by omega)]
    cases message (M := M) tag (content.take length) with
    | ok found => rfl
    | error error => rfl

/-- More bytes change what is found only while nothing is found. -/
theorem next_append (unread more : Bytes) :
    next (M := M) unread = .betweenFrames ∨ next (M := M) unread = .withinFrame ∨
      next (M := M) (unread ++ more) = (next unread).followedBy more := by
  match unread with
  | [] | [_] | [_, _] | [_, _, _] => exact .inl rfl
  | b₀ :: b₁ :: b₂ :: b₃ :: behind =>
    right
    simp only [List.cons_append, next_cons]
    cases checked : checkLength (announced [b₀, b₁, b₂, b₃]) with
    | error error => exact .inr rfl
    | ok =>
      by_cases cut : behind.length < announced [b₀, b₁, b₂, b₃]
      case pos => exact .inl (if_pos cut)
      case neg => exact .inr (held_append (by omega) (checkLength_eq_ok_iff.mp checked).1 more)

/-- The frame of a message is found at the start of a stream. -/
theorem next_of_encode (faithful : (Message.layout (M := M)).Faithful) {found : M} {frame : Bytes}
    (written : encode found = .ok frame) (rest : Bytes) :
    next (frame ++ rest) = .message found rest := by
  have read := (decode_eq_ok_iff faithful).mpr (begins_of_encode written rest)
  exact next_eq_message_iff.mpr ⟨frame.length, read, List.drop_left.symm⟩

theorem encode_ne_nil {found : M} {frame : Bytes} (written : encode found = .ok frame) :
    frame ≠ [] := by
  obtain ⟨-, rfl⟩ := encode_eq_ok_iff.mp written
  exact List.append_ne_nil_of_right_ne_nil _ (List.cons_ne_nil _ _)

end Wire.Frame

/-! ### Reading while bytes arrive -/

namespace Inbox

variable {M : Type} [Message M]

/-- The inbox after further bytes, behind which the other side may close. -/
def extended (more : Bytes) (closing : Bool) (inbox : Inbox) : Inbox :=
  { inbox.receive more with closed := closing }

/-- What is read from an open inbox does not change when more bytes come. -/
theorem take_extended {inbox left : Inbox} {arrival : Arrival M} (opened : inbox.closed = false)
    (read : inbox.take = (arrival, left)) (more : Bytes) (closing : Bool) :
    arrival = .nothingYet ∧ left = inbox ∨
      (inbox.extended more closing).take = (arrival, left.extended more closing) ∧
        left.closed = false := by
  have grows := Frame.next_append (M := M) inbox.unread more
  unfold take at read
  cases front : Frame.next (M := M) inbox.unread with
  | message found rest =>
    rw [front] at read grows
    obtain ⟨rfl, rfl⟩ := Prod.mk.inj read
    obtain grows | grows | grows := grows
    · cases grows
    · cases grows
    · refine .inr ⟨?_, opened⟩
      simp only [take, extended, receive, grows, Frame.Incoming.followedBy]
  | broken error rest =>
    rw [front] at read grows
    obtain ⟨rfl, rfl⟩ := Prod.mk.inj read
    obtain grows | grows | grows := grows
    · cases grows
    · cases grows
    · refine .inr ⟨?_, opened⟩
      simp only [take, extended, receive, grows, Frame.Incoming.followedBy]
  | betweenFrames =>
    simp only [front, opened] at read
    obtain ⟨rfl, rfl⟩ := Prod.mk.inj read
    exact .inl ⟨rfl, rfl⟩
  | withinFrame =>
    simp only [front, opened] at read
    obtain ⟨rfl, rfl⟩ := Prod.mk.inj read
    exact .inl ⟨rfl, rfl⟩

/-- What is read does not change when more bytes come to an inbox that stays open. -/
theorem take_receive {inbox left : Inbox} {arrival : Arrival M} (opened : inbox.closed = false)
    (read : inbox.take = (arrival, left)) (more : Bytes) :
    arrival = .nothingYet ∧ left = inbox ∨
      (inbox.receive more).take = (arrival, left.receive more) ∧ left.closed = false := by
  obtain nothing | ⟨grown, leftOpen⟩ := take_extended opened read more false
  · exact .inl nothing
  · right
    obtain ⟨unread, _⟩ := inbox
    obtain ⟨rest, _⟩ := left
    cases opened
    cases leftOpen
    exact ⟨grown, rfl⟩

theorem take_ne_ended {inbox left : Inbox} (opened : inbox.closed = false) :
    inbox.take (M := M) ≠ (.ended, left) := by
  intro read
  obtain ⟨nothing, -⟩ | ⟨-, -⟩ := take_extended opened read [] false
  · cases nothing
  · unfold take at read
    rw [opened] at read
    split at read <;> cases read

/-- Reading closes nothing and opens nothing. -/
theorem closed_of_take {inbox left : Inbox} {arrival : Arrival M}
    (read : inbox.take = (arrival, left)) : left.closed = inbox.closed := by
  unfold take at read
  split at read
  case h_1 | h_2 => cases read; rfl
  case h_3 | h_4 => split at read <;> cases read <;> rfl

/-- Of a connection that the other side has closed it is known how it goes on. -/
theorem take_ne_nothingYet {inbox left : Inbox} (closed : inbox.closed = true) :
    inbox.take (M := M) ≠ (.nothingYet, left) := by
  intro read
  unfold take at read
  rw [closed] at read
  split at read <;> cases read

/-- Await a message while bytes arrive in pieces, behind which the other side may
close. -/
def await (closing : Bool) : List Bytes → Inbox → Arrival M × Inbox
  | [], inbox => { inbox with closed := closing }.take
  | piece :: later, inbox =>
    match inbox.take (M := M) with
    | (.nothingYet, _) => await closing later (inbox.receive piece)
    | (arrival, left) => (arrival, left.extended (piece :: later).flatten closing)

/-- It makes no difference to what is awaited in which pieces the bytes arrive. -/
theorem await_eq {inbox : Inbox} (opened : inbox.closed = false) (closing : Bool)
    (pieces : List Bytes) :
    inbox.await (M := M) closing pieces = (inbox.extended pieces.flatten closing).take := by
  induction pieces generalizing inbox with
  | nil => simp only [await, extended, receive, List.flatten_nil, List.append_nil]
  | cons piece later ih =>
    unfold await
    cases read : inbox.take (M := M) with
    | mk arrival left =>
      have grows := take_extended opened read (piece :: later).flatten closing
      split
      case h_1 nothing waiting same =>
        cases same
        have waited : (inbox.receive piece).closed = false := opened
        rw [ih waited]
        simp only [extended, receive, List.flatten_cons, List.append_assoc]
      case h_2 found rest something same =>
        cases same
        obtain ⟨nothing, -⟩ | ⟨grown, -⟩ := grows
        · exact (something nothing).elim
        · exact grown.symm

end Inbox

/-! ### Serving while bytes arrive -/

namespace Session

variable {σ : Type} [Backing σ]

/-- The server's end when a request has been read and its response is to be sent. -/
def answering (inbox : Inbox) (response : Response) (session : Session) : Session :=
  { session with inbox, nodes := session.nodes ++ registered response }

theorem serve_of_unsent {service answered : Service σ} {session : Session} {request : Request}
    {inbox : Inbox} {response : Response} {error : ProtocolError}
    (read : session.inbox.take = (.message request, inbox))
    (answer : service.dispatch request = (response, answered))
    (unsent : reply response (session.answering inbox response) = .error error) :
    serve service session = finish (.failed error) answered (session.answering inbox response) := by
  rw [serve]
  split
  case h_1 found left same =>
    cases read.symm.trans same
    rw [answer]
    dsimp only
    split
    case h_1 failure failed =>
      cases unsent.symm.trans failed
      rfl
    case h_2 sent => cases unsent.symm.trans sent
  case h_2 same => cases read.symm.trans same
  case h_3 same => cases read.symm.trans same
  case h_4 same => cases read.symm.trans same

theorem serve_of_sent {service answered : Service σ} {session rest : Session} {request : Request}
    {inbox : Inbox} {response : Response} {frame : Bytes}
    (read : session.inbox.take = (.message request, inbox))
    (answer : service.dispatch request = (response, answered))
    (sent : reply response (session.answering inbox response) = .ok (frame, rest)) :
    serve service session =
      { serve answered rest with replies := frame :: (serve answered rest).replies } := by
  rw [serve]
  split
  case h_1 found left same =>
    cases read.symm.trans same
    rw [answer]
    dsimp only
    split
    case h_1 failed => cases sent.symm.trans failed
    case h_2 bytes session again =>
      cases sent.symm.trans again
      rfl
  case h_2 same => cases read.symm.trans same
  case h_3 same => cases read.symm.trans same
  case h_4 same => cases read.symm.trans same

theorem serve_of_nothingYet {service : Service σ} {session : Session} {inbox : Inbox}
    (read : session.inbox.take (M := Request) = (.nothingYet, inbox)) :
    serve service session = { service, session } := by
  rw [serve]
  split
  case h_1 same => cases read.symm.trans same
  case h_2 => rfl
  case h_3 same => cases read.symm.trans same
  case h_4 same => cases read.symm.trans same

theorem serve_of_broken {service : Service σ} {session : Session} {inbox : Inbox}
    {error : ProtocolError} (read : session.inbox.take (M := Request) = (.broken error, inbox)) :
    serve service session = finish (.failed error) service { session with inbox } := by
  rw [serve]
  split
  case h_1 same => cases read.symm.trans same
  case h_2 same => cases read.symm.trans same
  case h_3 same => cases read.symm.trans same
  case h_4 same =>
    cases read.symm.trans same
    rfl

theorem serve_of_ended {service : Service σ} {session : Session} {inbox : Inbox}
    (read : session.inbox.take (M := Request) = (.ended, inbox)) :
    serve service session = finish .ended service { session with inbox } := by
  rw [serve]
  split
  case h_1 same => cases read.symm.trans same
  case h_2 same => cases read.symm.trans same
  case h_3 same =>
    cases read.symm.trans same
    rfl
  case h_4 same => cases read.symm.trans same

/-- What is answered does not depend on what has arrived. -/
theorem reply_extended (response : Response) (session : Session) (inbox : Inbox) :
    reply response { session with inbox } =
      (reply response session).map fun sent => (sent.1, { sent.2 with inbox }) := by
  obtain ⟨unread, nodes, room, condition⟩ := session
  simp only [reply]
  cases Frame.encode response with
  | error error => rfl
  | ok frame =>
    cases room with
    | none => rfl
    | some room => cases room <;> rfl

/-- Further bytes at the server's end. -/
def extended (more : Bytes) (session : Session) : Session :=
  { session with inbox := session.inbox.receive more }

end Session

/-- A connection that has been served is served further. -/
def Served.andThen {σ : Type} (served : Served σ) (later : Service σ → Session → Served σ) :
    Served σ :=
  { later served.service served.session with
    replies := served.replies ++ (later served.service served.session).replies }

namespace Session

variable {σ : Type} [Backing σ]

/-- Replying does not end a connection. -/
theorem condition_of_reply {response : Response} {session rest : Session} {frame : Bytes}
    (sent : reply response session = .ok (frame, rest)) : rest.condition = session.condition := by
  simp only [reply] at sent
  cases written : Frame.encode response with
  | error error =>
    rw [written] at sent
    cases sent
  | ok bytes =>
    rw [written] at sent
    simp only [bind, Except.bind] at sent
    split at sent <;> cases sent <;> rfl

/-- Replying registers nobody. -/
theorem nodes_of_reply {response : Response} {session rest : Session} {frame : Bytes}
    (sent : reply response session = .ok (frame, rest)) : rest.nodes = session.nodes := by
  unfold reply at sent
  cases encoded : Frame.encode response with
  | error error => rw [encoded] at sent; cases sent
  | ok bytes =>
    rw [encoded] at sent
    simp only [bind, Except.bind] at sent
    split at sent <;> cases sent <;> rfl

theorem receive_of_ended {more : Bytes} {service : Service σ} {session : Session}
    (ended : session.condition ≠ .serving) :
    session.receive more service = { service, session := session.extended more } :=
  if_pos (bne_iff_ne.mpr ended)

theorem receive_of_serving {more : Bytes} {service : Service σ} {session : Session}
    (serving : session.condition = .serving) :
    session.receive more service = serve service (session.extended more) :=
  if_neg fun ended => bne_iff_ne.mp ended serving

/-- Bytes that arrive over a connection that has failed are not read. -/
theorem finish_andThen (error : ProtocolError) (more : Bytes) (service : Service σ)
    (session : Session) :
    (finish (.failed error) service session).andThen
        (fun service session => session.receive more service) =
      finish (.failed error) service (session.extended more) := by
  have ended : (finish (.failed error) service session).session.condition ≠ .serving := by
    intro serving
    cases serving
  rw [Served.andThen, receive_of_ended ended]
  rfl

/-- Serving a connection to which further bytes have come is serving it and, unless it is
over then, serving the rest. By induction along the requests that are served. -/
theorem serve_extended (more : Bytes) (service : Service σ) (session : Session)
    (opened : session.inbox.closed = false) (serving : session.condition = .serving) :
    serve service (session.extended more) =
      (serve service session).andThen (fun service session => session.receive more service) := by
  induction service, session using Session.serve.induct with
  | case1 service session request inbox read response answered answer _ error unsent =>
    replace unsent : reply response (session.answering inbox response) = .error error := unsent
    obtain ⟨grown, -⟩ := (Inbox.take_receive opened read more).resolve_left nofun
    have still : reply response ((session.extended more).answering (inbox.receive more) response) =
        .error error := by
      have extended := reply_extended response (session.answering inbox response) (inbox.receive more)
      rw [unsent] at extended
      exact extended
    rw [serve_of_unsent grown answer still, serve_of_unsent read answer unsent, finish_andThen]
    rfl
  | case2 service session request inbox read response answered answer _ frame rest sent ih =>
    replace sent : reply response (session.answering inbox response) = .ok (frame, rest) := sent
    obtain ⟨grown, leftOpen⟩ := (Inbox.take_receive opened read more).resolve_left nofun
    have same : rest.inbox = inbox := inbox_of_reply sent
    have still : reply response ((session.extended more).answering (inbox.receive more) response) =
        .ok (frame, rest.extended more) := by
      have extended := reply_extended response (session.answering inbox response) (inbox.receive more)
      rw [sent, ← same] at extended
      rw [← same]
      exact extended
    have later := ih (by rw [same, leftOpen]) (by rw [condition_of_reply sent]; exact serving)
    rw [serve_of_sent grown answer still, serve_of_sent read answer sent, later]
    rfl
  | case3 service session inbox read =>
    rw [serve_of_nothingYet read, Served.andThen, receive_of_serving serving]
    rfl
  | case4 service session inbox read => exact absurd read (Inbox.take_ne_ended opened)
  | case5 service session error inbox read =>
    obtain ⟨grown, -⟩ := (Inbox.take_receive opened read more).resolve_left nofun
    rw [serve_of_broken grown, serve_of_broken read, finish_andThen]
    rfl

/-- Serving does not close a connection at the other side. -/
theorem serve_opened (service : Service σ) (session : Session)
    (opened : session.inbox.closed = false) :
    (serve service session).session.inbox.closed = false := by
  induction service, session using Session.serve.induct with
  | case1 service session request inbox read response answered answer _ error unsent =>
    rw [serve_of_unsent read answer unsent]
    exact ((Inbox.take_receive opened read []).resolve_left nofun).2
  | case2 service session request inbox read response answered answer _ frame rest sent ih =>
    rw [serve_of_sent read answer sent]
    apply ih
    rw [inbox_of_reply sent]
    exact ((Inbox.take_receive opened read []).resolve_left nofun).2
  | case3 service session inbox read =>
    rw [serve_of_nothingYet read]
    exact opened
  | case4 service session inbox read => exact absurd read (Inbox.take_ne_ended opened)
  | case5 service session error inbox read =>
    rw [serve_of_broken read]
    exact ((Inbox.take_receive opened read []).resolve_left nofun).2

theorem receive_opened {service : Service σ} {session : Session}
    (opened : session.inbox.closed = false) (bytes : Bytes) :
    (session.receive bytes service).session.inbox.closed = false := by
  by_cases serving : session.condition = .serving
  case pos =>
    rw [receive_of_serving serving]
    exact serve_opened _ _ opened
  case neg =>
    rw [receive_of_ended serving]
    exact opened

/-- Bytes may arrive in two parts. -/
theorem receive_append {service : Service σ} {session : Session}
    (opened : session.inbox.closed = false) (first second : Bytes) :
    session.receive (first ++ second) service =
      (session.receive first service).andThen
        (fun service session => session.receive second service) := by
  have joined : session.extended (first ++ second) = (session.extended first).extended second := by
    simp only [extended, Inbox.receive, List.append_assoc]
  by_cases serving : session.condition = .serving
  case pos =>
    rw [receive_of_serving serving, receive_of_serving serving, joined]
    exact serve_extended second service (session.extended first) opened serving
  case neg =>
    have still : (session.extended first).condition ≠ .serving := serving
    rw [receive_of_ended serving, receive_of_ended serving, joined, Served.andThen,
      receive_of_ended still]
    rfl

/-- Bytes arrive in pieces, and the connection is served after each. -/
def receiveAll (service : Service σ) (session : Session) : List Bytes → Served σ
  | [] => { service, session }
  | piece :: later =>
    (session.receive piece service).andThen fun service session => receiveAll service session later

/-- It makes no difference to a connection in which pieces the bytes arrive. -/
theorem receiveAll_eq {service : Service σ} {session : Session}
    (opened : session.inbox.closed = false) (piece : Bytes) (later : List Bytes) :
    session.receiveAll service (piece :: later) =
      session.receive (piece :: later).flatten service := by
  induction later generalizing service session piece with
  | nil =>
    simp only [receiveAll, Served.andThen, List.append_nil, List.flatten_cons, List.flatten_nil]
  | cons next rest ih =>
    rw [List.flatten_cons, receive_append opened, receiveAll, Served.andThen,
      ih (receive_opened opened piece) next]
    rfl

end Session

/-! ### Connections that cut what is sent -/

/-- A connection that delivers what is sent in pieces of its own choice, but all of it
and in order. -/
structure Transport where
  pieces : Bytes → List Bytes
  in_order : ∀ sent, (pieces sent).flatten = sent

/-- It makes no difference to the server's end how the connection cuts what is sent. -/
theorem Session.receiveAll_pieces {σ : Type} [Backing σ] (service : Service σ) {session : Session}
    (opened : session.inbox.closed = false) {sent : Bytes} (something : sent ≠ [])
    (there : Transport) :
    session.receiveAll service (there.pieces sent) = session.receive sent service := by
  have whole := there.in_order sent
  cases cut : there.pieces sent with
  | nil =>
    rw [cut] at whole
    exact absurd whole.symm something
  | cons piece later =>
    rw [cut] at whole
    rw [receiveAll_eq opened, whole]

namespace Remote

variable {σ : Type} [Backing σ]

/-- Send a request and await its response, where both are cut into pieces on their
way. -/
def callOver (there back : Transport) (request : Request) (remote : Remote σ) :
    Option (Except ProtocolError Response) × Remote σ :=
  match Frame.encode request with
  | .error error => (some (.error error), remote)
  | .ok frame =>
    let served := remote.session.receiveAll remote.service (there.pieces frame)
    let replies := back.pieces served.replies.flatten
    let (arrival, inbox) := remote.inbox.await (M := Response) served.session.isOver replies
    (request.reply arrival, { service := served.service, session := served.session, inbox })

/-- What a call comes to does not depend on how the connection cuts it. -/
theorem callOver_eq_call {remote : Remote σ} (sessionOpen : remote.session.inbox.closed = false)
    (inboxOpen : remote.inbox.closed = false) (there back : Transport) (request : Request) :
    remote.callOver there back request = remote.call request := by
  unfold callOver call
  cases written : Frame.encode request with
  | error error => rfl
  | ok frame =>
    have arrived := Session.receiveAll_pieces remote.service sessionOpen
      (Frame.encode_ne_nil written) there
    simp only [arrived, Inbox.await_eq inboxOpen, back.in_order]
    rfl

end Remote

end CacheDirectory
