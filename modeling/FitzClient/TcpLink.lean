import FitzClient.FrameCanonical
import FitzClient.LabelledSystem
import FitzClient.TcpTransport

/-!
# Messages over TCP

A link is one direction of a TCP connection: the transport that sends, the bytes
under way, and the transport that receives.  The network delivers the bytes in
order and in pieces of any size, and at any time the connection may break.  The
receive loop calls `receive` again and again until a call raises or is
cancelled.

While the loop goes on, what it has read of the next message, what its reader
has buffered and what is under way are together the messages that it has not
returned.  This is the invariant behind everything: the loop returns the
messages that were sent, whole and in their order, and it waits only for bytes
that have not been delivered.
-/

namespace FitzClient

/-- How a receive loop ended. -/
inductive ReceiveEnd
  | raised (error : TcpException)
  | cancelled
  deriving DecidableEq, Repr

/-- One direction of a connection.  `sent` and `received` are the messages that
were written and returned so far. -/
structure TcpLink where
  sender : TcpTransport := {}
  receiver : TcpTransport := {}
  sent : List Bytes := []
  underway : Bytes := []
  broken : Bool := false
  reader : StreamReader := {}
  waiting : Option (ReceiveTarget × ReadWaiter) := none
  received : List Bytes := []
  ended : Option ReceiveEnd := none
  deriving DecidableEq, Repr

inductive TcpLinkAction
  | send (data : Bytes)
  | closeSender
  | limitSender (size : Nat)
  | deliver (size : Nat)
  | finish
  | fail (failure : SocketFailure)
  | receive
  | resume
  | cancel
  | closeReceiver
  | limitReceiver (size : Nat)
  deriving DecidableEq, Repr

namespace TcpLink

/-- Wake whoever waits for data. -/
def wake (link : TcpLink) (waiter : ReadWaiter) : TcpLink :=
  match link.waiting with
  | some (target, .pending) => { link with waiting := some (target, waiter) }
  | _ => link

/-- The receive loop up to its next suspension. -/
def settle (link : TcpLink) : ReceiveResult → TcpLink
  | .returned message reader =>
      { link with reader, waiting := none, received := link.received ++ [message] }
  | .raised error reader => { link with reader, waiting := none, ended := some (.raised error) }
  | .waits target reader => { link with reader, waiting := some (target, .pending) }

def step (link : TcpLink) : TcpLinkAction → Option TcpLink
  | .send data =>
      match link.sender.send data with
      | .error _ => some link
      | .ok written => some { link with
          sent := link.sent ++ [data]
          underway := link.underway ++ written }
  -- closing a writer sends what it has buffered first
  | .closeSender => some { link with sender := link.sender.close }
  | .limitSender size =>
      match link.sender.setMaxFrameSize size with
      | .error _ => some link
      | .ok sender => some { link with sender }
  | .deliver size =>
      if link.broken = false ∧ 0 < size ∧ size ≤ link.underway.length ∧
          link.reader.eof = false then
        some ({ link with
          underway := link.underway.drop size
          reader := { link.reader with
            buffer := link.reader.buffer ++ link.underway.take size } }.wake .woken)
      else
        none
  -- the peer's end of the stream, or the close of the receiver itself
  | .finish =>
      if link.receiver.connected = false ∨
          link.broken = false ∧ link.sender.connected = false ∧ link.underway = [] then
        some ({ link with reader := { link.reader with eof := true } }.wake .woken)
      else
        none
  | .fail failure =>
      some ({ link with
        broken := true
        reader := { link.reader with failure := some failure } }.wake (.failed failure))
  | .receive =>
      if link.ended = none ∧ link.waiting = none then
        some (link.settle (link.receiver.receive link.reader))
      else
        none
  | .resume =>
      match link.waiting with
      | none => none
      | some (target, waiter) =>
          (link.receiver.resume link.reader target waiter).map link.settle
  | .cancel =>
      if link.waiting.isSome then
        some { link with waiting := none, ended := some .cancelled }
      else
        none
  | .closeReceiver => some { link with receiver := link.receiver.close }
  | .limitReceiver size =>
      match link.receiver.setMaxFrameSize size with
      | .error _ => some link
      | .ok receiver => some { link with receiver }

/-- A new connection between two transports. -/
def system : LabelledSystem TcpLink TcpLinkAction where
  starts link := ∃ sender receiver, link = { sender, receiver }
  step := step

/-- What the `receive` under way waits for, or the next one starts with. -/
def target (link : TcpLink) : ReceiveTarget :=
  (link.waiting.map (·.1)).getD .header

/-- The messages that were sent and not returned are the bytes between the
writer and the loop; whoever waits does so for bytes that were not delivered. -/
structure Live (link : TcpLink) (unread : List Bytes) : Prop where
  sent : link.sent = link.received ++ unread
  splits : TcpTransport.Splits link.target link.reader link.underway unread
  eof : link.reader.eof = true → link.receiver.connected = false ∨
    link.sender.connected = false ∧ link.underway = []
  hungry : ∀ target, link.waiting = some (target, .pending) →
    link.reader.buffer.length < target.needed ∧ link.reader.eof = false

/-- What the end of the loop says about the messages that it has not returned. -/
structure Over (link : TcpLink) (unread : List Bytes) (ending : ReceiveEnd) : Prop where
  sent : link.sent = link.received ++ unread
  closed : ending = .raised .connectionClosed → link.receiver.connected = false ∨
    link.sender.connected = false ∧ unread = []
  tooLong : ∀ size limit, ending = .raised (.tooLong size limit) →
    ∃ message others, unread = message :: others ∧ message.length = size ∧ limit < size

/-- The loop goes on, or it has ended. -/
def Accounted (link : TcpLink) : Prop :=
  ∃ unread, match link.ended with
    | none => Live link unread
    | some ending => link.waiting = none ∧ Over link unread ending

variable {before after link : TcpLink} {unread : List Bytes}

theorem accounted_of_live (goesOn : link.ended = none) (live : Live link unread) :
    Accounted link :=
  ⟨unread, by rw [goesOn]; exact live⟩

theorem accounted_of_over {ending : ReceiveEnd} (isOver : link.ended = some ending)
    (idle : link.waiting = none) (past : Over link unread ending) : Accounted link :=
  ⟨unread, by rw [isOver]; exact ⟨idle, past⟩⟩

/-- What a `receive` comes to is accounted for. -/
theorem accounted_settle (live : Live link unread) (goesOn : link.ended = none)
    {result : ReceiveResult}
    (reads : TcpTransport.Reads link.receiver link.reader link.underway unread result) :
    Accounted (link.settle result) := by
  cases reads with
  | returned next splits eof =>
      refine accounted_of_live goesOn ⟨?_, splits, fun ended => live.eof (eof ▸ ended), nofun⟩
      have sent := live.sent
      rw [next, ← List.singleton_append, ← List.append_assoc] at sent
      exact sent
  | waits splits hungry isOpen eof =>
      refine accounted_of_live goesOn ⟨live.sent, splits, fun ended => ?_, fun target waits => ?_⟩
      · cases isOpen.symm.trans ended
      · obtain ⟨rfl, -⟩ := Prod.mk.inj (Option.some.inj waits)
        exact ⟨hungry, isOpen⟩
  | closed eof ended =>
      refine accounted_of_over rfl rfl ⟨live.sent, fun _ => ?_, nofun⟩
      exact (live.eof eof).imp_right fun finished => ⟨finished.1, ended finished.2⟩
  | tooLong next long =>
      refine accounted_of_over rfl rfl ⟨live.sent, nofun, fun size limit isLong => ?_⟩
      obtain ⟨rfl, rfl⟩ := TcpException.tooLong.inj (ReceiveEnd.raised.inj isLong)
      exact ⟨_, _, next, rfl, long⟩
  | failed => exact accounted_of_over rfl rfl ⟨live.sent, nofun, nofun⟩
  | disconnected => exact accounted_of_over rfl rfl ⟨live.sent, nofun, nofun⟩

theorem ended_wake (link : TcpLink) (waiter : ReadWaiter) :
    (link.wake waiter).ended = link.ended := by
  unfold wake
  split <;> rfl

theorem waiting_wake (idle : link.waiting = none) (waiter : ReadWaiter) :
    link.wake waiter = link := by
  unfold wake
  rw [idle]

theorem accounted_over_wake {ending : ReceiveEnd} (isOver : link.ended = some ending)
    (idle : link.waiting = none) (past : Over link unread ending) (waiter : ReadWaiter) :
    Accounted (link.wake waiter) := by
  rw [waiting_wake idle]
  exact accounted_of_over isOver idle past

/-- Whoever waited for data is woken up. -/
theorem live_wake {waiter : ReadWaiter} (awake : waiter ≠ .pending)
    (sent : link.sent = link.received ++ unread)
    (splits : TcpTransport.Splits link.target link.reader link.underway unread)
    (eof : link.reader.eof = true → link.receiver.connected = false ∨
      link.sender.connected = false ∧ link.underway = []) :
    Live (link.wake waiter) unread := by
  cases waits : link.waiting with
  | none =>
      rw [waiting_wake waits]
      refine ⟨sent, splits, eof, fun target pending => ?_⟩
      rw [waits] at pending
      cases pending
  | some waiting =>
      obtain ⟨target, before⟩ := waiting
      unfold wake
      unfold TcpLink.target at splits
      rw [waits] at splits ⊢
      cases before with
      | pending =>
          refine ⟨sent, splits, eof, fun other pending => ?_⟩
          exact (awake (Prod.mk.inj (Option.some.inj pending)).2).elim
      | woken =>
          refine ⟨sent, by rwa [TcpLink.target, waits], eof, fun other pending => ?_⟩
          rw [waits] at pending
          cases pending
      | failed failure =>
          refine ⟨sent, by rwa [TcpLink.target, waits], eof, fun other pending => ?_⟩
          rw [waits] at pending
          cases pending

theorem send_eq_ok {transport : TcpTransport} {data written : Bytes}
    (wrote : transport.send data = .ok written) : transport.connected = true ∧
      data.length < 256 ^ 4 ∧ written = LengthPrefixed.frame 4 data := by
  unfold TcpTransport.send at wrote
  split_ifs at wrote with disconnected long wide
  exact ⟨by simpa using disconnected, Nat.lt_of_not_le wide, (Except.ok.inj wrote).symm⟩

theorem connected_setMaxFrameSize {transport limited : TcpTransport} {size : Nat}
    (limits : transport.setMaxFrameSize size = .ok limited) :
    limited.connected = transport.connected := by
  unfold TcpTransport.setMaxFrameSize at limits
  split_ifs at limits
  cases limits
  rfl

/-- Another message behind those on their way. -/
theorem splits_send {target : ReceiveTarget} {reader : StreamReader} {underway data : Bytes}
    (splits : TcpTransport.Splits target reader underway unread) (fits : data.length < 256 ^ 4) :
    TcpTransport.Splits target reader (underway ++ LengthPrefixed.frame 4 data)
      (unread ++ [data]) where
  bytes := by
    rw [LengthPrefixed.stream_concat, ← splits.bytes]
    simp only [List.append_assoc]
  fits message member := by
    rcases List.mem_append.mp member with old | new
    · exact splits.fits message old
    · rwa [List.mem_singleton.mp new]
  size := splits.size

theorem accounted_live_step (goesOn : before.ended = none) (live : Live before unread)
    {action : TcpLinkAction} (stepped : before.step action = some after) : Accounted after := by
  cases action with
  | send data =>
      simp only [step] at stepped
      split at stepped <;> cases stepped
      · exact accounted_of_live goesOn live
      · next written wrote =>
          obtain ⟨connected, fits, rfl⟩ := send_eq_ok wrote
          refine @accounted_of_live _ (unread ++ [data]) goesOn
            ⟨?_, splits_send live.splits fits, fun eof => ?_, live.hungry⟩
          · change before.sent ++ [data] = before.received ++ (unread ++ [data])
            rw [live.sent, List.append_assoc]
          · refine (live.eof eof).imp_right fun closed => ?_
            cases connected.symm.trans closed.1
  | closeSender =>
      cases stepped
      exact accounted_of_live goesOn ⟨live.sent, live.splits,
        fun eof => (live.eof eof).imp_right fun closed => ⟨rfl, closed.2⟩, live.hungry⟩
  | limitSender size =>
      simp only [step] at stepped
      split at stepped <;> cases stepped
      · exact accounted_of_live goesOn live
      · next sender limits =>
          exact accounted_of_live goesOn ⟨live.sent, live.splits, fun eof =>
            (live.eof eof).imp_right fun closed =>
              ⟨(connected_setMaxFrameSize limits).trans closed.1, closed.2⟩, live.hungry⟩
  | deliver size =>
      simp only [step] at stepped
      split at stepped <;> cases stepped
      next enabled =>
      refine accounted_of_live ((ended_wake _ _).trans goesOn)
        (live_wake nofun live.sent ⟨?_, live.splits.fits, live.splits.size⟩ fun eof => ?_)
      · have bytes := live.splits.bytes
        change before.target.consumed ++ (before.reader.buffer ++ before.underway.take size ++
          before.underway.drop size) = _
        rwa [List.append_assoc, List.take_append_drop]
      · cases enabled.2.2.2.symm.trans eof
  | finish =>
      simp only [step] at stepped
      split at stepped <;> cases stepped
      next enabled =>
      exact accounted_of_live ((ended_wake _ _).trans goesOn)
        (live_wake nofun live.sent ⟨live.splits.bytes, live.splits.fits, live.splits.size⟩
          fun _ => enabled.imp_right And.right)
  | fail failure =>
      cases stepped
      exact accounted_of_live ((ended_wake _ _).trans goesOn)
        (live_wake nofun live.sent ⟨live.splits.bytes, live.splits.fits, live.splits.size⟩
          live.eof)
  | receive =>
      simp only [step] at stepped
      split at stepped <;> cases stepped
      next enabled =>
      refine accounted_settle live goesOn (TcpTransport.reads_receive ?_)
      have splits := live.splits
      rwa [target, enabled.2] at splits
  | resume =>
      simp only [step] at stepped
      split at stepped
      · cases stepped
      · next target waiter waits =>
          obtain ⟨result, resumed, rfl⟩ := Option.map_eq_some_iff.mp stepped
          refine accounted_settle live goesOn (TcpTransport.reads_resume ?_ resumed)
          have splits := live.splits
          rwa [TcpLink.target, waits] at splits
  | cancel =>
      simp only [step] at stepped
      split at stepped <;> cases stepped
      exact accounted_of_over rfl rfl ⟨live.sent, nofun, nofun⟩
  | closeReceiver =>
      cases stepped
      exact accounted_of_live goesOn ⟨live.sent, live.splits, fun _ => Or.inl rfl, live.hungry⟩
  | limitReceiver size =>
      simp only [step] at stepped
      split at stepped <;> cases stepped
      · exact accounted_of_live goesOn live
      · next receiver limits =>
          exact accounted_of_live goesOn ⟨live.sent, live.splits, fun eof =>
            (live.eof eof).imp_left (connected_setMaxFrameSize limits).trans, live.hungry⟩

theorem accounted_over_step {ending : ReceiveEnd} (isOver : before.ended = some ending)
    (idle : before.waiting = none) (past : Over before unread ending) {action : TcpLinkAction}
    (stepped : before.step action = some after) : Accounted after := by
  cases action with
  | send data =>
      simp only [step] at stepped
      split at stepped <;> cases stepped
      · exact accounted_of_over isOver idle past
      · next written wrote =>
          obtain ⟨connected, -, -⟩ := send_eq_ok wrote
          refine @accounted_of_over _ (unread ++ [data]) _ isOver idle
            ⟨?_, fun closed => ?_, fun size limit long => ?_⟩
          · change before.sent ++ [data] = before.received ++ (unread ++ [data])
            rw [past.sent, List.append_assoc]
          · refine (past.closed closed).imp_right fun finished => ?_
            cases connected.symm.trans finished.1
          · obtain ⟨message, others, rfl, sized, exceeds⟩ := past.tooLong size limit long
            exact ⟨message, others ++ [data], rfl, sized, exceeds⟩
  | closeSender =>
      cases stepped
      exact accounted_of_over isOver idle ⟨past.sent,
        fun closed => (past.closed closed).imp_right fun finished => ⟨rfl, finished.2⟩,
        past.tooLong⟩
  | limitSender size =>
      simp only [step] at stepped
      split at stepped <;> cases stepped
      · exact accounted_of_over isOver idle past
      · next sender limits =>
          exact accounted_of_over isOver idle ⟨past.sent, fun closed =>
            (past.closed closed).imp_right fun finished =>
              ⟨(connected_setMaxFrameSize limits).trans finished.1, finished.2⟩, past.tooLong⟩
  | deliver size =>
      simp only [step] at stepped
      split at stepped <;> cases stepped
      apply accounted_over_wake
      · exact isOver
      · exact idle
      · exact ⟨past.sent, past.closed, past.tooLong⟩
  | finish =>
      simp only [step] at stepped
      split at stepped <;> cases stepped
      apply accounted_over_wake
      · exact isOver
      · exact idle
      · exact ⟨past.sent, past.closed, past.tooLong⟩
  | fail failure =>
      cases stepped
      apply accounted_over_wake
      · exact isOver
      · exact idle
      · exact ⟨past.sent, past.closed, past.tooLong⟩
  | receive =>
      simp only [step, isOver] at stepped
      cases stepped
  | resume =>
      simp only [step, idle] at stepped
      cases stepped
  | cancel =>
      simp only [step, idle] at stepped
      cases stepped
  | closeReceiver =>
      cases stepped
      exact accounted_of_over isOver idle ⟨past.sent, fun _ => Or.inl rfl, past.tooLong⟩
  | limitReceiver size =>
      simp only [step] at stepped
      split at stepped <;> cases stepped
      · exact accounted_of_over isOver idle past
      · next receiver limits =>
          exact accounted_of_over isOver idle ⟨past.sent, fun closed =>
            (past.closed closed).imp_left (connected_setMaxFrameSize limits).trans, past.tooLong⟩

theorem invariant_accounted : system.Invariant (fun _ _ => True) Accounted where
  starts first starts := by
    obtain ⟨sender, receiver, rfl⟩ := starts
    exact @accounted_of_live _ [] rfl ⟨rfl, ⟨rfl, nofun, nofun⟩, nofun, nofun⟩
  preserved current action next held _ stepped := by
    obtain ⟨unread, held⟩ := held
    cases ended : current.ended with
    | none =>
        rw [ended] at held
        exact accounted_live_step ended held stepped
    | some ending =>
        rw [ended] at held
        exact accounted_over_step ended held.1 held.2 stepped

/-- The loop returns what was sent. -/
structure Faithful (link : TcpLink) : Prop where
  -- whole messages, in their order, and each once
  ordered : link.received <+: link.sent
  -- the end of the stream loses nothing
  complete : link.ended = some (.raised .connectionClosed) → link.receiver.connected = true →
    link.sender.connected = false ∧ link.received = link.sent
  -- a message that is refused for its length is the next one
  refused : ∀ size limit, link.ended = some (.raised (.tooLong size limit)) →
    ∃ message, link.sent[link.received.length]? = some message ∧ message.length = size ∧
      limit < size
  -- a wait is for a byte of the next message, if there is one
  prompt : ∀ target, link.waiting = some (target, .pending) → link.ended = none →
    ∀ message others, link.sent = link.received ++ message :: others →
      (LengthPrefixed.stream 4 others).length < link.underway.length

theorem sent_begins_with_received (reachable : system.Reachable link) :
    link.received <+: link.sent := by
  obtain ⟨unread, accounted⟩ := invariant_accounted.of_reachable reachable
  cases ended : link.ended with
  | none =>
      rw [ended] at accounted
      exact ⟨unread, accounted.sent.symm⟩
  | some ending =>
      rw [ended] at accounted
      exact ⟨unread, accounted.2.sent.symm⟩

theorem Live.prompt (live : Live link unread) {target : ReceiveTarget}
    (waits : link.waiting = some (target, .pending)) {message : Bytes} {others : List Bytes}
    (sent : link.sent = link.received ++ message :: others) :
    (LengthPrefixed.stream 4 others).length < link.underway.length := by
  obtain rfl : unread = message :: others := List.append_cancel_left (live.sent.symm.trans sent)
  have hungry := (live.hungry target waits).1
  have splits := live.splits
  rw [TcpLink.target, waits] at splits
  cases target with
  | header =>
      have bytes := congrArg List.length splits.bytes
      rw [LengthPrefixed.stream_cons] at bytes
      simp only [List.length_append, BigEndian.length_encode] at bytes
      change link.reader.buffer.length < 4 at hungry
      change 0 + (_ + _) = _ at bytes
      omega
  | body size =>
      change link.reader.buffer.length < size at hungry
      obtain ⟨next, rest, same, sized, bytes⟩ := TcpTransport.Splits.exists_body splits
      obtain ⟨rfl, rfl⟩ := List.cons.inj same
      have lengths := congrArg List.length bytes
      simp only [List.length_append] at lengths
      omega

/-- However the stream is cut into pieces and the tasks take turns, the receive
loop returns the messages that were written, whole and in order.  Where it ends
because the peer has closed the stream it has returned all of them. -/
theorem received_of_reachable (reachable : system.Reachable link) : Faithful link := by
  obtain ⟨unread, accounted⟩ := invariant_accounted.of_reachable reachable
  cases ended : link.ended with
  | none =>
      rw [ended] at accounted
      exact {
        ordered := sent_begins_with_received reachable
        complete := by rw [ended]; exact nofun
        refused := by rw [ended]; exact nofun
        prompt := fun target waits _ message others => accounted.prompt waits }
  | some ending =>
      rw [ended] at accounted
      obtain ⟨idle, past⟩ := accounted
      exact {
        ordered := sent_begins_with_received reachable
        complete := fun closed connected => by
          rw [ended] at closed
          rcases past.closed (Option.some.inj closed) with disconnected | ⟨finished, nothing⟩
          · cases connected.symm.trans disconnected
          · have sent := past.sent
            rw [nothing, List.append_nil] at sent
            exact ⟨finished, sent.symm⟩
        refused := fun size limit long => by
          rw [ended] at long
          obtain ⟨message, others, rfl, sized⟩ := past.tooLong size limit (Option.some.inj long)
          refine ⟨message, ?_, sized⟩
          rw [past.sent, List.getElem?_append_right (Nat.le_refl _), Nat.sub_self]
          rfl
        prompt := fun target waits goesOn => by
          rw [ended] at goesOn
          cases goesOn }

/-- Two messages arrive in five pieces, and the second wait is in the middle of
the first message. -/
def inPieces : List TcpLinkAction :=
  [.receive, .send [7, 8], .deliver 3, .resume, .deliver 2, .resume, .send [9], .deliver 2,
    .resume, .closeSender, .receive, .deliver 1, .resume, .deliver 3, .resume, .finish, .receive]

theorem received_of_reachable_pieces : ∃ link, link.received = [[7, 8], [9]] ∧
    link.ended = some (.raised .connectionClosed) ∧ Faithful link :=
  ⟨_, rfl, rfl, received_of_reachable (system.reachable_of_run ⟨{}, {}, rfl⟩ inPieces rfl)⟩

/-- If what is sent are frames, the parser of the receiving end makes the same
frames of what arrives. -/
theorem frames_of_reachable (reachable : system.Reachable link) {frames : List Frame}
    (encoded : List.Forall₂ (fun frame data => FrameCodec.encodeFrame frame = .ok data)
      frames link.sent) :
    List.Forall₂ (fun frame data => FrameParser.parseFrames data = .ok [frame])
      (frames.take link.received.length) link.received := by
  have arrived := List.forall₂_take link.received.length encoded
  rw [← List.prefix_iff_eq_take.mp (sent_begins_with_received reachable)] at arrived
  refine arrived.imp fun frame data isEncoded => ?_
  have decoded := FrameCodec.decodeFrame_eq_ok_iff.mpr isEncoded
  obtain ⟨-, -, -, -, rfl⟩ := FrameCodec.encodeFrame_eq_ok_iff.mp isEncoded
  have nonempty : (FrameCodec.layout frame).isEmpty = false := by
    simp [FrameCodec.layout, BigEndian.encode]
  rw [FrameParser.parseFrames, nonempty, decoded]
  rfl

end TcpLink

end FitzClient
