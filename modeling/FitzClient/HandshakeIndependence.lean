import FitzClient.Handshake

/-!
# Handshakes of different sessions

Two clients with the same configuration that have had different sessions make
the same attempt.  Of the fields that the sessions leave behind, the handshake
reads the limit on the length of a message before a HELLO overwrites it, and it
only compares lengths with it.  The two attempts run side by side until a
length lies between the two limits.  From there on one client has rejected a
message that the other one accepted.  A new client, which has the configured
limit, shows whether the limits of earlier sessions have a part in an attempt.
-/

namespace FitzClient

namespace HandshakeFields

/-- No session is established. -/
structure Rested (fields : HandshakeFields) : Prop where
  protocolVersion : fields.protocolVersion = 0
  capabilityIds : fields.capabilityIds = []

theorem rested_setDisconnected (fields : HandshakeFields) : fields.setDisconnected.Rested :=
  ⟨rfl, rfl⟩

theorem rested_afterSession (config : HandshakeConfig) (fields : HandshakeFields)
    (session : EarlierSession) : (fields.afterSession config session).Rested := by
  simp only [afterSession]
  split
  · exact rested_setDisconnected _
  · exact rested_setDisconnected _

theorem rested_after (config : HandshakeConfig) (sessions : List EarlierSession) :
    (after config sessions).Rested := by
  rcases List.eq_nil_or_concat sessions with rfl | ⟨earlier, last, rfl⟩
  · exact ⟨rfl, rfl⟩
  · rw [after, List.concat_eq_append, List.foldl_append]
    exact rested_afterSession config _ last

end HandshakeFields

/-- Only a HELLO of version 3 is accepted, and only once. -/
theorem version_of_accepts {protocolVersion : Nat} {registered : List Nat} {data : Bytes}
    {hello : Hello} {capabilityIds : List Nat}
    (accepted : dispatchTransportFrame protocolVersion registered data =
      .accepts hello capabilityIds) :
    hello.version = 3 := by
  have of_hello : ∀ {frame : Frame} {ids : List Nat},
      receiveHello protocolVersion frame ids = .accepts hello capabilityIds →
        hello.version = 3 := by
    intro frame ids received
    simp only [receiveHello] at received
    split_ifs at received
    split at received
    · cases received
    · split_ifs at received with limits
      obtain ⟨rfl, -⟩ := FrameEffect.accepts.inj received
      exact not_not.mp (not_or.mp limits).1
  have not_rejected : ∀ frame : Frame,
      receiveConnectRejected frame ≠ .accepts hello capabilityIds := by
    intro frame received
    simp only [receiveConnectRejected] at received
    split at received
    · cases received
    · split_ifs at received
  have not_goaway : ∀ frame : Frame, receiveGoaway frame ≠ .accepts hello capabilityIds := by
    intro frame received
    simp only [receiveGoaway] at received
    split at received
    · cases received
    · split_ifs at received
  simp only [dispatchTransportFrame] at accepted
  split at accepted
  case isTrue => cases accepted
  case isFalse =>
    split at accepted
    · cases accepted
    · split at accepted
      · cases accepted
      · split_ifs at accepted
        · exact of_hello accepted
        · exact absurd accepted (not_rejected _)
        · exact absurd accepted (not_goaway _)

namespace Handshake

/-- Two handshakes that have done the same so far, the one under the inherited
limit `first` and the other one under `second`. -/
structure Alike (first second : Nat) (left right : Handshake) : Prop where
  verdict : left.verdict = right.verdict
  receiving : left.receiving = right.receiving
  compared : left.compared = right.compared
  protocolVersion : left.fields.protocolVersion = right.fields.protocolVersion
  capabilityIds : left.fields.capabilityIds = right.fields.capabilityIds
  inherited : left.fields.protocolVersion = 0 →
    left.fields.maxMessageBytes = first ∧ right.fields.maxMessageBytes = second
  negotiated : left.fields.protocolVersion ≠ 0 →
    left.fields.maxMessageBytes = right.fields.maxMessageBytes ∧
      left.fields.maxInFlight = right.fields.maxInFlight
  accepted : left.verdict = .accepted → left.fields.protocolVersion ≠ 0
  pending : left.receiving = true → left.fields.protocolVersion = 0 → left.verdict = .pending

variable {config : HandshakeConfig} {first second : Nat} {left right : Handshake}

theorem Alike.start {left right : HandshakeFields} (leftRested : left.Rested)
    (rightRested : right.Rested) :
    Alike left.maxMessageBytes right.maxMessageBytes
      ({ fields := left } : Handshake) ({ fields := right } : Handshake) where
  verdict := rfl
  receiving := rfl
  compared := rfl
  protocolVersion := leftRested.protocolVersion.trans rightRested.protocolVersion.symm
  capabilityIds := leftRested.capabilityIds.trans rightRested.capabilityIds.symm
  inherited _ := ⟨rfl, rfl⟩
  negotiated established := absurd leftRested.protocolVersion established
  accepted resolved := nomatch resolved
  pending _ _ := rfl

theorem Alike.compare (alike : Alike first second left right) (length : Nat) :
    Alike first second (left.compare length) (right.compare length) :=
  { alike with
    compared := by
      simp only [Handshake.compare, alike.compared, alike.protocolVersion] }

/-- Neither handshake is resolved by an exception once its future is done. -/
theorem Alike.raise (alike : Alike first second left right) (error : HandshakeError) :
    Alike first second (left.raise error) (right.raise error) := by
  by_cases pending : left.verdict = .pending
  · have pendingRight : right.verdict = .pending := alike.verdict.symm.trans pending
    simp only [Handshake.raise, resolve, if_pos pending, if_pos pendingRight]
    exact { alike with
      verdict := rfl
      receiving := rfl
      accepted := fun resolved => nomatch resolved
      pending := fun receiving => nomatch receiving }
  · have settledRight : ¬ right.verdict = .pending := fun pendingRight =>
      pending (alike.verdict.trans pendingRight)
    simp only [Handshake.raise, resolve, if_neg pending, if_neg settledRight]
    exact { alike with
      receiving := rfl
      pending := fun receiving => nomatch receiving }

theorem Alike.act (alike : Alike first second left right) {effect : FrameEffect}
    (versioned : ∀ hello ids, effect = .accepts hello ids → hello.version = 3) :
    Alike first second (left.act config effect) (right.act config effect) := by
  cases effect with
  | none => exact { alike with }
  | announces goaway => exact { alike with }
  | refuses sessionId error =>
      have moved : Alike first second
          { left with fields := { left.fields with sessionId } }
          { right with fields := { right.fields with sessionId } } :=
        { alike with }
      exact moved.raise (.wire error)
  | raises error => exact alike.raise (.wire error)
  | accepts hello ids =>
      have version : hello.version = 3 := versioned hello ids rfl
      have moved : Alike first second
          { left with fields := left.fields.apply config (.accepts hello ids) }
          { right with fields := right.fields.apply config (.accepts hello ids) } :=
        { alike with
          protocolVersion := rfl
          capabilityIds := rfl
          inherited := fun unset => absurd (version.symm.trans unset) (by decide)
          negotiated := fun _ => ⟨rfl, rfl⟩
          accepted := fun _ unset => absurd (version.symm.trans unset) (by decide)
          pending := fun _ unset => absurd (version.symm.trans unset) (by decide) }
      by_cases pending : left.verdict = .pending
      · have pendingRight : right.verdict = .pending := alike.verdict.symm.trans pending
        simp only [Handshake.act, resolve, if_pos pending, if_pos pendingRight]
        exact { moved with
          verdict := rfl
          accepted := fun _ unset => absurd (version.symm.trans unset) (by decide)
          pending := fun _ unset => absurd (version.symm.trans unset) (by decide) }
      · have settledRight : ¬ right.verdict = .pending := fun pendingRight =>
          pending (alike.verdict.trans pendingRight)
        simpa only [Handshake.act, resolve, if_neg pending, if_neg settledRight] using moved

/-- Both limits take the length, or both refuse it. -/
def Agrees (first second length : Nat) : Prop :=
  length ≤ first ↔ length ≤ second

/-- Where the limits agree on the length of a message, the handshakes do the
same with it. -/
theorem Alike.receive (alike : Alike first second left right) (data : Bytes)
    (agrees : left.receiving = true → left.fields.protocolVersion = 0 →
      Agrees first second data.length) :
    Alike first second (left.receive config [] data) (right.receive config [] data) := by
  have sameLimit : left.receiving = true →
      (left.fields.maxMessageBytes < data.length ↔
        right.fields.maxMessageBytes < data.length) := by
    intro receiving
    by_cases unset : left.fields.protocolVersion = 0
    · obtain ⟨limitLeft, limitRight⟩ := alike.inherited unset
      rw [limitLeft, limitRight, ← Nat.not_le, ← Nat.not_le]
      exact not_congr (agrees receiving unset)
    · rw [(alike.negotiated unset).1]
  simp only [Handshake.receive, ← alike.receiving, ← alike.protocolVersion]
  by_cases receiving : left.receiving = true
  · rw [if_pos receiving, if_pos receiving]
    by_cases long : left.fields.maxMessageBytes < data.length
    · rw [if_pos long, if_pos ((sameLimit receiving).mp long)]
      exact (alike.compare data.length).raise _
    · rw [if_neg long, if_neg (mt (sameLimit receiving).mpr long)]
      exact (alike.compare data.length).act fun _ _ => version_of_accepts
  · rw [if_neg receiving, if_neg receiving]
    exact alike

/-- The future holds that a message of this length is too long. -/
def Refused (length : Nat) (handshake : Handshake) : Prop :=
  handshake.verdict = .rejected (.messageTooLong length)

/-- A message of this length was not too long, nor will be while the limit is
the inherited one. -/
structure Passed (length : Nat) (handshake : Handshake) : Prop where
  verdict : handshake.verdict ≠ .rejected (.messageTooLong length)
  limit : handshake.receiving = true → handshake.verdict = .pending →
    length ≤ handshake.fields.maxMessageBytes

theorem verdict_raise (handshake : Handshake) (error : HandshakeError) :
    (handshake.raise error).verdict =
      if handshake.verdict = .pending then .rejected error else handshake.verdict := by
  simp only [Handshake.raise, resolve]
  split_ifs <;> rfl

theorem verdict_act_accepts (handshake : Handshake) (hello : Hello) (ids : List Nat) :
    (handshake.act config (.accepts hello ids)).verdict =
      if handshake.verdict = .pending then .accepted else handshake.verdict := by
  simp only [Handshake.act, resolve]
  split_ifs <;> rfl

theorem Refused.settled {length : Nat} {handshake : Handshake}
    (refused : Refused length handshake) : handshake.verdict ≠ .pending := by
  rw [refused]
  nofun

theorem Refused.raise {length : Nat} {handshake : Handshake} (refused : Refused length handshake)
    (error : HandshakeError) : Refused length (handshake.raise error) := by
  rw [Refused, verdict_raise, if_neg refused.settled]
  exact refused

theorem Refused.act {length : Nat} {handshake : Handshake} (refused : Refused length handshake)
    (effect : FrameEffect) : Refused length (handshake.act config effect) := by
  cases effect with
  | none | announces goaway => exact refused
  | refuses sessionId error =>
      have moved : Refused length
          { handshake with fields := { handshake.fields with sessionId } } := refused
      exact moved.raise _
  | raises error => exact refused.raise _
  | accepts hello ids =>
      rw [Refused, verdict_act_accepts, if_neg refused.settled]
      exact refused

theorem Refused.receive {length : Nat} {handshake : Handshake}
    (refused : Refused length handshake) (data : Bytes) :
    Refused length (handshake.receive config [] data) := by
  have compared : Refused length (handshake.compare data.length) := refused
  simp only [Handshake.receive]
  split_ifs with receiving long
  · exact compared.raise _
  · exact compared.act _
  · exact refused

theorem Passed.raise {length : Nat} {handshake : Handshake} {error : HandshakeError}
    (passed : Passed length handshake)
    (other : handshake.verdict = .pending → error ≠ .messageTooLong length) :
    Passed length (handshake.raise error) := by
  refine ⟨?_, fun receiving => nomatch receiving⟩
  rw [verdict_raise]
  split_ifs with pending
  · exact fun same => other pending (AuthVerdict.rejected.inj same)
  · exact passed.verdict

theorem Passed.act {length : Nat} {handshake : Handshake} (passed : Passed length handshake)
    (effect : FrameEffect) : Passed length (handshake.act config effect) := by
  cases effect with
  | none | announces goaway => exact ⟨passed.verdict, passed.limit⟩
  | refuses sessionId error =>
      have moved : Passed length
          { handshake with fields := { handshake.fields with sessionId } } :=
        ⟨passed.verdict, passed.limit⟩
      exact moved.raise fun _ => nofun
  | raises error => exact passed.raise fun _ => nofun
  | accepts hello ids =>
      by_cases pending : handshake.verdict = .pending
      · have accepted : (handshake.act config (.accepts hello ids)).verdict = .accepted := by
          rw [verdict_act_accepts, if_pos pending]
        exact ⟨by rw [accepted]; nofun, fun _ unresolved => nomatch accepted.symm.trans unresolved⟩
      · have kept : (handshake.act config (.accepts hello ids)).verdict = handshake.verdict := by
          rw [verdict_act_accepts, if_neg pending]
        exact ⟨by rw [kept]; exact passed.verdict,
          fun _ unresolved => absurd (kept.symm.trans unresolved) pending⟩

theorem Passed.receive {length : Nat} {handshake : Handshake} (passed : Passed length handshake)
    (data : Bytes) : Passed length (handshake.receive config [] data) := by
  have compared : Passed length (handshake.compare data.length) := ⟨passed.verdict, passed.limit⟩
  simp only [Handshake.receive]
  split_ifs with receiving long
  · refine compared.raise fun pending same => ?_
    have within := passed.limit receiving pending
    rw [← HandshakeError.messageTooLong.inj same] at within
    omega
  · exact compared.act _
  · exact passed

/-- One handshake has refused a message that the other one has passed. -/
def Parted (left right : Handshake) : Prop :=
  ∃ length, (Refused length left ∧ Passed length right) ∨
    (Passed length left ∧ Refused length right)

theorem Refused.receiveAll {length : Nat} {handshake : Handshake}
    (refused : Refused length handshake) (messages : List Bytes) :
    Refused length (handshake.receiveAll config messages) := by
  induction messages generalizing handshake with
  | nil => exact refused
  | cons data messages ih => exact ih (refused.receive data)

theorem Passed.receiveAll {length : Nat} {handshake : Handshake} (passed : Passed length handshake)
    (messages : List Bytes) : Passed length (handshake.receiveAll config messages) := by
  induction messages generalizing handshake with
  | nil => exact passed
  | cons data messages ih => exact ih (passed.receive data)

theorem Parted.receiveAll (parted : Parted left right) (messages : List Bytes) :
    Parted (left.receiveAll config messages) (right.receiveAll config messages) := by
  obtain ⟨length, ⟨refused, passed⟩ | ⟨passed, refused⟩⟩ := parted
  · exact ⟨length, Or.inl ⟨refused.receiveAll messages, passed.receiveAll messages⟩⟩
  · exact ⟨length, Or.inr ⟨passed.receiveAll messages, refused.receiveAll messages⟩⟩

theorem Parted.verdict_ne (parted : Parted left right) : left.verdict ≠ right.verdict := by
  obtain ⟨length, ⟨refused, passed⟩ | ⟨passed, refused⟩⟩ := parted
  · exact fun same => passed.verdict (same.symm.trans refused)
  · exact fun same => passed.verdict (same.trans refused)

theorem refused_of_long {handshake : Handshake} {data : Bytes}
    (receiving : handshake.receiving = true) (pending : handshake.verdict = .pending)
    (long : handshake.fields.maxMessageBytes < data.length) :
    Refused data.length (handshake.receive config [] data) := by
  rw [Handshake.receive, if_pos receiving, if_pos long, Refused, verdict_raise]
  exact if_pos pending

theorem passed_of_short {handshake : Handshake} {data : Bytes}
    (receiving : handshake.receiving = true) (pending : handshake.verdict = .pending)
    (short : data.length ≤ handshake.fields.maxMessageBytes) :
    Passed data.length (handshake.receive config [] data) := by
  have unresolved : handshake.verdict ≠ .rejected (.messageTooLong data.length) := by
    rw [pending]
    nofun
  have compared : Passed data.length (handshake.compare data.length) :=
    ⟨unresolved, fun _ _ => short⟩
  rw [Handshake.receive, if_pos receiving, if_neg (Nat.not_lt.mpr short)]
  exact compared.act _

/-- Where the limits do not agree on the length of a message, the handshakes
part. -/
theorem Alike.part (alike : Alike first second left right) {data : Bytes}
    (receiving : left.receiving = true) (unset : left.fields.protocolVersion = 0)
    (differs : ¬ Agrees first second data.length) :
    Parted (left.receive config [] data) (right.receive config [] data) := by
  obtain ⟨limitLeft, limitRight⟩ := alike.inherited unset
  have pending : left.verdict = .pending := alike.pending receiving unset
  have receivingRight : right.receiving = true := alike.receiving.symm.trans receiving
  have pendingRight : right.verdict = .pending := alike.verdict.symm.trans pending
  by_cases fits : data.length ≤ first
  · have long : ¬ data.length ≤ second := fun short => differs ⟨fun _ => short, fun _ => fits⟩
    exact ⟨data.length, Or.inr ⟨passed_of_short receiving pending (limitLeft ▸ fits),
      refused_of_long receivingRight pendingRight (by omega)⟩⟩
  · have short : data.length ≤ second := by
      by_contra long
      exact differs ⟨fun fitting => absurd fitting fits, fun fitting => absurd fitting long⟩
    exact ⟨data.length, Or.inl ⟨refused_of_long receiving pending (by omega),
      passed_of_short receivingRight pendingRight (limitRight ▸ short)⟩⟩

theorem compared_receive (handshake : Handshake) (data : Bytes) :
    (handshake.receive config [] data).compared =
      if handshake.receiving = true ∧ handshake.fields.protocolVersion = 0 then
        handshake.compared ++ [data.length]
      else
        handshake.compared := by
  have compared_raise : ∀ (handshake : Handshake) (error : HandshakeError),
      (handshake.raise error).compared = handshake.compared := by
    intro handshake error
    simp only [Handshake.raise, resolve]
    split_ifs <;> rfl
  have compared_act : ∀ (handshake : Handshake) (effect : FrameEffect),
      (handshake.act config effect).compared = handshake.compared := by
    intro handshake effect
    cases effect with
    | none | announces goaway => rfl
    | refuses sessionId error | raises error => exact compared_raise _ _
    | accepts hello ids =>
        simp only [Handshake.act, resolve]
        split_ifs <;> rfl
  by_cases receiving : handshake.receiving = true
  · simp only [Handshake.receive, apply_ite Handshake.compared, compared_raise, compared_act,
      ite_self, Handshake.compare, receiving, true_and, if_true]
  · rw [Handshake.receive, if_neg receiving, if_neg fun both => receiving both.1]

/-- All lengths that were compared are on the same side of both limits. -/
def AllAgree (first second : Nat) (handshake : Handshake) : Prop :=
  ∀ length ∈ handshake.compared, Agrees first second length

theorem mem_compared_receiveAll {handshake : Handshake} {length : Nat} (messages : List Bytes)
    (compared : length ∈ handshake.compared) :
    length ∈ (handshake.receiveAll config messages).compared := by
  induction messages generalizing handshake with
  | nil => exact compared
  | cons data messages ih =>
      refine ih ?_
      rw [compared_receive]
      split
      · exact List.mem_append_left _ compared
      · exact compared

/-- While messages arrive, the handshakes stay alike, or they part at a length
that the limits do not agree on. -/
theorem Alike.receiveAll (alike : Alike first second left right)
    (agree : AllAgree first second left) (config : HandshakeConfig) (messages : List Bytes) :
    (Alike first second (left.receiveAll config messages) (right.receiveAll config messages) ∧
        AllAgree first second (left.receiveAll config messages)) ∨
      (Parted (left.receiveAll config messages) (right.receiveAll config messages) ∧
        ¬ AllAgree first second (left.receiveAll config messages)) := by
  induction messages generalizing left right with
  | nil => exact Or.inl ⟨alike, agree⟩
  | cons data messages ih =>
      by_cases compares : left.receiving = true ∧ left.fields.protocolVersion = 0
      · have added : (left.receive config [] data).compared = left.compared ++ [data.length] := by
          rw [compared_receive, if_pos compares]
        by_cases agrees : Agrees first second data.length
        · refine ih (alike.receive data fun _ _ => agrees) fun length compared => ?_
          rw [added, List.mem_append, List.mem_singleton] at compared
          rcases compared with before | rfl
          · exact agree length before
          · exact agrees
        · refine Or.inr ⟨(alike.part compares.1 compares.2 agrees).receiveAll messages,
            fun all => agrees (all data.length ?_)⟩
          refine mem_compared_receiveAll messages ?_
          rw [added]
          exact List.mem_append_right _ (List.mem_singleton_self _)
      · have kept : (left.receive config [] data).compared = left.compared := by
          rw [compared_receive, if_neg compares]
        refine ih (alike.receive data fun receiving unset => absurd ⟨receiving, unset⟩ compares)
          fun length compared => ?_
        rw [kept] at compared
        exact agree length compared

theorem Alike.conclude (alike : Alike first second left right) :
    left.conclude = right.conclude := by
  simp only [Handshake.conclude, ← alike.verdict, ← alike.receiving, ← alike.capabilityIds]
  cases verdict : left.verdict with
  | pending => rfl
  | rejected error => rfl
  | accepted =>
      obtain ⟨sameLimit, sameInFlight⟩ := alike.negotiated (alike.accepted verdict)
      simp only [sameLimit, sameInFlight]

/-- The verdict that an attempt shows is the one it leaves. -/
theorem verdict_sendConnect (handshake : Handshake) (frame : Except WireException Bytes)
    (late : List Bytes) :
    (handshake.sendConnect config frame late).1.verdict =
      (handshake.sendConnect config frame late).2.verdict := by
  simp only [sendConnect]
  split
  · rfl
  · split_ifs <;> rfl

theorem Refused.sendConnect {length : Nat} {handshake : Handshake}
    (refused : Refused length handshake) (frame : Except WireException Bytes)
    (late : List Bytes) : Refused length (handshake.sendConnect config frame late).2 := by
  simp only [Handshake.sendConnect]
  split
  · exact refused
  · rename_i bytes
    have compared : Refused length (handshake.compare bytes.length) := refused
    split_ifs
    · exact compared
    · exact compared.receiveAll late

theorem Passed.sendConnect {length : Nat} {handshake : Handshake}
    (passed : Passed length handshake) (frame : Except WireException Bytes)
    (late : List Bytes) : Passed length (handshake.sendConnect config frame late).2 := by
  simp only [Handshake.sendConnect]
  split
  · exact passed
  · rename_i bytes
    have compared : Passed length (handshake.compare bytes.length) :=
      ⟨passed.verdict, passed.limit⟩
    split_ifs
    · exact compared
    · exact compared.receiveAll late

theorem mem_compare {handshake : Handshake} {length : Nat} (added : Nat)
    (compared : length ∈ handshake.compared) : length ∈ (handshake.compare added).compared := by
  simp only [Handshake.compare]
  split
  · exact List.mem_append_left _ compared
  · exact compared

theorem mem_compared_sendConnect {handshake : Handshake} {length : Nat}
    (compared : length ∈ handshake.compared) (frame : Except WireException Bytes)
    (late : List Bytes) : length ∈ (handshake.sendConnect config frame late).2.compared := by
  simp only [Handshake.sendConnect]
  split
  · exact compared
  · split_ifs
    · exact mem_compare _ compared
    · exact mem_compared_receiveAll late (mem_compare _ compared)

/-- Handshakes that have parted before CONNECT show different results. -/
theorem Parted.sendConnect_ne (parted : Parted left right) (frame : Except WireException Bytes)
    (late : List Bytes) :
    (left.sendConnect config frame late).1 ≠ (right.sendConnect config frame late).1 := by
  have partedAfter : Parted (left.sendConnect config frame late).2
      (right.sendConnect config frame late).2 := by
    obtain ⟨length, ⟨refused, passed⟩ | ⟨passed, refused⟩⟩ := parted
    · exact ⟨length, Or.inl ⟨refused.sendConnect frame late, passed.sendConnect frame late⟩⟩
    · exact ⟨length, Or.inr ⟨passed.sendConnect frame late, refused.sendConnect frame late⟩⟩
  intro same
  refine partedAfter.verdict_ne ?_
  rw [← verdict_sendConnect, ← verdict_sendConnect, same]

theorem AllAgree.compare {handshake : Handshake} (agree : AllAgree first second handshake)
    {length : Nat} (agrees : handshake.fields.protocolVersion = 0 → Agrees first second length) :
    AllAgree first second (handshake.compare length) := by
  intro other compared
  simp only [Handshake.compare] at compared
  split at compared
  case isTrue unset =>
    rcases List.mem_append.mp compared with before | added
    · exact agree other before
    · rw [List.mem_singleton.mp added]
      exact agrees unset
  case isFalse => exact agree other compared

/-- Alike handshakes show the same result exactly if the limits agree on all
lengths that are compared from here on. -/
theorem Alike.sendConnect_iff (alike : Alike first second left right)
    (agree : AllAgree first second left) (frame : Except WireException Bytes)
    (late : List Bytes) :
    (left.sendConnect config frame late).1 = (right.sendConnect config frame late).1 ↔
      AllAgree first second (left.sendConnect config frame late).2 := by
  cases frame with
  | error error =>
      simp only [Handshake.sendConnect, alike.verdict, true_iff]
      exact agree
  | ok bytes =>
      by_cases agrees : left.fields.protocolVersion = 0 → Agrees first second bytes.length
      · have compared := alike.compare bytes.length
        have agreeCompared := agree.compare agrees
        have sameLimit : left.fields.maxMessageBytes < bytes.length ↔
            right.fields.maxMessageBytes < bytes.length := by
          by_cases unset : left.fields.protocolVersion = 0
          · obtain ⟨limitLeft, limitRight⟩ := alike.inherited unset
            rw [limitLeft, limitRight, ← Nat.not_le, ← Nat.not_le]
            exact not_congr (agrees unset)
          · rw [(alike.negotiated unset).1]
        by_cases long : left.fields.maxMessageBytes < bytes.length
        · simp only [Handshake.sendConnect, if_pos long, if_pos (sameLimit.mp long),
            alike.verdict, true_iff]
          exact agreeCompared
        · simp only [Handshake.sendConnect, if_neg long, if_neg (mt sameLimit.mpr long)]
          rcases compared.receiveAll agreeCompared config late with
            ⟨after, agreeAfter⟩ | ⟨parted, differ⟩
          · simp only [after.verdict, after.conclude, true_iff]
            exact agreeAfter
          · refine ⟨fun same => absurd ?_ parted.verdict_ne, fun all => absurd all differ⟩
            exact congrArg AttemptResult.verdict same
      · -- one client sends the frame and the other one does not
        obtain ⟨unset, differs⟩ := Classical.not_imp.mp agrees
        obtain ⟨limitLeft, limitRight⟩ := alike.inherited unset
        have added : bytes.length ∈ (left.compare bytes.length).compared := by
          simp only [Handshake.compare, if_pos unset]
          exact List.mem_append_right _ (List.mem_singleton_self _)
        have differ : ¬ AllAgree first second (left.sendConnect config (.ok bytes) late).2 := by
          refine fun all => differs (all bytes.length ?_)
          simp only [Handshake.sendConnect]
          split_ifs
          · exact added
          · exact mem_compared_receiveAll late added
        refine ⟨fun same => absurd (congrArg AttemptResult.connect same) ?_,
          fun all => absurd all differ⟩
        have opposite : (left.fields.maxMessageBytes < bytes.length) ↔
            ¬ right.fields.maxMessageBytes < bytes.length := by
          rw [limitLeft, limitRight, Nat.not_lt, ← Nat.not_le]
          exact not_iff.mp differs
        by_cases long : left.fields.maxMessageBytes < bytes.length
        · simp [Handshake.sendConnect, if_pos long, if_neg (opposite.mp long)]
        · simp [Handshake.sendConnect, if_neg long, if_pos (not_not.mp (mt opposite.mpr long))]

end Handshake

namespace Handshake

/-- The handshake waits for a HELLO under an inherited limit. -/
structure Waits (limit : Nat) (handshake : Handshake) : Prop where
  receiving : handshake.receiving = true
  verdict : handshake.verdict = .pending
  protocolVersion : handshake.fields.protocolVersion = 0
  limit_eq : handshake.fields.maxMessageBytes = limit

/-- What `listen` says about a handshake that has received its messages. -/
def Stands (limit : Nat) (handshake : Handshake) : Listening → Prop
  | .waiting => Waits limit handshake
  | .greeted => handshake.fields.protocolVersion ≠ 0
  | .ended => handshake.receiving = false ∧ handshake.fields.protocolVersion = 0

variable {config : HandshakeConfig} {limit : Nat} {handshake : Handshake}

theorem receiveAll_of_ended (ended : handshake.receiving = false) (config : HandshakeConfig)
    (messages : List Bytes) : handshake.receiveAll config messages = handshake := by
  induction messages with
  | nil => rfl
  | cons data messages ih =>
      have ignored : handshake.receive config [] data = handshake := by
        rw [Handshake.receive, if_neg (by simp [ended])]
      rw [receiveAll, List.foldl_cons, ignored]
      exact ih

theorem fields_resolve (handshake : Handshake) (verdict : AuthVerdict) :
    (handshake.resolve verdict).fields = handshake.fields := by
  simp only [resolve]
  split <;> rfl

theorem fields_raise (handshake : Handshake) (error : HandshakeError) :
    (handshake.raise error).fields = handshake.fields :=
  fields_resolve _ _

/-- Once a HELLO was accepted, no limit is inherited. -/
theorem greeted_receive (greeted : handshake.fields.protocolVersion ≠ 0) (data : Bytes) :
    (handshake.receive config [] data).fields.protocolVersion ≠ 0 ∧
      (handshake.receive config [] data).compared = handshake.compared := by
  refine ⟨?_, by rw [compared_receive, if_neg fun both => greeted both.2]⟩
  simp only [Handshake.receive]
  split_ifs
  · simp only [Handshake.raise, fields_resolve]
    exact greeted
  · cases effect : dispatchTransportFrame handshake.fields.protocolVersion [] data with
    | none | announces goaway => exact greeted
    | refuses sessionId error | raises error =>
        simp only [Handshake.act, Handshake.raise, fields_resolve]
        exact greeted
    | accepts hello ids =>
        simp only [Handshake.act, fields_resolve]
        change hello.version ≠ 0
        rw [version_of_accepts effect]
        decide
  · exact greeted

theorem greeted_receiveAll (greeted : handshake.fields.protocolVersion ≠ 0)
    (config : HandshakeConfig) (messages : List Bytes) :
    (handshake.receiveAll config messages).fields.protocolVersion ≠ 0 ∧
      (handshake.receiveAll config messages).compared = handshake.compared := by
  induction messages generalizing handshake with
  | nil => exact ⟨greeted, rfl⟩
  | cons data messages ih =>
      have next : (handshake.receive config [] data).fields.protocolVersion ≠ 0 ∧
          (handshake.receive config [] data).compared = handshake.compared :=
        greeted_receive greeted data
      exact ⟨(ih next.1).1, (ih next.1).2.trans next.2⟩

/-- One message, by what the receive loop does with it. -/
theorem Waits.receive (waits : Waits limit handshake) (config : HandshakeConfig) (data : Bytes) :
    (handshake.receive config [] data).compared = handshake.compared ++ [data.length] ∧
      Stands limit (handshake.receive config [] data) (hear limit data) := by
  refine ⟨by rw [compared_receive, if_pos ⟨waits.receiving, waits.protocolVersion⟩], ?_⟩
  simp only [Handshake.receive, if_pos waits.receiving, waits.limit_eq, waits.protocolVersion,
    hear]
  split_ifs
  · exact ⟨rfl, (congrArg _ (fields_raise _ _)).trans waits.protocolVersion⟩
  · cases effect : dispatchTransportFrame 0 [] data with
    | none | announces goaway =>
        exact ⟨waits.receiving, waits.verdict, waits.protocolVersion, waits.limit_eq⟩
    | refuses sessionId error | raises error =>
        exact ⟨rfl, (congrArg _ (fields_raise _ _)).trans waits.protocolVersion⟩
    | accepts hello ids =>
        have version : hello.version ≠ 0 := by
          rw [version_of_accepts effect]
          decide
        rw [Stands, Handshake.act, fields_resolve]
        exact version

theorem Waits.receiveAll (waits : Waits limit handshake) (config : HandshakeConfig)
    (messages : List Bytes) :
    (handshake.receiveAll config messages).compared =
        handshake.compared ++ (listen limit messages).1 ∧
      Stands limit (handshake.receiveAll config messages) (listen limit messages).2 := by
  induction messages generalizing handshake with
  | nil => exact ⟨(List.append_nil _).symm, waits⟩
  | cons data messages ih =>
      obtain ⟨added, stands⟩ := waits.receive config data
      cases heard : hear limit data with
      | waiting =>
          rw [heard] at stands
          obtain ⟨rest, standsAfter⟩ := ih stands
          simp only [listen, heard]
          refine ⟨?_, standsAfter⟩
          rw [receiveAll, List.foldl_cons]
          exact rest.trans (by rw [added, List.append_assoc, List.singleton_append])
      | greeted =>
          rw [heard] at stands
          simp only [listen, heard]
          rw [receiveAll, List.foldl_cons]
          obtain ⟨still, kept⟩ := greeted_receiveAll stands config messages
          exact ⟨kept.trans added, still⟩
      | ended =>
          rw [heard] at stands
          simp only [listen, heard]
          have finished := receiveAll_of_ended stands.1 config messages
          rw [receiveAll] at finished
          rw [receiveAll, List.foldl_cons, finished]
          exact ⟨added, stands⟩

/-- The lengths that an attempt compares are read off its messages. -/
theorem compared_openAndAuthenticate {fields : HandshakeFields} (rested : fields.Rested)
    (config : HandshakeConfig) (script : AttemptScript) :
    (openAndAuthenticate config fields script).2.compared =
      script.inheritedLengths config fields.maxMessageBytes := by
  have start : Waits fields.maxMessageBytes ({ fields } : Handshake) :=
    ⟨rfl, rfl, rested.protocolVersion, rfl⟩
  obtain ⟨early, stands⟩ := start.receiveAll config script.early
  rw [List.nil_append] at early
  rw [openAndAuthenticate]
  generalize ({ fields } : Handshake).receiveAll config script.early = before at early stands
  generalize heard : listen fields.maxMessageBytes script.early = listened at early stands
  obtain ⟨lengths, listening⟩ := listened
  simp only at early stands
  cases frame : connectFrame config script.token with
  | error error =>
      simpa only [AttemptScript.inheritedLengths, frame, heard, sendConnect] using early
  | ok bytes =>
      cases listening with
      | greeted =>
          simp only [AttemptScript.inheritedLengths, frame, heard, sendConnect]
          have kept : (before.compare bytes.length).compared = before.compared := by
            rw [Handshake.compare, if_neg stands]
          have stillGreeted : (before.compare bytes.length).fields.protocolVersion ≠ 0 := stands
          have later := greeted_receiveAll stillGreeted config script.late
          split_ifs
          · exact kept.trans early
          · exact (later.2.trans kept).trans early
      | ended =>
          simp only [AttemptScript.inheritedLengths, frame, heard, sendConnect]
          have added : (before.compare bytes.length).compared = lengths ++ [bytes.length] := by
            rw [Handshake.compare, if_pos stands.2, early]
          have stillEnded : (before.compare bytes.length).receiving = false := stands.1
          have finished := receiveAll_of_ended stillEnded config script.late
          split_ifs
          · exact added
          · rw [finished]
            exact added
      | waiting =>
          simp only [AttemptScript.inheritedLengths, frame, heard, sendConnect]
          have added : (before.compare bytes.length).compared = lengths ++ [bytes.length] := by
            rw [Handshake.compare, if_pos stands.protocolVersion, early]
          have waits : Waits fields.maxMessageBytes (before.compare bytes.length) := { stands with }
          rw [stands.limit_eq]
          split_ifs
          · exact added
          · rw [(waits.receiveAll config script.late).1, added, List.append_assoc,
              List.singleton_append]

/-- Two clients at rest make the same attempt exactly if every length that it
compares with the limit of the first one is on the same side of both. -/
theorem openAndAuthenticate_eq_iff {firstFields secondFields : HandshakeFields}
    (firstRested : firstFields.Rested) (secondRested : secondFields.Rested)
    (config : HandshakeConfig) (script : AttemptScript) :
    (openAndAuthenticate config firstFields script).1 =
        (openAndAuthenticate config secondFields script).1 ↔
      ∀ length ∈ script.inheritedLengths config firstFields.maxMessageBytes,
        Agrees firstFields.maxMessageBytes secondFields.maxMessageBytes length := by
  have start := Alike.start firstRested secondRested
  have nothing : AllAgree firstFields.maxMessageBytes secondFields.maxMessageBytes
      ({ fields := firstFields } : Handshake) :=
    fun length compared => absurd compared (List.not_mem_nil)
  rw [← compared_openAndAuthenticate firstRested]
  rcases start.receiveAll nothing config script.early with ⟨alike, agree⟩ | ⟨parted, differ⟩
  · exact alike.sendConnect_iff agree _ script.late
  · refine ⟨fun same => absurd same (parted.sendConnect_ne _ script.late), fun all => ?_⟩
    exact absurd (fun length compared => all length (mem_compared_sendConnect compared _ _)) differ

end Handshake

open Handshake in
/-- Two clients with the same configuration make the same attempt, whatever
sessions they have had, and no limit of these sessions has a part in it, exactly
if every length that the attempt compares with an inherited limit is on the same
side of both clients' limits and of the configured one. -/
theorem handshakes_independent_iff (config : HandshakeConfig)
    (firstSessions secondSessions : List EarlierSession) (script : AttemptScript) :
    (openAndAuthenticate config (.after config firstSessions) script).1 =
        (openAndAuthenticate config (.after config secondSessions) script).1 ∧
      (openAndAuthenticate config (.after config firstSessions) script).1 =
        (openAndAuthenticate config (.new config) script).1 ↔
      ∀ length ∈ script.inheritedLengths config
          (HandshakeFields.after config firstSessions).maxMessageBytes,
        (length ≤ (HandshakeFields.after config firstSessions).maxMessageBytes ↔
          length ≤ (HandshakeFields.after config secondSessions).maxMessageBytes) ∧
        (length ≤ (HandshakeFields.after config firstSessions).maxMessageBytes ↔
          length ≤ (HandshakeFields.new config).maxMessageBytes) := by
  have firstRested := HandshakeFields.rested_after config firstSessions
  have secondRested := HandshakeFields.rested_after config secondSessions
  have newRested : (HandshakeFields.new config).Rested := ⟨rfl, rfl⟩
  rw [openAndAuthenticate_eq_iff firstRested secondRested,
    openAndAuthenticate_eq_iff firstRested newRested]
  exact ⟨fun both length compared => ⟨both.1 length compared, both.2 length compared⟩,
    fun all => ⟨fun length compared => (all length compared).1,
      fun length compared => (all length compared).2⟩⟩

/-- A HELLO of the broker with its limits and one capability. -/
def brokerHello (maxMessageBytes maxInFlight : Nat) : Bytes :=
  FrameCodec.layout {
    messageType := 2
    flags := 4
    correlationId := 0
    payload :=
      BigEndian.encode 4 22 ++ BigEndian.encode 2 3 ++ BigEndian.encode 4 0 ++
        BigEndian.encode 4 maxMessageBytes ++ BigEndian.encode 4 maxInFlight ++
        BigEndian.encode 8 7 ++ BigEndian.encode 2 1 ++ BigEndian.encode 4 6 ++
        BigEndian.encode 2 1 ++ BigEndian.encode 4 1 }

/-- After a session whose messages had at most 64 bytes, the CONNECT frame of
the next attempt is too long to be sent. -/
theorem handshake_depends_on_earlier_limit :
    let config : HandshakeConfig := { maxFrameSize := 1048576, maxInFlight := 256 }
    let script : AttemptScript := { token := .text [], late := [brokerHello 4096 16] }
    let limited : EarlierSession := { script := { token := .text [], late := [brokerHello 64 16] } }
    (Handshake.openAndAuthenticate config (.after config []) script).1.outcome =
        .negotiated 4096 16 [1] ∧
      (Handshake.openAndAuthenticate config (.after config [limited]) script).1 =
        ⟨none, .pending, .failed (.connectTooLong 68)⟩ := by
  decide +kernel

end FitzClient
