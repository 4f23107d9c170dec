import FitzClient.ConnectionClosed
import FitzClient.ConnectionOpeners

/-!
# Authentication rejections

Two things set `_closed`: `_close`, which notifies the close listeners, and an
authentication rejection, which does not.  Every other transition of the
connection leaves the flag alone.
-/

namespace FitzClient

namespace Connection

variable {connection next : Connection} {opener : Opener}

/-- This transition takes an authentication rejection. -/
def rejects (connection : Connection) : ConnectionAction → Bool
  | .resumeOpen opener =>
      match connection.attempt opener with
      | some { transport, phase := .closing .authentication } =>
          (connection.receiver transport).isNone
      | some { phase := .gathering .authentication, .. } => true
      | some { phase := .rejecting, .. } => true
      | _ => false
  | .wakeReconnect (some .authentication) => true
  | _ => false

theorem closed_closeLost (connection : Connection) (origin : LossOrigin)
    (taken : Option Nat) : (connection.closeLost origin taken).closed = connection.closed := by
  cases taken <;> rfl

theorem closed_connectionLost (connection : Connection) (origin : LossOrigin) :
    (connection.connectionLost origin).closed = connection.closed := by
  unfold connectionLost
  split
  · rfl
  · split
    · split
      · exact closed_closeLost _ _ _
      · rfl
    · exact closed_closeLost _ _ _

theorem closed_startReconnect (connection : Connection) :
    connection.startReconnect.closed = connection.closed := by
  unfold startReconnect
  split
  · rfl
  · split <;> rfl

theorem closed_nextAttempt (connection : Connection) (count : Nat) :
    (connection.nextAttempt count).closed = connection.closed := by
  unfold nextAttempt
  split
  · rfl
  · split <;> rfl

theorem closed_exceptAttempt {error : OpenError} (accepted : error ≠ .authentication)
    (count : Nat) : (connection.exceptAttempt count error).closed = connection.closed := by
  cases error with
  | cancelled => rfl
  | authentication => exact (accepted rfl).elim
  | versionMismatch => rfl
  | other => exact connection.closed_nextAttempt count

theorem closed_raiseOpen {error : OpenError} (accepted : error ≠ .authentication)
    (opener : Opener) : (connection.raiseOpen opener error).closed = connection.closed := by
  unfold raiseOpen
  cases opener with
  | connect => rfl
  | reconnect =>
      dsimp only
      split
      · exact closed_exceptAttempt accepted _
      · rfl

theorem closed_concludeOpen {error : OpenError} (accepted : error ≠ .authentication)
    (opener : Opener) : (connection.concludeOpen opener error).closed = connection.closed := by
  unfold concludeOpen
  rw [if_neg accepted]
  split
  · exact closed_raiseOpen accepted opener
  · exact closed_raiseOpen accepted opener

theorem closed_startHeartbeat (connection : Connection) (opener : Opener) :
    (connection.startHeartbeat opener).closed = connection.closed := by
  unfold startHeartbeat
  split
  · split <;> rfl
  · rfl

theorem closed_declareAuthenticated (connection : Connection) (opener : Opener)
    (transport : Nat) :
    (connection.declareAuthenticated opener transport).closed = connection.closed := by
  unfold declareAuthenticated
  split
  · exact closed_startHeartbeat _ opener
  · rfl

theorem closed_resumeAuth (connection : Connection) (opener : Opener) (transport : Nat) :
    (connection.resumeAuth opener transport).closed = connection.closed := by
  unfold resumeAuth
  split
  · rfl
  · rfl
  · split
    · cases opener with
      | connect => exact closed_declareAuthenticated _ _ _
      | reconnect => rfl
    · rfl

theorem closed_awaitAuth (connection : Connection) (opener : Opener)
    (transport future : Nat) :
    (connection.awaitAuth opener transport future).closed = connection.closed := by
  unfold awaitAuth
  split
  · exact closed_resumeAuth _ _ _
  · rfl
  · rfl

/-- A suspended attempt sets `_closed` where it takes a rejection. -/
theorem closed_resumeOpen (resumed : connection.resumeOpen opener = some next) :
    next.closed = connection.closed ∨ connection.rejects (.resumeOpen opener) = true := by
  unfold resumeOpen at resumed
  unfold rejects
  cases found : connection.attempt opener with
  | none => simp [found] at resumed
  | some attempt =>
      obtain ⟨transport, phase⟩ := attempt
      simp only [found] at resumed ⊢
      cases phase with
      | connecting =>
          obtain rfl := Option.some.inj resumed
          exact Or.inl rfl
      | sendingConnect =>
          dsimp only at resumed
          split at resumed <;> obtain rfl := Option.some.inj resumed
          · exact Or.inl (closed_awaitAuth _ _ _ _)
          · exact Or.inl rfl
      | awaitingAuth future =>
          dsimp only at resumed
          split at resumed
          · obtain rfl := Option.some.inj resumed
            exact Or.inl (closed_resumeAuth _ _ _)
          · obtain rfl := Option.some.inj resumed
            exact Or.inl rfl
          · cases resumed
      | restoring =>
          obtain rfl := Option.some.inj resumed
          exact Or.inl (closed_declareAuthenticated _ _ _)
      | restartingHeartbeat =>
          obtain rfl := Option.some.inj resumed
          exact Or.inl rfl
      | closing error =>
          dsimp only at resumed
          split at resumed <;> obtain rfl := Option.some.inj resumed
          · next silent =>
              by_cases rejected : error = .authentication
              · subst rejected
                exact Or.inr (by simp [silent])
              · exact Or.inl (closed_concludeOpen rejected opener)
          · exact Or.inl rfl
      | gathering error =>
          obtain rfl := Option.some.inj resumed
          by_cases rejected : error = .authentication
          · subst rejected
            exact Or.inr rfl
          · exact Or.inl (closed_concludeOpen rejected opener)
      | rejecting => exact Or.inr rfl

theorem closed_raiseInOpen {error : OpenError}
    (raised : connection.raiseInOpen opener error = some next) :
    next.closed = connection.closed := by
  unfold raiseInOpen at raised
  split at raised
  · cases raised
  · split at raised
    all_goals
      first
      | obtain rfl := Option.some.inj raised
        rfl
      | split_ifs at raised
        obtain rfl := Option.some.inj raised
        rfl

/-- Nothing but `close` and an authentication rejection sets `_closed`. -/
theorem closed_of_step {action : ConnectionAction} (stepped : connection.step action = some next)
    (closed : next.closed = true) :
    connection.closed = true ∨ action = .close ∨ connection.rejects action = true := by
  suffices same : next.closed = connection.closed ∨ action = .close ∨
      connection.rejects action = true from same.imp_left fun same => same.symm.trans closed
  cases action with
  | connect =>
      obtain rfl := Option.some.inj stepped
      refine Or.inl ?_
      unfold connect
      split
      · rfl
      · split <;> rfl
  | startConnect raised =>
      simp only [step] at stepped
      split_ifs at stepped <;> obtain rfl := Option.some.inj stepped
      · exact Or.inl rfl
      · exact Or.inl rfl
  | startReconnect =>
      simp only [step] at stepped
      split_ifs at stepped
      obtain rfl := Option.some.inj stepped
      exact Or.inl (closed_nextAttempt connection 0)
  | wakeReconnect raised =>
      simp only [step] at stepped
      split at stepped
      · next count _ =>
        split_ifs at stepped
        · obtain rfl := Option.some.inj stepped
          exact Or.inl rfl
        · cases raised with
          | none =>
              obtain rfl := Option.some.inj stepped
              exact Or.inl rfl
          | some error =>
              obtain rfl := Option.some.inj stepped
              by_cases rejected : error = .authentication
              · subst rejected
                exact Or.inr (Or.inr rfl)
              · exact Or.inl (closed_exceptAttempt rejected count)
      · cases stepped
  | resumeOpen opener => exact (closed_resumeOpen stepped).imp_right Or.inr
  | raiseInOpen opener error => exact Or.inl (closed_raiseInOpen stepped)
  | notifiedClose =>
      simp only [step] at stepped
      split_ifs at stepped
      obtain rfl := Option.some.inj stepped
      exact Or.inl rfl
  | receiveHello transport =>
      simp only [step, receiveHello] at stepped
      split_ifs at stepped
      obtain rfl := Option.some.inj stepped
      exact Or.inl rfl
  | raiseInReceiver transport error =>
      simp only [step, raiseInReceiver] at stepped
      split_ifs at stepped <;> obtain rfl := Option.some.inj stepped
      · exact Or.inl rfl
      · exact Or.inl rfl
      · exact Or.inl (closed_connectionLost _ _)
      · exact Or.inl rfl
  | returnReceiver transport =>
      simp only [step, returnReceiver] at stepped
      split_ifs at stepped
      obtain rfl := Option.some.inj stepped
      exact Or.inl rfl
  | stepHeartbeat heartbeat fails =>
      simp only [step, stepHeartbeat] at stepped
      split_ifs at stepped <;> obtain rfl := Option.some.inj stepped
      · exact Or.inl (closed_connectionLost _ _)
      · exact Or.inl rfl
  | scheduleLoss =>
      simp only [step] at stepped
      split_ifs at stepped
      obtain rfl := Option.some.inj stepped
      exact Or.inl rfl
  | startLoss =>
      simp only [step] at stepped
      split_ifs at stepped
      obtain rfl := Option.some.inj stepped
      exact Or.inl (closed_connectionLost _ _)
  | resumeHandler origin =>
      simp only [step, resumeHandler] at stepped
      split at stepped
      · cases stepped
      · obtain rfl := Option.some.inj stepped
        exact Or.inl (closed_closeLost _ _ _)
      · obtain rfl := Option.some.inj stepped
        exact Or.inl rfl
      · obtain rfl := Option.some.inj stepped
        exact Or.inl (closed_startReconnect _)
  | cancelHandler origin =>
      obtain ⟨-, rfl⟩ := cancelHandler_eq_some stepped
      exact Or.inl rfl
  | close => exact Or.inr (Or.inl rfl)
  | closeTasks =>
      simp only [step] at stepped
      split_ifs at stepped
      obtain rfl := Option.some.inj stepped
      refine Or.inl ?_
      have cancelled : (((connection.cancelOpen .connect).cancelReconnect).cancelBackground).closed
          = connection.closed := by
        rw [closed_cancelBackground, closed_cancelReconnect, closed_cancelOpen]
      unfold closeTasks
      dsimp only
      split
      · exact cancelled
      · exact cancelled

end Connection

end FitzClient
