import Farcall.Proofs.Session.Connections
import Mathlib.Tactic.ByContra

/-!
# A reader ends in its own job

Carriers open connections, and the network and closing change what is known of one. No move ends a
reader but the job of that reader.
-/

namespace Farcall.Session

variable {s t : Session}

-- ---------------------------------------------------------------------------
-- What leaves all connections alone
-- ---------------------------------------------------------------------------

theorem hasEnded_of_connections (h : t.connections = s.connections) :
    t.hasEnded l = s.hasEnded l := by
  rw [hasEnded, Session.connection, h, hasEnded, Session.connection]

theorem connections_finishCarrier : (s.finishCarrier k o).connections = s.connections := by
  unfold Session.finishCarrier
  simp only
  split <;> rfl

theorem connections_setResponse : (s.setResponse k p).connections = s.connections := by
  unfold Session.setResponse
  simp only
  split <;> rfl

theorem connections_failPending : (s.failPending f).connections = s.connections := by
  obtain ⟨_, _, heq⟩ := failPending_eq s f
  rw [heq]

theorem connections_passTurn : s.passTurn.connections = s.connections := by
  unfold Session.passTurn
  split
  · rfl
  · split <;> rfl

theorem connections_unlock : s.unlock.connections = s.connections := connections_passTurn

theorem connections_awaitResponse : (s.awaitResponse k).connections = s.connections := by
  unfold Session.awaitResponse
  split
  · exact connections_finishCarrier
  · rfl
  · exact connections_finishCarrier
  · exact connections_finishCarrier

theorem connections_sendFailed : (s.sendFailed k f).connections = s.connections := by
  unfold Session.sendFailed
  simp only
  split
  · exact connections_finishCarrier
  · exact connections_finishCarrier

theorem connections_register : (s.register k l).connections = s.connections := by
  unfold Session.register Session.addPending
  split <;> rfl

theorem connections_send : (s.send k l).connections = s.connections := by
  refine Eq.trans ?_ (connections_register (k := k) (l := l))
  unfold Session.send Session.transmit
  simp only
  split
  · exact connections_finishCarrier
  · split
    · exact connections_sendFailed
    · split
      · rfl
      · exact connections_awaitResponse

theorem connections_post : (s.post k).connections = s.connections := by
  unfold Session.post
  simp only
  split
  · exact connections_finishCarrier
  · rfl

theorem connections_cancelCarrier : (s.cancelCarrier k).connections = s.connections := by
  unfold Session.cancelCarrier
  split
  · rfl
  · rfl
  · rfl
  · rfl
  · rfl
  · rfl
  · split
    · exact connections_setResponse
    · rfl

theorem connections_startCall : (s.startCall k).connections = s.connections := by
  unfold Session.startCall
  split
  · rfl
  · split
    · rfl
    · simp only
      split
      · rfl
      · exact connections_cancelCarrier
      · rfl

theorem connections_stepGuard : (s.stepGuard k).connections = s.connections := by
  unfold Session.stepGuard
  simp only
  split
  · split
    · rfl
    · exact connections_startCall
  · split
    · rfl
    · exact connections_cancelCarrier
  · split
    · rfl
    · split
      · rfl
      · rfl
      · rfl
  · rfl

theorem connections_releaseGuard : (s.releaseGuard k).connections = s.connections := by
  unfold Session.releaseGuard
  split <;> rfl

theorem connections_ringAlarm : (s.ringAlarm k).connections = s.connections := by
  unfold Session.ringAlarm
  split <;> rfl

theorem connections_cancel : (s.cancel k).1.connections = s.connections := by
  unfold Session.cancel
  split <;> rfl

theorem connections_reportCall : (s.reportCall k).connections = s.connections := by
  unfold Session.reportCall
  simp only
  split <;> rfl

theorem connections_finishClosing : (s.finishClosing held).connections = s.connections := by
  unfold Session.finishClosing Session.endClosing
  split
  · exact connections_failPending
  · simp only
    split
    · exact connections_failPending
    · split
      · rfl
      · exact connections_failPending

theorem connections_stepClosing : s.stepClosing.connections = s.connections := by
  unfold Session.stepClosing
  split
  · split
    · exact connections_finishClosing
    · exact connections_finishClosing
  · exact connections_failPending
  · rfl

theorem connections_reply : (s.reply r a).1.connections = s.connections := by
  unfold Session.reply
  split
  · rfl
  · split
    · split <;> rfl
    · rfl

theorem connections_settle : (s.settle a f).1.connections = s.connections := by
  unfold Session.settle
  split
  · rfl
  · split
    · split <;> rfl
    · rfl

theorem connections_flush : (s.flush k f).connections = s.connections := by
  unfold Session.flush
  split <;> rfl

theorem connections_endHangUp : (s.endHangUp f).connections = s.connections := by
  unfold Session.endHangUp
  split <;> rfl

-- ---------------------------------------------------------------------------
-- Opening connections
-- ---------------------------------------------------------------------------

theorem hasEnded_openConnection : s.openConnection.hasEnded l = s.hasEnded l := by
  rw [hasEnded, connection_openConnection, hasEnded]
  split
  · rename_i hl
    rw [connection_of_length_le (Nat.le_of_eq hl.symm)]
    rfl
  · rfl

theorem hasEnded_connected : (s.connected k).hasEnded l = s.hasEnded l :=
  (hasEnded_of_connections (connections_send.trans connections_unlock)).trans
    hasEnded_openConnection

theorem hasEnded_connect : (s.connect k).hasEnded l = s.hasEnded l := by
  unfold Session.connect
  simp only
  split
  · exact hasEnded_connected
  · rfl
  · exact hasEnded_of_connections (connections_finishCarrier.trans connections_unlock)

theorem hasEnded_useSocket : (s.useSocket k).hasEnded l = s.hasEnded l := by
  unfold Session.useSocket
  simp only
  split
  · exact hasEnded_of_connections (connections_send.trans connections_unlock)
  · exact hasEnded_connect

theorem hasEnded_takeTurn : (s.takeTurn k).hasEnded l = s.hasEnded l := by
  unfold Session.takeTurn
  split
  · exact hasEnded_useSocket
  · rfl

theorem hasEnded_endQueueing : (s.endQueueing k cancelled).hasEnded l = s.hasEnded l := by
  unfold Session.endQueueing
  simp only
  split
  · refine hasEnded_of_connections (connections_finishCarrier.trans ?_)
    split
    · rfl
    · exact connections_passTurn
  · exact hasEnded_useSocket

theorem hasEnded_stepCarrier : (s.stepCarrier k).hasEnded l = s.hasEnded l := by
  unfold Session.stepCarrier
  simp only
  split
  · split
    · exact hasEnded_of_connections connections_finishCarrier
    · split
      · exact hasEnded_of_connections connections_post
      · exact hasEnded_takeTurn
  · exact hasEnded_endQueueing
  · split
    · exact hasEnded_connected
    · exact hasEnded_of_connections (connections_finishCarrier.trans connections_unlock)
    · exact hasEnded_of_connections (connections_finishCarrier.trans connections_unlock)
  · split
    · exact hasEnded_of_connections connections_finishCarrier
    · exact hasEnded_of_connections connections_finishCarrier
  · split
    · exact hasEnded_of_connections connections_awaitResponse
    · exact hasEnded_of_connections connections_sendFailed
    · exact hasEnded_of_connections connections_finishCarrier
  · split
    · exact hasEnded_of_connections connections_finishCarrier
    · exact hasEnded_of_connections connections_finishCarrier
  · rfl
  · rfl

-- ---------------------------------------------------------------------------
-- Changing one connection
-- ---------------------------------------------------------------------------

theorem hasEnded_updateConnection
    (hf : (f (s.connection l)).reader.isFinished = (s.connection l).reader.isFinished) :
    (s.updateConnection l f).hasEnded m = s.hasEnded m := by
  rw [hasEnded, connection_updateConnection, hasEnded]
  split
  · rename_i hm
    rw [hf, hm.1]
  · rfl

theorem hasEnded_updateConnection_ne (h : m ≠ l) :
    (s.updateConnection l f).hasEnded m = s.hasEnded m := by
  rw [hasEnded, connection_updateConnection, if_neg fun hm => h hm.1, hasEnded]

theorem hasEnded_wakeReader : (s.wakeReader l).hasEnded m = s.hasEnded m := by
  unfold Session.wakeReader
  split
  · rename_i hx
    exact hasEnded_updateConnection (by rw [hx]; rfl)
  · rfl

theorem hasEnded_close : s.close.hasEnded l = s.hasEnded l := by
  unfold Session.close
  split
  · rfl
  · simp only
    split
    · exact hasEnded_of_connections connections_finishClosing
    · split
      · exact hasEnded_of_connections connections_finishClosing
      · exact hasEnded_of_connections connections_finishClosing
      · exact hasEnded_wakeReader.trans (hasEnded_updateConnection rfl)

theorem hasEnded_arrive : (s.arrive l f).hasEnded m = s.hasEnded m := by
  unfold Session.arrive
  split
  · rfl
  · exact hasEnded_wakeReader.trans (hasEnded_updateConnection rfl)

theorem hasEnded_drop : (s.drop l f).hasEnded m = s.hasEnded m := by
  unfold Session.drop
  split
  · rfl
  · exact hasEnded_wakeReader.trans (hasEnded_updateConnection rfl)

theorem hasEnded_endReader_ne (h : m ≠ l) : (s.endReader l f).hasEnded m = s.hasEnded m := by
  obtain ⟨_, heq⟩ := endReader_eq s l f
  rw [heq]
  exact hasEnded_updateConnection_ne h

theorem hasEnded_lose_ne (h : m ≠ l) : (s.lose l fault f).hasEnded m = s.hasEnded m := by
  rw [hasEnded, connection_lose, if_neg fun hm => h hm.1, hasEnded]

theorem hasEnded_drained_ne (h : m ≠ l) : (s.drained l).hasEnded m = s.hasEnded m := by
  rw [hasEnded, connection_drained, ← hasEnded]
  exact hasEnded_updateConnection_ne h

theorem hasEnded_stepReader_ne (h : m ≠ l) : (s.stepReader l).hasEnded m = s.hasEnded m := by
  unfold Session.stepReader
  simp only
  split
  · rfl
  · split
    · split
      · exact hasEnded_endReader_ne h
      · exact hasEnded_lose_ne h
    · split
      · rename_i x _
        obtain ⟨fault, f, heq⟩ := connectionEnded_eq (s.drained l) l x
        exact (congrArg (hasEnded · m) heq).trans
          ((hasEnded_lose_ne h).trans (hasEnded_drained_ne h))
      · exact hasEnded_drained_ne h

-- ---------------------------------------------------------------------------
-- Moves
-- ---------------------------------------------------------------------------

theorem hasEnded_perform (hj : j ≠ .reader l) : (s.perform j).hasEnded l = s.hasEnded l := by
  cases j with
  | guard k => exact hasEnded_of_connections connections_stepGuard
  | carrier k => exact hasEnded_stepCarrier
  | release k => exact hasEnded_of_connections connections_releaseGuard
  | alarm k => exact hasEnded_of_connections connections_ringAlarm
  | report k => exact hasEnded_of_connections connections_reportCall
  | reader m => exact hasEnded_stepReader_ne fun h => hj (by rw [h])
  | closing => exact hasEnded_of_connections connections_stepClosing
  | deliver event data => rfl

theorem hasEnded_work (hl : s.hasEnded l = false) (hended : (s.after .work).hasEnded l = true) :
    ∃ t, s.next = some (.reader l, t) ∧ s.after .work = t.perform (.reader l) := by
  simp only [Session.after, step] at hended ⊢
  cases hj : s.next with
  | none =>
    rw [hj] at hended
    exact absurd hl (by rw [show s.hasEnded l = true from hended]; simp)
  | some next =>
    obtain ⟨j, t⟩ := next
    rw [hj] at hended
    have ht : t.hasEnded l = s.hasEnded l := by
      obtain ⟨_, _, _, rfl⟩ := next_eq hj
      rfl
    have hreader : j = .reader l := by
      by_contra hother
      have hsame : (t.perform j).hasEnded l = s.hasEnded l := (hasEnded_perform hother).trans ht
      simp only [Option.map_some, Option.getD_some] at hended
      simp [hsame, hl] at hended
    exact ⟨t, by rw [hreader], by rw [hreader]; rfl⟩

theorem ends_in_own_job (m : Move) (hl : s.hasEnded l = false)
    (hended : (s.after m).hasEnded l = true) :
    ∃ t, s.next = some (.reader l, t) ∧ s.after m = t.perform (.reader l) := by
  have hno {t : Session} (h : t.hasEnded l = s.hasEnded l) (ht : t.hasEnded l = true) : False := by
    simp [h, hl] at ht
  cases m with
  | work => exact hasEnded_work hl hended
  | begin r callback => exact (hno rfl hended).elim
  | cancel k => exact (hno (hasEnded_of_connections connections_cancel) hended).elim
  | close => exact (hno hasEnded_close hended).elim
  | reply r a => exact (hno (hasEnded_of_connections connections_reply) hended).elim
  | settle a f => exact (hno (hasEnded_of_connections connections_settle) hended).elim
  | flush k f => exact (hno (hasEnded_of_connections connections_flush) hended).elim
  | endHangUp f => exact (hno (hasEnded_of_connections connections_endHangUp) hended).elim
  | arrive c f => exact (hno hasEnded_arrive hended).elim
  | drop c f => exact (hno hasEnded_drop hended).elim
  | advance seconds => exact (hno rfl hended).elim
  | network n => exact (hno rfl hended).elim
  | deliver event data => exact (hno rfl hended).elim
  | observe => exact (hno rfl hended).elim

end Farcall.Session
