import Farcall.Proofs.Session.Order
import Farcall.Proofs.Session.Readers

/-!
# Small changes

Whatever is done for one call, or for none, is made of a few small changes. Another call is touched by
them in two ways only: it gets its turn, or its response. So a call that waits for neither is left
alone, and no job is lost.
-/

namespace Farcall

def Call.Settled (c : Call) : Prop :=
  c.response ≠ some .pending ∧ c.carrier ≠ .queueing .pending

namespace Session

/-- A small change, made for one call or for none. -/
inductive Change (who : Option Nat) : Session → Session → Prop
  | call (k : Nat) (f : Call → Call) (h : who = some k) : Change who s (s.updateCall k f)
  | turn (k : Nat) (h : (s.call k).carrier = .queueing .pending) :
    Change who s (s.setCarrier k (.queueing (.kept ())))
  | response (k : Nat) (r : Except Failure Value) (h : (s.call k).response = some .pending) :
    Change who s (s.updateCall k fun c => { c with response := some (.kept r) })
  | job (j : Job) : Change who s (s.enqueue j)
  /-- Something else than calls and jobs. -/
  | rest (hcalls : t.calls = s.calls) (hjobs : t.jobs = s.jobs) (hupcoming : t.upcoming = s.upcoming) :
    Change who s t

/-- What small changes come to, one after the other. -/
abbrev Changes (who : Option Nat) : Session → Session → Prop := Relation.ReflTransGen (Change who)

variable {s t u : Session} {who : Option Nat}

-- ---------------------------------------------------------------------------
-- Small changes
-- ---------------------------------------------------------------------------

theorem changes_refl : Changes who s s := .refl

theorem changes_congr (hcalls : t.calls = s.calls) (hjobs : t.jobs = s.jobs)
    (hupcoming : t.upcoming = s.upcoming) : Changes who s t :=
  .single (.rest hcalls hjobs hupcoming)

theorem changes_enqueue : Changes who s (s.enqueue j) := .single (.job j)

theorem changes_note : Changes who s (s.note x) := changes_congr rfl rfl rfl

theorem changes_updateCall : Changes (some k) s (s.updateCall k f) := .single (.call k f rfl)

theorem changes_setCarrier : Changes (some k) s (s.setCarrier k x) := changes_updateCall

theorem changes_wakeCarrier : Changes (some k) s (s.wakeCarrier k x) :=
  changes_setCarrier.trans changes_enqueue

theorem changes_setGuard : Changes (some k) s (s.setGuard k g) := changes_updateCall

theorem changes_wakeGuard : Changes (some k) s (s.wakeGuard k g) :=
  changes_setGuard.trans changes_enqueue

theorem changes_updateConnection : Changes who s (s.updateConnection c f) :=
  changes_congr rfl rfl rfl

-- ---------------------------------------------------------------------------
-- Carriers
-- ---------------------------------------------------------------------------

theorem changes_finishCarrier : Changes (some k) s (s.finishCarrier k o) := by
  unfold Session.finishCarrier
  simp only
  split
  · exact changes_setCarrier.trans changes_enqueue
  · exact changes_setCarrier.trans changes_enqueue
  · exact changes_setCarrier

theorem changes_setResponse : Changes (some k) s (s.setResponse k p) := by
  have hset : Changes (some k) s (s.updateCall k fun c => { c with response := some p }) :=
    changes_updateCall
  unfold Session.setResponse
  simp only
  split
  · exact hset.trans changes_enqueue
  · exact hset

theorem changes_respond : Changes who s (s.respond k r) := by
  unfold Session.respond Session.setResponse
  split
  · rename_i hp
    have hset : Changes who s (s.updateCall k fun c => { c with response := some (.kept r) }) :=
      .single (.response k r hp)
    simp only
    split
    · exact hset.trans changes_enqueue
    · exact hset
  · exact changes_refl

theorem changes_failPending : Changes who s (s.failPending f) :=
  failPending_induction s f (changes_congr rfl rfl rfl) fun _ _ ht => ht.trans changes_respond

theorem changes_forget : Changes who s (s.forget n) := changes_congr rfl rfl rfl

theorem changes_passTurn : Changes who s s.passTurn := by
  unfold Session.passTurn
  split
  · exact changes_refl
  · split
    · rename_i h
      exact (Relation.ReflTransGen.single (.turn _ h)).trans changes_enqueue
    · exact changes_refl

theorem changes_unlock : Changes who s s.unlock := by
  have hunlocked : Changes who s { s with locked := false } := changes_congr rfl rfl rfl
  exact hunlocked.trans changes_passTurn

theorem changes_awaitResponse : Changes (some k) s (s.awaitResponse k) := by
  unfold Session.awaitResponse
  split
  · exact changes_finishCarrier
  · exact changes_setCarrier
  · exact changes_finishCarrier
  · exact changes_finishCarrier

theorem changes_sendFailed : Changes (some k) s (s.sendFailed k f) := by
  unfold Session.sendFailed
  simp only
  split
  · exact changes_forget.trans changes_finishCarrier
  · exact changes_finishCarrier

theorem changes_register : Changes (some k) s (s.register k c) := by
  have hlink : Changes (some k) s (s.updateCall k fun x => { x with link := some c }) :=
    changes_updateCall
  unfold Session.register Session.addPending
  split
  · exact (hlink.trans changes_updateCall).trans (changes_congr rfl rfl rfl)
  · exact hlink

theorem changes_transmit : Changes (some k) s (s.transmit k c) := by
  unfold Session.transmit
  simp only
  split
  · exact changes_finishCarrier
  · split
    · exact changes_sendFailed
    · have hsent {text} : Changes (some k) s (s.note (.sent c text)) := changes_note
      split
      · exact hsent.trans changes_setCarrier
      · exact hsent.trans changes_awaitResponse

theorem changes_send : Changes (some k) s (s.send k c) := changes_register.trans changes_transmit

theorem changes_openConnection : Changes who s s.openConnection := by
  have hopened : Changes who s { s with
      connections := s.connections ++ [Connection.opened]
      socket := some s.connections.length
      reader := some s.connections.length } := changes_congr rfl rfl rfl
  exact hopened.trans changes_enqueue

theorem changes_connected : Changes (some k) s (s.connected k) :=
  (changes_openConnection.trans changes_unlock).trans changes_send

theorem changes_notConnected : Changes (some k) s (s.notConnected k f) :=
  changes_unlock.trans changes_finishCarrier

theorem changes_connect : Changes (some k) s (s.connect k) := by
  have hattempt {x : Trace} : Changes (some k) s (Session.note { s with
      attempts := s.attempts ++ [k]
      network := { s.network with attempts := s.network.attempts.drop 1 } } x) :=
    changes_congr rfl rfl rfl
  unfold Session.connect
  simp only
  split
  · exact hattempt.trans changes_connected
  · exact hattempt.trans changes_setCarrier
  · exact hattempt.trans changes_notConnected

theorem changes_useSocket : Changes (some k) s (s.useSocket k) := by
  have hlocked : Changes (some k) s { s with locked := true } := changes_congr rfl rfl rfl
  unfold Session.useSocket
  simp only
  split
  · exact (hlocked.trans changes_unlock).trans changes_send
  · exact hlocked.trans changes_connect

theorem changes_takeTurn : Changes (some k) s (s.takeTurn k) := by
  have hqueued : Changes (some k) s { s with queue := s.queue ++ [k] } := changes_congr rfl rfl rfl
  unfold Session.takeTurn
  split
  · exact changes_useSocket
  · exact hqueued.trans changes_setCarrier

theorem changes_post : Changes (some k) s (s.post k) := by
  have hopened : Changes (some k) s { s with httpOpen := true } := changes_congr rfl rfl rfl
  have hrequests : Changes (some k) s { s with httpOpen := true, requests := s.requests ++ [k] } :=
    changes_congr rfl rfl rfl
  unfold Session.post
  simp only
  split
  · exact hopened.trans changes_finishCarrier
  · exact (hrequests.trans changes_note).trans changes_setCarrier

theorem changes_endQueueing : Changes (some k) s (s.endQueueing k cancelled) := by
  have hleft : Changes (some k) s { s with queue := s.queue.erase k } := changes_congr rfl rfl rfl
  unfold Session.endQueueing
  simp only
  split
  · split
    · exact hleft.trans changes_finishCarrier
    · exact (hleft.trans changes_passTurn).trans changes_finishCarrier
  · exact hleft.trans changes_useSocket

theorem changes_stepCarrier : Changes (some k) s (s.stepCarrier k) := by
  have hflag : Changes (some k) s (s.updateCall k fun c => { c with carrierCancelled := false }) :=
    changes_updateCall
  unfold Session.stepCarrier
  simp only
  refine hflag.trans ?_
  split
  · split
    · exact changes_finishCarrier
    · split
      · exact changes_post
      · exact changes_takeTurn
  · exact changes_endQueueing
  · split
    · exact changes_connected
    · exact changes_notConnected
    · exact changes_unlock.trans changes_finishCarrier
  · split
    · exact changes_finishCarrier
    · exact changes_finishCarrier
  · split
    · exact changes_awaitResponse
    · exact changes_sendFailed
    · exact changes_finishCarrier
  · split
    · exact changes_finishCarrier
    · exact changes_finishCarrier
  · exact changes_refl
  · exact changes_refl

theorem changes_cancelCarrier : Changes (some k) s (s.cancelCarrier k) := by
  unfold Session.cancelCarrier
  split
  · exact changes_wakeCarrier
  · exact changes_wakeCarrier
  · exact changes_wakeCarrier
  · exact changes_wakeCarrier
  · exact changes_refl
  · exact changes_refl
  · split
    · exact changes_setResponse
    · exact changes_updateCall

-- ---------------------------------------------------------------------------
-- Guards
-- ---------------------------------------------------------------------------

theorem changes_finishGuard : Changes (some k) s (s.finishGuard k o) :=
  changes_setGuard.trans changes_enqueue

theorem changes_stop : Changes (some k) s (s.stop k timedOut) :=
  changes_setGuard.trans changes_cancelCarrier

theorem changes_number : Changes (some k) s (s.number k) := by
  have hset : Changes (some k) s
      (s.updateCall k fun c => { c with id := some s.nextId, guard := .waiting .pending }) :=
    changes_updateCall
  exact hset.trans (changes_congr rfl rfl rfl)

theorem changes_startCall : Changes (some k) s (s.startCall k) := by
  have hstarted : Changes (some k) s ((s.number k).startCarrier k) :=
    changes_number.trans changes_wakeCarrier
  have halarmed {a : Alarms} : Changes (some k) s { s.number k with alarms := a } :=
    changes_number.tail (.rest rfl rfl rfl)
  unfold Session.startCall
  split
  · exact changes_finishGuard
  · split
    · exact changes_finishGuard
    · simp only
      split
      · exact changes_number.trans changes_finishGuard
      · exact hstarted.trans changes_stop
      · exact halarmed.trans changes_wakeCarrier

theorem changes_timeOut : Changes (some k) s (s.timeOut k) :=
  changes_forget.trans changes_finishGuard

theorem changes_stepGuard : Changes (some k) s (s.stepGuard k) := by
  have hflag : Changes (some k) s (s.updateCall k fun c => { c with guardCancelled := false }) :=
    changes_updateCall
  unfold Session.stepGuard
  simp only
  refine hflag.trans ?_
  split
  · split
    · exact changes_finishGuard
    · exact changes_startCall
  · split
    · exact changes_finishGuard
    · exact changes_stop
  · split
    · exact changes_finishGuard
    · split
      · exact changes_timeOut
      · exact changes_finishGuard
      · exact changes_timeOut
  · exact changes_refl

theorem changes_releaseGuard : Changes (some k) s (s.releaseGuard k) := by
  unfold Session.releaseGuard
  split
  · exact changes_wakeGuard
  · exact changes_wakeGuard
  · exact changes_refl

theorem changes_ringAlarm : Changes (some k) s (s.ringAlarm k) := by
  unfold Session.ringAlarm
  split
  · exact changes_wakeGuard
  · exact changes_refl

theorem changes_cancel : Changes (some k) s (s.cancel k).1 := by
  unfold Session.cancel
  split
  · exact changes_refl
  · exact changes_wakeGuard
  · exact changes_wakeGuard
  · exact changes_updateCall

-- ---------------------------------------------------------------------------
-- Readers
-- ---------------------------------------------------------------------------

theorem changes_notify : Changes who s (s.notify name data) := by
  unfold Session.notify
  split
  · exact changes_refl
  · exact changes_note
  · exact changes_congr rfl rfl rfl
  · split
    · exact changes_enqueue
    · exact changes_refl

theorem changes_handle (f : Frame) : Changes who s (s.handle f) := by
  unfold Session.handle
  split
  · exact changes_refl
  · exact changes_note
  · split
    · exact changes_forget.trans changes_respond
    · split
      · exact changes_notify
      · exact changes_refl

theorem changes_handleAll (fs : List Frame) : Changes who s (fs.foldl Session.handle s) := by
  induction fs generalizing s with
  | nil => exact changes_refl
  | cons f fs ih => exact (changes_handle f).trans ih

theorem changes_release : Changes who s (s.release c) := by
  unfold Session.release
  split
  · exact changes_congr rfl rfl rfl
  · exact changes_refl

theorem changes_endReader : Changes who s (s.endReader c f) := by
  unfold Session.endReader
  simp only
  split
  · exact changes_updateConnection.trans changes_enqueue
  · exact changes_updateConnection

theorem changes_connectionEnded : Changes who s (s.connectionEnded c f) := by
  have hfail {fault} : Changes who s ((s.release c).failPending fault) :=
    changes_release.trans changes_failPending
  unfold Session.connectionEnded
  simp only
  split
  · exact hfail.trans changes_endReader
  · split
    · exact hfail.trans changes_endReader
    · exact hfail.trans changes_endReader

theorem changes_stepReader : Changes who s (s.stepReader c) := by
  unfold Session.stepReader
  simp only
  split
  · exact changes_refl
  · split
    · split
      · exact changes_endReader
      · exact (changes_release.trans changes_failPending).trans changes_endReader
    · have hemptied : Changes who s (s.emptied c) := changes_updateConnection
      have hdrained := hemptied.trans (changes_handleAll (s.connection c).inbox)
      split
      · exact hdrained.trans changes_connectionEnded
      · exact hdrained

theorem changes_wakeReader : Changes who s (s.wakeReader c) := by
  unfold Session.wakeReader
  split
  · exact changes_updateConnection.trans changes_enqueue
  · exact changes_refl

-- ---------------------------------------------------------------------------
-- Closing
-- ---------------------------------------------------------------------------

theorem changes_endClosing : Changes who s (s.endClosing f) :=
  changes_failPending.trans (changes_congr rfl rfl rfl)

theorem changes_finishClosing : Changes who s (s.finishClosing held) := by
  have hnote {c : Nat} : Changes who s (s.note (.hungUp c)) := changes_note
  unfold Session.finishClosing
  split
  · exact changes_endClosing
  · simp only
    split
    · exact hnote.trans changes_endClosing
    · split
      · exact changes_congr rfl rfl rfl
      · exact hnote.trans changes_endClosing

theorem changes_logReader : Changes who s s.logReader := changes_note

theorem changes_stepClosing : Changes who s s.stepClosing := by
  unfold Session.stepClosing
  split
  · split
    · exact changes_logReader.trans changes_finishClosing
    · exact changes_finishClosing
  · exact changes_endClosing
  · exact changes_refl

theorem changes_close : Changes who s s.close := by
  have hshut : Changes who s
      { s with closed := true, httpOpen := false, reader := none, socket := none } :=
    changes_congr rfl rfl rfl
  unfold Session.close
  split
  · exact changes_refl
  · simp only
    split
    · exact hshut.trans changes_finishClosing
    · split
      · exact hshut.trans (changes_logReader.trans changes_finishClosing)
      · exact hshut.trans changes_finishClosing
      · have hwaits {c : Closing} : Changes who s { s with
            closed := true, httpOpen := false, reader := none, socket := none, closing := c } :=
          changes_congr rfl rfl rfl
        exact hwaits.trans (changes_updateConnection.trans changes_wakeReader)

-- ---------------------------------------------------------------------------
-- The network
-- ---------------------------------------------------------------------------

theorem changes_flush : Changes (some k) s (s.flush k f) := by
  unfold Session.flush
  split
  · exact changes_wakeCarrier
  · exact changes_refl

theorem changes_endHangUp : Changes who s (s.endHangUp f) := by
  unfold Session.endHangUp
  split
  · have hdone {c : Closing} : Changes who s { s with closing := c } := changes_congr rfl rfl rfl
    exact hdone.trans changes_enqueue
  · exact changes_refl

theorem changes_arrive : Changes who s (s.arrive c f) := by
  unfold Session.arrive
  split
  · exact changes_refl
  · exact changes_updateConnection.trans changes_wakeReader

theorem changes_drop : Changes who s (s.drop c f) := by
  unfold Session.drop
  split
  · exact changes_refl
  · exact changes_updateConnection.trans changes_wakeReader

-- ---------------------------------------------------------------------------
-- Jobs
-- ---------------------------------------------------------------------------

def whom : Job → Option Nat
  | .guard k => some k
  | .carrier k => some k
  | .release k => some k
  | .alarm k => some k
  | _ => none

theorem changes_reportCall : Changes who s (s.reportCall k) := by
  unfold Session.reportCall
  simp only
  split
  · exact changes_note
  · exact changes_refl

theorem changes_perform (j : Job) : Changes (whom j) s (s.perform j) := by
  cases j with
  | guard k => exact changes_stepGuard
  | carrier k => exact changes_stepCarrier
  | release k => exact changes_releaseGuard
  | alarm k => exact changes_ringAlarm
  | report k => exact changes_reportCall
  | reader c => exact changes_stepReader
  | closing => exact changes_stepClosing
  | deliver event data => exact changes_note

-- ---------------------------------------------------------------------------
-- What small changes leave alone
-- ---------------------------------------------------------------------------

theorem Change.call_eq (h : Change who s t) (hk : who ≠ some k) (hsettled : (s.call k).Settled) :
    t.call k = s.call k := by
  cases h with
  | call j f hj =>
    refine call_updateCall_ne ?_
    rintro rfl
    exact hk hj
  | turn j hj =>
    refine call_updateCall_ne ?_
    rintro rfl
    exact hsettled.2 hj
  | response j r hj =>
    refine call_updateCall_ne ?_
    rintro rfl
    exact hsettled.1 hj
  | job j => rfl
  | rest hcalls _ _ => rw [Session.call, hcalls, Session.call]

theorem call_of_changes (h : Changes who s t) (hk : who ≠ some k) (hsettled : (s.call k).Settled) :
    t.call k = s.call k := by
  induction h with
  | refl => rfl
  | tail _ hchange ih => exact (hchange.call_eq hk (ih ▸ hsettled)).trans ih

theorem ready_of_changes (h : Changes who s t) : s.ready <+: t.ready := by
  induction h with
  | refl => exact List.prefix_rfl
  | tail _ hchange ih =>
    cases hchange with
    | job j => exact ih.trans ⟨[j], ready_enqueue.symm⟩
    | rest _ hjobs hupcoming =>
      have hready : Session.ready _ = Session.ready _ := congrArg₂ (· ++ ·) hjobs hupcoming
      exact hready ▸ ih
    | _ => exact ih

end Session

end Farcall
