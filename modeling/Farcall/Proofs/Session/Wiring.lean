import Farcall.Proofs.Session.Closing
import Farcall.Proofs.Session.Losses
import Farcall.Proofs.Session.Order

/-!
# What calls go over

Connections are opened one after the other, and a session uses the newest one or none. A call is linked
to the connection that is in use when its turn comes, so calls that went over another one went over one
that was opened before.
-/

namespace Farcall.Session

/-- The connection in use is the newest one, and calls are linked to connections that were opened. -/
structure Wired (s : Session) : Prop where
  newest : ∀ l, s.socket = some l → l + 1 = s.connections.length
  opened : ∀ k l, (s.call k).link = some l → l < s.connections.length

/-- The connection in use, how many there are, and what calls are linked to. -/
def wiring (s : Session) : Option Nat × Nat × (Nat → Option Nat) :=
  (s.socket, s.connections.length, fun k => (s.call k).link)

variable {s t : Session} {past : List Trace} {handled : List Handling}

/-- Calls may be linked to the connection in use, which may have been let go of before. -/
theorem Wired.change (h : Wired s) (hsocket : t.socket = s.socket ∨ t.socket = none)
    (hconnections : t.connections.length = s.connections.length)
    (hlink : ∀ k l, (t.call k).link = some l → (s.call k).link = some l ∨ t.socket = some l) :
    Wired t := by
  have hnewest : ∀ l, t.socket = some l → l + 1 = t.connections.length := by
    intro l hl
    rcases hsocket with hsame | hnone
    · exact hconnections ▸ h.newest l (hsame ▸ hl)
    · rw [hnone] at hl
      cases hl
  refine ⟨hnewest, fun k l hl => ?_⟩
  rcases hlink k l hl with hold | hused
  · exact hconnections ▸ h.opened k l hold
  · exact Nat.lt_of_succ_le (Nat.le_of_eq (hnewest l hused))

theorem Wired.keep (h : Wired s) (hsocket : t.socket = s.socket ∨ t.socket = none)
    (hconnections : t.connections.length = s.connections.length)
    (hlink : ∀ k, (t.call k).link = (s.call k).link) : Wired t :=
  h.change hsocket hconnections fun k _ hl => .inl ((hlink k).symm.trans hl)

theorem Wired.congr (h : Wired s) (hwiring : t.wiring = s.wiring) : Wired t := by
  obtain ⟨hsocket, hrest⟩ := Prod.mk.inj hwiring
  obtain ⟨hconnections, hlink⟩ := Prod.mk.inj hrest
  exact h.keep (.inl hsocket) hconnections (congrFun hlink)

-- ---------------------------------------------------------------------------
-- Carriers
-- ---------------------------------------------------------------------------

theorem wiring_updateCall (hf : ∀ c, (f c).link = c.link) :
    (s.updateCall k f).wiring = s.wiring := by
  have hlink (j : Nat) : ((s.updateCall k f).call j).link = (s.call j).link := by
    rw [call_updateCall]
    split
    · rename_i hj
      rw [hf, hj.1]
    · rfl
  simp only [wiring, hlink]
  rfl

theorem wiring_setCarrier : (s.setCarrier k x).wiring = s.wiring := wiring_updateCall fun _ => rfl

theorem wiring_enqueue : (s.enqueue j).wiring = s.wiring := rfl

theorem wiring_finishCarrier : (s.finishCarrier k o).wiring = s.wiring := by
  unfold Session.finishCarrier
  simp only
  split
  · exact wiring_enqueue.trans wiring_setCarrier
  · exact wiring_enqueue.trans wiring_setCarrier
  · exact wiring_setCarrier

theorem wiring_passTurn : s.passTurn.wiring = s.wiring := by
  unfold Session.passTurn
  split
  · rfl
  · split
    · exact wiring_enqueue.trans wiring_setCarrier
    · rfl

theorem wiring_unlock : s.unlock.wiring = s.wiring := wiring_passTurn

theorem wiring_awaitResponse : (s.awaitResponse k).wiring = s.wiring := by
  unfold Session.awaitResponse
  split
  · exact wiring_finishCarrier
  · exact wiring_setCarrier
  · exact wiring_finishCarrier
  · exact wiring_finishCarrier

theorem wiring_sendFailed : (s.sendFailed k f).wiring = s.wiring := by
  unfold Session.sendFailed
  simp only
  split <;> exact wiring_finishCarrier

theorem wiring_transmit : (s.transmit k l).wiring = s.wiring := by
  unfold Session.transmit
  simp only
  split
  · exact wiring_finishCarrier
  · split
    · exact wiring_sendFailed
    · split
      · exact wiring_setCarrier
      · exact wiring_awaitResponse

theorem wiring_post : (s.post k).wiring = s.wiring := by
  unfold Session.post
  simp only
  split
  · exact wiring_finishCarrier
  · exact wiring_setCarrier

theorem wiring_register : (s.register k l).wiring =
    (s.updateCall k fun c => { c with link := some l }).wiring := by
  unfold Session.register Session.addPending
  split
  · exact wiring_updateCall (s := s.updateCall k fun c => { c with link := some l }) fun _ => rfl
  · rfl

theorem Wired.send (h : Wired s) (hsocket : s.socket = some l) : Wired (s.send k l) := by
  have hlinked : Wired (s.updateCall k fun c => { c with link := some l }) := by
    refine h.change (.inl rfl) rfl fun j m hm => ?_
    rw [call_updateCall] at hm
    split at hm
    · exact .inr (hsocket.trans hm)
    · exact .inl hm
  exact (hlinked.congr wiring_register).congr wiring_transmit

theorem Wired.openConnection (h : Wired s) : Wired s.openConnection := by
  have hlength : s.openConnection.connections.length = s.connections.length + 1 :=
    List.length_append
  refine ⟨fun l hl => ?_, fun k l hl => ?_⟩
  · rw [hlength, ← Option.some.inj hl]
  · rw [hlength]
    exact Nat.lt_succ_of_lt (h.opened k l hl)

theorem Wired.connected (h : Wired s) : Wired (s.connected k) :=
  (h.openConnection.congr wiring_unlock).send socket_unlock

theorem Wired.notConnected (h : Wired s) : Wired (s.notConnected k f) :=
  (h.congr wiring_unlock).congr wiring_finishCarrier

theorem Wired.connect (h : Wired s) : Wired (s.connect k) := by
  have hattempt : Wired ({ s with
      attempts := s.attempts ++ [k]
      network := { s.network with attempts := s.network.attempts.drop 1 } }) := h.congr rfl
  unfold Session.connect
  simp only
  split
  · exact Wired.connected (hattempt.congr rfl)
  · exact Wired.congr hattempt wiring_setCarrier
  · exact Wired.notConnected (hattempt.congr rfl)

theorem Wired.useSocket (h : Wired s) : Wired (s.useSocket k) := by
  have hlocked : Wired { s with locked := true } := h.congr rfl
  unfold Session.useSocket
  simp only
  split
  · rename_i l hl
    exact (hlocked.congr wiring_unlock).send (socket_unlock.trans hl)
  · exact hlocked.connect

theorem Wired.takeTurn (h : Wired s) : Wired (s.takeTurn k) := by
  unfold Session.takeTurn
  split
  · exact h.useSocket
  · exact h.congr wiring_setCarrier

theorem Wired.endQueueing (h : Wired s) : Wired (s.endQueueing k cancelled) := by
  have hleft : Wired { s with queue := s.queue.erase k } := h.congr rfl
  unfold Session.endQueueing
  simp only
  split
  · refine Wired.congr ?_ wiring_finishCarrier
    split
    · exact hleft
    · exact hleft.congr wiring_passTurn
  · exact hleft.useSocket

theorem Wired.stepCarrier (h : Wired s) : Wired (s.stepCarrier k) := by
  have hnoticed : Wired (s.noticed k) := h.congr (wiring_updateCall fun _ => rfl)
  unfold Session.stepCarrier
  simp only
  split
  · split
    · exact hnoticed.congr wiring_finishCarrier
    · split
      · exact hnoticed.congr wiring_post
      · exact hnoticed.takeTurn
  · exact hnoticed.endQueueing
  · split
    · exact hnoticed.connected
    · exact hnoticed.notConnected
    · exact (hnoticed.congr wiring_unlock).congr wiring_finishCarrier
  · split <;> exact hnoticed.congr wiring_finishCarrier
  · split
    · exact hnoticed.congr wiring_awaitResponse
    · exact hnoticed.congr wiring_sendFailed
    · exact hnoticed.congr wiring_finishCarrier
  · split <;> exact hnoticed.congr wiring_finishCarrier
  · exact hnoticed
  · exact hnoticed

-- ---------------------------------------------------------------------------
-- Moves
-- ---------------------------------------------------------------------------

theorem link_perform (hs : Scheduled [j] s) (hc : Correlated handled s) (hq : s.QueueBegun)
    (hj : j.carrier? = none) : ((s.perform j).call k).link = (s.call k).link := by
  cases hguard : j.guard? with
  | none => exact ((keepsLine_perform hguard hj).1.places k).link_eq
  | some i =>
    cases j with
    | guard i => exact (guardMoves_stepGuard hs (fun hk => hc.absent hk) hq).line.link k
    | _ => cases hguard

theorem Wired.perform (h : Wired s) (hs : Scheduled [j] s) (hc : Correlated handled s)
    (hq : s.QueueBegun) : Wired (s.perform j) := by
  cases hj : j.carrier? with
  | some k =>
    cases j with
    | carrier k => exact h.stepCarrier
    | _ => cases hj
  | none =>
    have hlink (k : Nat) := link_perform (k := k) hs hc hq hj
    have hopen : s.closed = false → true = true := fun _ => rfl
    rcases perform_cases hopen hc hs with hshuts | ⟨k, rfl, -⟩
    · exact h.keep hshuts.socket hshuts.connections hlink
    · cases hj

theorem Wired.work (h : Wired s) (ho : Ordered past [] s) (hs : Sound handled s) :
    Wired (s.after .work) := by
  simp only [Session.after, step]
  cases hj : s.next with
  | none => exact h.congr rfl
  | some next =>
    obtain ⟨j, t⟩ := next
    have ht : Wired t := by
      obtain ⟨_, _, _, rfl⟩ := next_eq hj
      exact h.congr rfl
    exact ht.perform (hs.scheduled.next hj).1 (hs.correlated.next hj) (ho.next hj).lined.queue

theorem Wired.after (h : Wired s) (ho : Ordered past [] s) (hs : Sound handled s) (m : Move) :
    Wired (s.after m) := by
  by_cases hwork : m = .work
  · exact hwork ▸ h.work ho hs
  by_cases hlook : m = .observe
  · exact hlook ▸ h.congr rfl
  have hlink (k l : Nat) (hl : ((s.after m).call k).link = some l) : (s.call k).link = some l := by
    by_cases hcalls : ∀ r callback, m ≠ .begin r callback
    · rwa [((steady_after hwork hlook hcalls).line.places k).link_eq] at hl
    · obtain ⟨r, callback, rfl⟩ : ∃ r callback, m = .begin r callback := by simpa using hcalls
      have hlinked : ((s.begin r callback).call k).link = some l := hl
      have hmade : k < s.calls.length := by
        by_contra hno
        rw [(begin_blank hno).1] at hlinked
        cases hlinked
      rwa [call_begin_of_lt hmade] at hlinked
  by_cases hclose : m = .close ∧ s.closed = false
  · obtain ⟨rfl, hopen⟩ := hclose
    have hshuts : Shuts true s.shut s.close := shuts_close hopen
    refine h.change (.inr ?_) hshuts.connections fun k l hl => .inl (hlink k l hl)
    exact hshuts.socket.elim id id
  · have hclosed : m = .close → s.closed = true := fun hm => by
      simpa using fun hopen => hclose ⟨hm, hopen⟩
    have hopen : s.closed = false → true = true := fun _ => rfl
    rcases after_cases hopen hs hlook hclosed with hshuts | ⟨hm, -⟩
    · exact h.change hshuts.socket hshuts.connections fun k l hl => .inl (hlink k l hl)
    · exact (hwork hm).elim

theorem wired_new (address : String) (customEncryption : Bool) (timeout : Value)
    (notices : Notices) : Wired (new address customEncryption timeout notices) := by
  refine ⟨fun l hl => (by cases hl), fun k l hl => ?_⟩
  rw [call_of_length_le (Nat.zero_le k)] at hl
  cases hl

theorem History.wired (h : History past s) : Wired s := by
  induction h with
  | new address customEncryption timeout notices => exact wired_new ..
  | move h m ih =>
    obtain ⟨handled, hrun⟩ := h.run
    exact ih.after h.ordered hrun.sound m

/-- A call that went over another connection than the one in use went over an earlier one; until the
session is closed, the reader of that one has ended. -/
theorem History.link_earlier (h : History past s) (hk : (s.call k).link = some m)
    (hsocket : s.socket = some l) (hne : m ≠ l) :
    m < l ∧ (s.closed = false → s.hasEnded m = true) := by
  have hopened : m < s.connections.length := h.wired.opened k m hk
  have hnewest : l + 1 = s.connections.length := h.wired.newest l hsocket
  refine ⟨by omega, fun hopen => ?_⟩
  obtain ⟨handled, hrun⟩ := h.run
  by_contra hended
  have hused := (hrun.linked.readers hopen m).mp ⟨hopened, by simpa using hended⟩
  exact hne (Option.some.inj (hused.symm.trans hsocket))

end Farcall.Session
