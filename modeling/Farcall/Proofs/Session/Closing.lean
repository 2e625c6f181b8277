import Farcall.Proofs.Session.Progress

/-!
# Closing
-/

namespace Farcall

def Closing.isFinished : Closing → Bool
  | .finished _ => true
  | _ => false

namespace Session

open Standing (Step Steps)

variable {s t u : Session} {isOpen : Bool} {handled : List Handling}

/-- All calls go on the way they can, and nothing goes out; if closing ends, nothing is pending. -/
structure Shuts (isOpen : Bool) (s t : Session) : Prop where
  steps : ∀ k, Steps isOpen (s.standing k) (t.standing k)
  closed : t.closed = s.closed
  connections : t.connections.length = s.connections.length
  outbound : t.outbound = s.outbound
  socket : t.socket = s.socket ∨ t.socket = none
  http : t.httpOpen = s.httpOpen
  ended : t.closing.isFinished = true → t.closing = s.closing ∨ t.pending = []

theorem Quiet.shuts (h : Quiet isOpen s t) : Shuts isOpen s t :=
  { h with ended := fun _ => .inl h.closing }

theorem Quiet.then_shuts (h : Quiet isOpen s t) (h' : Shuts isOpen t u) : Shuts isOpen s u where
  steps k := (h.steps k).trans (h'.steps k)
  closed := h'.closed.trans h.closed
  connections := h'.connections.trans h.connections
  outbound := h'.outbound.trans h.outbound
  socket := released_trans h.socket h'.socket
  http := h'.http.trans h.http
  ended hu := by
    rw [← h.closing]
    exact h'.ended hu

theorem Shuts.quiet (h : Shuts isOpen s t) (h' : Quiet isOpen t u) : Shuts isOpen s u where
  steps k := (h.steps k).trans (h'.steps k)
  closed := h'.closed.trans h.closed
  connections := h'.connections.trans h.connections
  outbound := h'.outbound.trans h.outbound
  socket := released_trans h.socket h'.socket
  http := h'.http.trans h.http
  ended hu := by
    rw [h'.closing] at hu ⊢
    rcases h.ended hu with heq | hnone
    · exact .inl heq
    · exact .inr (List.subset_nil.mp (hnone ▸ h'.pending))

theorem Quiet.setClosing (h : Quiet isOpen s t)
    (hended : c.isFinished = true → t.pending = []) :
    Shuts isOpen s { t with closing := c } where
  steps k := by
    rw [standing_eq (s := t) (t := { t with closing := c }) rfl rfl]
    exact h.steps k
  closed := h.closed
  connections := h.connections
  outbound := h.outbound
  socket := h.socket
  http := h.http
  ended hc := .inr (hended hc)

theorem pending_failPending : (s.failPending f).pending = [] := by
  obtain ⟨_, _, heq⟩ := failPending_eq s f
  rw [heq]

theorem shuts_endClosing : Shuts isOpen s (s.endClosing f) :=
  quiet_failPending.setClosing fun _ => pending_failPending

theorem pending_endClosing : (s.endClosing f).pending = [] := pending_failPending

theorem shuts_finishClosing : Shuts isOpen s (s.finishClosing held) := by
  unfold Session.finishClosing
  split
  · exact shuts_endClosing
  · rename_i l
    have hnoted : Quiet isOpen s (s.note (.hungUp l)) := quiet_note rfl
    simp only
    split
    · exact hnoted.then_shuts shuts_endClosing
    · split
      · exact hnoted.setClosing fun h => by cases h
      · exact hnoted.then_shuts shuts_endClosing

theorem pending_finishClosing :
    (s.finishClosing held).closing.isFinished = true → (s.finishClosing held).pending = [] := by
  unfold Session.finishClosing
  split
  · exact fun _ => pending_endClosing
  · simp only
    split
    · exact fun _ => pending_endClosing
    · split
      · exact fun h => by cases h
      · exact fun _ => pending_endClosing

theorem shuts_stepClosing : Shuts isOpen s s.stepClosing := by
  unfold Session.stepClosing
  split
  · split
    · exact (quiet_note rfl).then_shuts shuts_finishClosing
    · exact shuts_finishClosing
  · exact shuts_endClosing
  · exact quiet_refl.shuts

theorem shuts_endHangUp : Shuts isOpen s (s.endHangUp f) := by
  unfold Session.endHangUp
  split
  · exact Quiet.setClosing (c := .hangingUp (.kept f)) quiet_enqueue fun h => by cases h
  · exact quiet_refl.shuts

def shut (s : Session) : Session :=
  { s with closed := true, httpOpen := false, reader := none, socket := none }

theorem quiet_cancelReader : Quiet isOpen s (s.cancelReader l) :=
  quiet_updateConnection.trans quiet_wakeReader

/-- What is left to do when a session is closed: to end closing, or to wait for a reader. -/
theorem close_cases (hopen : s.closed = false) :
    (∃ t held, (∀ isOpen, Quiet isOpen s.shut t) ∧ s.close = t.finishClosing held) ∨
      ∃ l held, s.close = ({ s.shut with closing := .waiting l held }).cancelReader l := by
  unfold Session.close
  rw [if_neg (by simp [hopen])]
  simp only
  split
  · exact .inl ⟨s.shut, s.socket, fun _ => quiet_refl, rfl⟩
  · rename_i l _
    split
    · exact .inl ⟨s.shut.logReader, s.socket, fun _ => quiet_note rfl, rfl⟩
    · exact .inl ⟨s.shut, s.socket, fun _ => quiet_refl, rfl⟩
    · exact .inr ⟨l, s.socket, rfl⟩

theorem shuts_close (hopen : s.closed = false) : Shuts isOpen s.shut s.close := by
  rcases close_cases hopen with ⟨t, held, ht, heq⟩ | ⟨l, held, heq⟩
  · rw [heq]
    exact (ht isOpen).then_shuts shuts_finishClosing
  · have hwaits : Shuts isOpen s.shut { s.shut with closing := .waiting l held } :=
      quiet_refl.setClosing fun h => by cases h
    rw [heq]
    exact hwaits.quiet quiet_cancelReader

theorem pending_close (hopen : s.closed = false) (h : s.close.closing.isFinished = true) :
    s.close.pending = [] := by
  rcases close_cases hopen with ⟨t, held, -, heq⟩ | ⟨l, held, heq⟩
  · rw [heq] at h ⊢
    exact pending_finishClosing h
  · have hquiet : Quiet true _ s.close := heq ▸ quiet_cancelReader
    rw [hquiet.closing] at h
    cases h

-- ---------------------------------------------------------------------------
-- Moves
-- ---------------------------------------------------------------------------

/-- A job either leaves the network alone or is that of a carrier on its way. -/
theorem perform_cases (hopen : s.closed = false → isOpen = true) (h : Correlated handled s)
    (hs : Scheduled [j] s) : Shuts isOpen s (s.perform j) ∨
      ∃ k, j = .carrier k ∧ (s.call k).carrier.isSettingOut = true ∧
        Advances isOpen s (s.perform j) := by
  cases j with
  | guard k => exact .inl (quiet_stepGuard hopen h hs).shuts
  | carrier k =>
    cases hx : (s.call k).carrier.isSettingOut with
    | true => exact .inr ⟨k, rfl, hx, advances_stepCarrier h hx⟩
    | false => exact .inl (quiet_stepCarrier h hx).shuts
  | release k => exact .inl quiet_releaseGuard.shuts
  | alarm k => exact .inl quiet_ringAlarm.shuts
  | report k => exact .inl quiet_reportCall.shuts
  | reader l => exact .inl (quiet_stepReader h).shuts
  | closing => exact .inl shuts_stepClosing
  | deliver event data => exact .inl (quiet_note rfl).shuts

theorem quiet_next (hj : s.next = some (j, t)) : Quiet isOpen s t := by
  obtain ⟨_, _, _, rfl⟩ := next_eq hj
  exact quiet_congr rfl rfl rfl rfl rfl rfl (.inl rfl) rfl

theorem work_cases (hopen : s.closed = false → isOpen = true) (h : Sound handled s) :
    Shuts isOpen s (s.after .work) ∨
      ∃ k t, s.next = some (.carrier k, t) ∧ (s.call k).carrier.isSettingOut = true ∧
        Advances isOpen s (s.after .work) := by
  simp only [Session.after, step]
  cases hj : s.next with
  | none =>
    refine .inl (Quiet.shuts ?_)
    exact quiet_congr rfl rfl rfl rfl rfl rfl (.inl rfl) rfl
  | some next =>
    obtain ⟨j, t⟩ := next
    have hnext : Quiet isOpen s t := quiet_next hj
    have hcall (k : Nat) : t.call k = s.call k := by
      obtain ⟨_, _, _, rfl⟩ := next_eq hj
      rfl
    rcases perform_cases (hnext.closed ▸ hopen) (h.correlated.next hj) (h.scheduled.next hj).1 with
      hshuts | ⟨k, rfl, hx, hadvances⟩
    · exact .inl (hnext.then_shuts hshuts)
    · exact .inr ⟨k, t, rfl, hcall k ▸ hx, hnext.toAdvances.trans hadvances⟩

/-- A move of a session that is being closed, or of one that stays open, either leaves the network
alone or is the work of a carrier on its way. -/
theorem after_cases (hopen : s.closed = false → isOpen = true) (h : Sound handled s) {m : Move}
    (hlook : m ≠ .observe) (hclose : m = .close → s.closed = true) :
    Shuts isOpen s (s.after m) ∨
      m = .work ∧ ∃ k t, s.next = some (.carrier k, t) ∧ (s.call k).carrier.isSettingOut = true ∧
        Advances isOpen s (s.after m) := by
  cases m with
  | work =>
    rcases work_cases hopen h with hshuts | hwork
    · exact .inl hshuts
    · exact .inr ⟨rfl, hwork⟩
  | begin r callback => exact .inl quiet_begin.shuts
  | cancel k => exact .inl quiet_cancel.shuts
  | close =>
    have hclosed : s.close = s := by
      unfold Session.close
      rw [hclose rfl]
      rfl
    simp only [Session.after, hclosed]
    exact .inl quiet_refl.shuts
  | reply r a => exact .inl quiet_reply.shuts
  | settle a f => exact .inl quiet_settle.shuts
  | flush k f => exact .inl quiet_flush.shuts
  | endHangUp f => exact .inl shuts_endHangUp
  | arrive l f => exact .inl quiet_arrive.shuts
  | drop l f => exact .inl quiet_drop.shuts
  | advance seconds => exact .inl (Quiet.shuts (quiet_congr rfl rfl rfl rfl rfl rfl (.inl rfl) rfl))
  | network n => exact .inl (Quiet.shuts (quiet_congr rfl rfl rfl rfl rfl rfl (.inl rfl) rfl))
  | deliver event data => exact .inl quiet_enqueue.shuts
  | observe => exact (hlook rfl).elim

end Session

end Farcall
