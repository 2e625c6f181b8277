import Farcall.Proofs.Session.Calls
import Farcall.Proofs.Session.Moves

/-!
# Connections under change

Frames change no connection, and only the connection whose reader ends is lost. What its end makes of
the calls is said here for every session.
-/

namespace Farcall.Session

variable {s t : Session}

-- ---------------------------------------------------------------------------
-- Changing one connection
-- ---------------------------------------------------------------------------

theorem connection_updateConnection : (s.updateConnection l f).connection m =
    if m = l ∧ l < s.connections.length then f (s.connection l) else s.connection m := by
  unfold Session.updateConnection Session.connection
  rw [List.getD_eq_getElem?_getD, List.getElem?_modify]
  by_cases hm : m = l
  · subst hm
    by_cases hlen : m < s.connections.length
    · simp [hlen]
    · simp [hlen]
  · simp [hm, Ne.symm hm]

theorem connection_of_length_le (h : s.connections.length ≤ l) : s.connection l = default := by
  simp [Session.connection, List.getD_eq_getElem?_getD, List.getElem?_eq_none h]

theorem lt_of_ended (h : (s.connection l).ended = some x) : l < s.connections.length :=
  Nat.lt_of_not_le fun hle => by
    rw [connection_of_length_le hle] at h
    cases h

theorem connection_openConnection : s.openConnection.connection l =
    if l = s.connections.length then Connection.opened else s.connection l := by
  simp only [Session.openConnection, Session.enqueue, Session.connection,
    List.getD_eq_getElem?_getD]
  by_cases hl : l = s.connections.length
  · simp [hl]
  · by_cases hlt : l < s.connections.length
    · simp [hl, List.getElem?_append_left hlt]
    · simp [hl, List.getElem?_eq_none (Nat.le_of_not_lt hlt),
        List.getElem?_eq_none (show (s.connections ++ [Connection.opened]).length ≤ l by
          simp only [List.length_append, List.length_singleton]
          omega)]

theorem socket_passTurn : s.passTurn.socket = s.socket := by
  unfold Session.passTurn
  split
  · rfl
  · split <;> rfl

theorem socket_unlock : s.unlock.socket = s.socket := socket_passTurn

-- ---------------------------------------------------------------------------
-- Frames
-- ---------------------------------------------------------------------------

theorem pending_respond : (s.respond k r).pending = s.pending := by
  obtain ⟨calls, upcoming, heq⟩ := respond_eq s k r
  rw [heq]

theorem forget_respond : (s.forget n).respond k r = (s.respond k r).forget n := by
  unfold Session.respond Session.setResponse
  have hcall : (s.forget n).call k = s.call k := rfl
  rw [hcall]
  split
  · simp only
    have hcarrier : ((s.forget n).updateCall k fun c => { c with response := some (.kept r) }).call k =
        (s.updateCall k fun c => { c with response := some (.kept r) }).call k := rfl
    rw [hcarrier]
    split <;> rfl
  · rfl

theorem handle_eq (s : Session) (f : Frame) : ∃ calls pending upcoming traces,
    s.handle f =
      { s with calls := calls, pending := pending, upcoming := upcoming, traces := traces } := by
  unfold Session.handle
  split
  · exact ⟨s.calls, s.pending, s.upcoming, s.traces, rfl⟩
  · exact ⟨s.calls, s.pending, s.upcoming, _, rfl⟩
  · split
    · rename_i n k _
      obtain ⟨calls, upcoming, heq⟩ := respond_eq (s.forget n) k _
      exact ⟨calls, _, upcoming, s.traces, heq⟩
    · split
      · unfold Session.notify
        split
        · exact ⟨s.calls, s.pending, s.upcoming, s.traces, rfl⟩
        · exact ⟨s.calls, s.pending, s.upcoming, _, rfl⟩
        · exact ⟨s.calls, s.pending, s.upcoming, _, rfl⟩
        · split
          · exact ⟨s.calls, s.pending, _, s.traces, rfl⟩
          · exact ⟨s.calls, s.pending, s.upcoming, s.traces, rfl⟩
      · exact ⟨s.calls, s.pending, s.upcoming, s.traces, rfl⟩

theorem handleAll_eq (s : Session) (fs : List Frame) : ∃ calls pending upcoming traces,
    fs.foldl Session.handle s =
      { s with calls := calls, pending := pending, upcoming := upcoming, traces := traces } := by
  induction fs generalizing s with
  | nil => exact ⟨s.calls, s.pending, s.upcoming, s.traces, rfl⟩
  | cons f fs ih =>
    obtain ⟨_, _, _, _, hf⟩ := handle_eq s f
    obtain ⟨calls, pending, upcoming, traces, hfs⟩ := ih (s.handle f)
    exact ⟨calls, pending, upcoming, traces, by rw [List.foldl_cons, hfs, hf]⟩

theorem drained_eq (s : Session) (l : Nat) : ∃ calls pending upcoming traces, s.drained l =
    { s.emptied l with
      calls := calls, pending := pending, upcoming := upcoming, traces := traces } :=
  handleAll_eq (s.emptied l) (s.connection l).inbox

theorem connection_drained : (s.drained l).connection m = (s.emptied l).connection m := by
  obtain ⟨_, _, _, _, heq⟩ := drained_eq s l
  rw [heq]
  rfl

theorem closed_drained : (s.drained l).closed = s.closed := by
  obtain ⟨_, _, _, _, heq⟩ := drained_eq s l
  rw [heq]
  rfl

theorem length_drained : (s.drained l).connections.length = s.connections.length := by
  obtain ⟨_, _, _, _, heq⟩ := drained_eq s l
  rw [heq]
  simp [Session.emptied, Session.updateConnection]

theorem hasEnded_drained (hl : s.hasEnded l = false) : (s.drained l).hasEnded l = false := by
  rw [hasEnded, connection_drained, Session.emptied, connection_updateConnection]
  split
  · rfl
  · exact hl

-- ---------------------------------------------------------------------------
-- The end of a reader
-- ---------------------------------------------------------------------------

theorem release_eq (s : Session) (l : Nat) :
    s.release l = { s with socket := if s.socket = some l then none else s.socket } := by
  unfold Session.release
  by_cases hsocket : s.socket = some l
  · simp [hsocket]
  · simp [hsocket]

theorem endReader_eq (s : Session) (l : Nat) (f : Option Failure) : ∃ upcoming, s.endReader l f =
    { s.updateConnection l fun x => { x with reader := .finished f, readerCancelled := false } with
      upcoming := upcoming } := by
  unfold Session.endReader
  simp only
  split
  · exact ⟨_, rfl⟩
  · exact ⟨s.upcoming, rfl⟩

/-- A connection is lost, and all pending calls with it; its reader ends. -/
def lose (s : Session) (l : Nat) (fault : TransportFault) (f : Option Failure) : Session :=
  ((s.release l).failPending fault).endReader l f

theorem connectionEnded_eq (s : Session) (l : Nat) (x : Option LinkFailure) :
    ∃ fault f, s.connectionEnded l x = s.lose l fault f := by
  unfold Session.connectionEnded
  simp only
  split
  · exact ⟨_, _, rfl⟩
  · split
    · exact ⟨_, _, rfl⟩
    · exact ⟨_, _, rfl⟩

theorem lose_eq (s : Session) (l : Nat) (fault : TransportFault) (f : Option Failure) :
    ∃ calls upcoming, s.lose l fault f =
      { s.updateConnection l fun x => { x with reader := .finished f, readerCancelled := false } with
        pending := []
        calls := calls
        upcoming := upcoming
        socket := if s.socket = some l then none else s.socket } := by
  obtain ⟨calls, _, hfail⟩ := failPending_eq (s.release l) fault
  obtain ⟨upcoming, hend⟩ := endReader_eq ((s.release l).failPending fault) l f
  exact ⟨calls, upcoming, by rw [lose, hend, hfail, release_eq]; rfl⟩

theorem pending_lose : (s.lose l fault f).pending = [] := by
  obtain ⟨_, _, heq⟩ := lose_eq s l fault f
  rw [heq]

theorem connection_lose : (s.lose l fault f).connection m = if m = l ∧ l < s.connections.length then
    { s.connection l with reader := .finished f, readerCancelled := false } else s.connection m := by
  obtain ⟨_, _, heq⟩ := lose_eq s l fault f
  rw [heq]
  exact connection_updateConnection

theorem call_lose : (s.lose l fault f).call k =
    if k ∈ s.pending.map Prod.snd ∧ (s.call k).isWaiting then
      { s.call k with response := some (.kept (.error (.transport fault))) }
    else s.call k := by
  obtain ⟨_, hend⟩ := endReader_eq ((s.release l).failPending fault) l f
  have hcall : (s.lose l fault f).call k = ((s.release l).failPending fault).call k := by
    rw [lose, hend]
    rfl
  rw [hcall, call_failPending, release_eq]
  rfl

/-- A reader that is not to stop handles the frames that are there; it ends if the other side is
gone. -/
theorem stepReader_eq (hl : s.hasEnded l = false)
    (hstays : (s.connection l).readerCancelled = false) : s.stepReader l =
      match (s.connection l).ended with
      | some f => (s.drained l).connectionEnded l f
      | none => s.drained l := by
  unfold Session.stepReader
  unfold hasEnded Reader.isFinished at hl
  simp only
  split
  · rename_i hx
    simp [hx] at hl
  · simp only [hstays, Bool.false_eq_true, if_false]
    rfl

end Farcall.Session
