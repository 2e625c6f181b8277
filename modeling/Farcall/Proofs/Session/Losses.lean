import Farcall.Proofs.Session.Links
import Farcall.Proofs.Session.Readers
import Farcall.Proofs.Session.Responses

/-!
# Lost connections

In every run, when a reader ends, it fails the calls that are pending over its connection, all of
them, and no others.
-/

namespace Farcall.Session

variable {s t : Session} {handled : List Handling}

-- ---------------------------------------------------------------------------
-- Frames
-- ---------------------------------------------------------------------------

theorem Linked.answer (h : Linked s) (hc : Correlated handled s) (hmem : (n, k) ∈ s.pending) :
    Linked (s.answer n k r) := by
  rw [Session.answer, forget_respond]
  refine h.respond.forget (k := k) ?_ ?_
  · rw [pending_respond]
    intro e he hn
    exact hc.distinct e.2 k n (hn ▸ hc.pending e he) (hc.pending _ hmem)
  · rw [call_respond]
    split
    · intro hw
      cases hw
    · rename_i hno
      exact fun hw => (hno ⟨rfl, hw⟩).elim

theorem Linked.notify (h : Linked s) : Linked (s.notify name data) := by
  unfold Session.notify
  split
  · exact h
  · exact h.note
  · exact h.note.note
  · split
    · exact h.enqueue
    · exact h

theorem Linked.handle (h : Linked s) (hc : Correlated handled s) (f : Frame) :
    Linked (s.handle f) := by
  unfold Session.handle
  split
  · exact h
  · exact h.note
  · split
    · rename_i hpending
      exact h.answer hc (pendingCall?_mem hpending).1
    · split
      · exact h.notify
      · exact h

theorem Linked.handleAll (h : Linked s) (hc : Correlated handled s) (fs : List Frame) :
    Linked (fs.foldl Session.handle s) := by
  induction fs generalizing handled s with
  | nil => exact h
  | cons f fs ih => exact ih (h.handle hc f) (hc.handle f)

-- ---------------------------------------------------------------------------
-- Readers
-- ---------------------------------------------------------------------------

theorem Linked.of_closed (h : Linked s) (hcalls : t.calls = s.calls) (hpending : t.pending = s.pending)
    (hclosed : t.closed = true) : Linked t := by
  have hcall (k : Nat) : t.call k = s.call k := by rw [Session.call, hcalls, Session.call]
  refine ⟨?_, fun hopen => ?_, fun hopen => ?_, fun hopen => ?_⟩
  · simpa only [hcall, hpending] using h.waits
  all_goals simp [hclosed] at hopen

/-- A connection changes; its reader neither ends nor is stopped. -/
theorem Linked.updateConnection (h : Linked s)
    (hended : (f (s.connection l)).reader.isFinished = (s.connection l).reader.isFinished)
    (hcancelled : (f (s.connection l)).readerCancelled = (s.connection l).readerCancelled) :
    Linked (s.updateConnection l f) := by
  have hlength : (s.updateConnection l f).connections.length = s.connections.length := by
    simp [Session.updateConnection]
  refine ⟨h.waits, h.linked, fun hopen m => ?_, fun hopen m => ?_⟩
  · rw [hlength, hasEnded_updateConnection hended]
    exact h.readers hopen m
  · rw [connection_updateConnection]
    split
    · exact hcancelled.trans (h.uncancelled hopen l)
    · exact h.uncancelled hopen m

theorem Linked.wakeReader (h : Linked s) : Linked (s.wakeReader l) := by
  unfold Session.wakeReader
  split
  · rename_i hx
    exact (h.updateConnection (by rw [hx]; rfl) rfl).enqueue
  · exact h

theorem Linked.emptied (h : Linked s) (hl : s.hasEnded l = false) : Linked (s.emptied l) :=
  h.updateConnection (by rw [← hasEnded, hl]; rfl) rfl

theorem Linked.drained (h : Linked s) (hc : Correlated handled s) (hl : s.hasEnded l = false) :
    Linked (s.drained l) :=
  (h.emptied hl).handleAll hc.updateConnection (s.connection l).inbox

theorem Linked.lose (h : Linked s) (hlt : l < s.connections.length) (hl : s.hasEnded l = false) :
    Linked (s.lose l fault f) := by
  obtain ⟨calls, upcoming, heq⟩ := lose_eq s l fault f
  have hclosed : (s.lose l fault f).closed = s.closed := by rw [heq]; rfl
  refine ⟨fun k hw hf => ?_, fun _ e he => ?_, fun hopen m => ?_, fun hopen m => ?_⟩
  · rw [call_lose] at hw hf
    split at hw
    · cases hw
    · rename_i hno
      rw [if_neg hno] at hf
      exact (hno ⟨h.waits k hw hf, hw⟩).elim
  · rw [pending_lose] at he
    cases he
  · rw [hclosed] at hopen
    have hsocket := (h.readers hopen l).mp ⟨hlt, hl⟩
    have hlength : (s.lose l fault f).connections.length = s.connections.length := by
      rw [heq]
      simp [Session.updateConnection]
    have hnone : (s.lose l fault f).socket = none := by
      rw [heq]
      exact if_pos hsocket
    rw [hlength, hnone, hasEnded, connection_lose]
    split
    · simp [Reader.isFinished]
    · rename_i hm
      refine ⟨fun hunended => ?_, fun hm => by cases hm⟩
      have hml := Option.some.inj (((h.readers hopen m).mp hunended).symm.trans hsocket)
      exact (hm ⟨hml, hlt⟩).elim
  · rw [hclosed] at hopen
    rw [connection_lose]
    split
    · rfl
    · exact h.uncancelled hopen m

theorem Linked.stepReader (h : Linked s) (hc : Correlated handled s) : Linked (s.stepReader l) := by
  by_cases hl : s.hasEnded l
  · unfold Session.stepReader
    unfold hasEnded Reader.isFinished at hl
    simp only
    split
    · exact h
    · rename_i hno
      split at hl
      · rename_i hx
        exact (hno _ hx).elim
      · cases hl
  rw [Bool.not_eq_true] at hl
  cases hstays : (s.connection l).readerCancelled with
  | false =>
    have hdrained := h.drained hc hl
    rw [stepReader_eq hl hstays]
    split
    · rename_i x hx
      obtain ⟨fault, f, heq⟩ := connectionEnded_eq (s.drained l) l x
      rw [heq]
      exact hdrained.lose (length_drained.symm ▸ lt_of_ended hx) (hasEnded_drained hl)
    · exact hdrained
  | true =>
    have hlt : l < s.connections.length := Nat.lt_of_not_le fun hle => by
      rw [connection_of_length_le hle] at hstays
      cases hstays
    -- readers are stopped by closing only
    have hclosed : s.closed = true := by
      by_contra hopen
      simp [h.uncancelled (by simpa using hopen) l] at hstays
    unfold Session.stepReader
    simp only [hstays, if_true]
    split
    · exact h
    · split
      · obtain ⟨upcoming, heq⟩ := endReader_eq s l none
        rw [heq]
        exact h.of_closed rfl rfl hclosed
      · exact h.lose hlt hl

-- ---------------------------------------------------------------------------
-- Closing
-- ---------------------------------------------------------------------------

theorem Linked.endClosing (h : Linked s) : Linked (s.endClosing f) :=
  h.failPending.congr rfl rfl rfl rfl rfl

theorem Linked.finishClosing (h : Linked s) : Linked (s.finishClosing held) := by
  unfold Session.finishClosing
  split
  · exact h.endClosing
  · simp only
    split
    · exact h.note.endClosing
    · split
      · exact h.congr rfl rfl rfl rfl rfl
      · exact h.note.endClosing

theorem Linked.stepClosing (h : Linked s) : Linked s.stepClosing := by
  unfold Session.stepClosing
  split
  · split
    · exact h.note.finishClosing
    · exact h.finishClosing
  · exact h.endClosing
  · exact h

theorem Linked.close (h : Linked s) : Linked s.close := by
  unfold Session.close
  split
  · exact h
  · have hclosed : Linked
        { s with closed := true, httpOpen := false, reader := none, socket := none } :=
      h.of_closed rfl rfl rfl
    simp only
    split
    · exact hclosed.finishClosing
    · split
      · exact hclosed.note.finishClosing
      · exact hclosed.finishClosing
      · exact Linked.wakeReader (h.of_closed rfl rfl rfl)

-- ---------------------------------------------------------------------------
-- Runs
-- ---------------------------------------------------------------------------

theorem Linked.reportCall (h : Linked s) : Linked (s.reportCall k) := by
  unfold Session.reportCall
  simp only
  split
  · exact h.note
  · exact h

theorem Linked.perform (h : Linked s) (hs : Scheduled [j] s) (hc : Correlated handled s)
    (he : ∀ k, s.Entered k) : Linked (s.perform j) := by
  cases j with
  | guard k => exact h.stepGuard hs hc
  | carrier k => exact h.stepCarrier hs hc (he k)
  | release k => exact h.releaseGuard
  | alarm k => exact h.ringAlarm
  | report k => exact h.reportCall
  | reader l => exact h.stepReader hc
  | closing => exact h.stepClosing
  | deliver event data => exact h.note

theorem Linked.begin (h : Linked s) (hc : Correlated handled s) : Linked (s.begin r callback) := by
  refine ⟨fun k hw hf => ?_, fun hopen e he => ?_, h.readers, h.uncancelled⟩
  · rw [call_begin] at hw hf
    split at hw
    · cases hw
    · rename_i hk
      rw [if_neg hk] at hf
      exact h.waits k hw hf
  · have hmade : e.2 < s.calls.length := lt_of_id (by simp [hc.pending e he])
    rw [call_begin, if_neg (Nat.ne_of_lt hmade)]
    exact h.linked hopen e he

theorem Linked.reply (h : Linked s) : Linked (s.reply r a).1 := by
  unfold Session.reply
  split
  · exact h
  · split
    · rename_i hx
      split
      · exact h.wakeCarrier (by simp [hx, Carrier.isFinished])
      · exact h
    · exact h

theorem Linked.settle (h : Linked s) : Linked (s.settle a f).1 := by
  unfold Session.settle
  split
  · exact h
  · split
    · rename_i hx
      split
      · exact h.wakeCarrier (by simp [hx, Carrier.isFinished])
      · exact h
    · exact h

theorem Linked.flush (h : Linked s) : Linked (s.flush k f) := by
  unfold Session.flush
  split
  · rename_i hx
    exact h.wakeCarrier (by simp [hx, Carrier.isFinished])
  · exact h

theorem Linked.endHangUp (h : Linked s) : Linked (s.endHangUp f) := by
  unfold Session.endHangUp
  split
  · exact Linked.enqueue (h.congr rfl rfl rfl rfl rfl)
  · exact h

theorem Linked.arrive (h : Linked s) : Linked (s.arrive l f) := by
  unfold Session.arrive
  split
  · exact h
  · exact (h.updateConnection rfl rfl).wakeReader

theorem Linked.drop (h : Linked s) : Linked (s.drop l f) := by
  unfold Session.drop
  split
  · exact h
  · exact (h.updateConnection rfl rfl).wakeReader

theorem Linked.next (h : Linked s) (hj : s.next = some (j, t)) : Linked t := by
  obtain ⟨_, _, _, rfl⟩ := next_eq hj
  exact h.congr rfl rfl rfl rfl rfl

theorem linked_new (address : String) (customEncryption : Bool) (timeout : Value)
    (notices : Notices) : Linked (new address customEncryption timeout notices) := by
  have hcall (k : Nat) : (new address customEncryption timeout notices).call k = default :=
    call_of_length_le (Nat.zero_le k)
  refine ⟨fun k hw => ?_, fun _ e he => ?_, fun _ l => ?_, fun _ l => ?_⟩
  · rw [hcall] at hw
    cases hw
  · cases he
  · exact ⟨fun hl => (Nat.not_lt_zero l hl.1).elim, fun hl => by cases hl⟩
  · rw [connection_of_length_le (Nat.zero_le l)]
    rfl

theorem Linked.work (h : Linked s) (hs : Sound handled s) : Linked (s.after .work) := by
  simp only [Session.after, step]
  cases hj : s.next with
  | none => exact h.congr rfl rfl rfl rfl rfl
  | some next =>
    obtain ⟨j, t⟩ := next
    obtain ⟨hscheduled, hentered⟩ := hs.scheduled.next hj
    exact (h.next hj).perform hscheduled (hs.correlated.next hj) hentered

theorem Linked.after (h : Linked s) (hs : Sound handled s) (m : Move) : Linked (s.after m) := by
  cases m with
  | begin r callback => exact h.begin hs.correlated
  | cancel k => exact h.cancel
  | close => exact h.close
  | work => exact h.work hs
  | reply r a => exact h.reply
  | settle a f => exact h.settle
  | flush k f => exact h.flush
  | endHangUp f => exact h.endHangUp
  | arrive l f => exact h.arrive
  | drop l f => exact h.drop
  | deliver event data => exact h.enqueue
  | advance seconds => exact h.congr rfl rfl rfl rfl rfl
  | network n => exact h.congr rfl rfl rfl rfl rfl
  | observe => exact h.congr rfl rfl rfl rfl rfl

theorem Run.linked (h : Run handled s) : Linked s := by
  induction h with
  | new address customEncryption timeout notices => exact linked_new ..
  | move hrun m ih => exact ih.after hrun.sound m

-- ---------------------------------------------------------------------------
-- Lost connections
-- ---------------------------------------------------------------------------

/-- With a connection, all calls that are pending over it are lost, and nothing happens to the
others. -/
structure Lost (l : Nat) (s t : Session) : Prop where
  pending : t.pending = []
  /-- Of the calls that are pending, exactly those that still wait fail. -/
  failed : ∃ fault, ∀ k, t.call k =
    if k ∈ s.pending.map Prod.snd ∧ (s.call k).isWaiting then
      { s.call k with response := some (.kept (.error (.transport fault))) }
    else s.call k
  /-- All pending calls go over this connection, ... -/
  links : ∀ e ∈ s.pending, (s.call e.2).link = some l
  /-- ... and all who still wait for a response over this connection are pending. -/
  waits : ∀ k, (s.call k).link = some l → (s.call k).isWaiting →
    (s.call k).carrier.isFinished = false → k ∈ s.pending.map Prod.snd
  others : ∀ k, (s.call k).link ≠ some l → t.call k = s.call k

theorem Linked.lost (h : Linked s) (hopen : s.closed = false) (hlt : l < s.connections.length)
    (hl : s.hasEnded l = false) : Lost l s (s.lose l fault f) := by
  have hsocket := (h.readers hopen l).mp ⟨hlt, hl⟩
  have hlinks : ∀ e ∈ s.pending, (s.call e.2).link = some l := by
    intro e he
    obtain ⟨m, hm, hem⟩ := h.linked hopen e he
    rw [hem, ← hm, hsocket]
  refine ⟨pending_lose, ⟨fault, fun k => call_lose⟩, hlinks, fun k _ => h.waits k, fun k hk => ?_⟩
  rw [call_lose, if_neg]
  rintro ⟨hmem, -⟩
  obtain ⟨e, he, rfl⟩ := List.mem_map.mp hmem
  exact hk (hlinks e he)

/-- Until a session is closed, each pending entry is that of a call over the connection in use.
Whatever the move in which a reader ends, the frames that are there are handled first, and then the
calls over its connection are lost, and no others. -/
theorem pending_on_socket (h : Run handled s) (hopen : s.closed = false) :
    (∀ e ∈ s.pending, (s.call e.2).id = some e.1 ∧
      ∃ l, s.socket = some l ∧ (s.call e.2).link = some l) ∧
    (s.socket = none → s.pending = []) ∧
    ∀ l m, s.hasEnded l = false → (s.after m).hasEnded l = true →
      ∃ t, s.next = some (.reader l, t) ∧ Lost l (t.drained l) (s.after m) := by
  have hlinked := h.linked
  have hc := h.sound.correlated
  refine ⟨fun e he => ⟨hc.pending e he, hlinked.linked hopen e he⟩, fun hnone => ?_, ?_⟩
  · refine List.eq_nil_iff_forall_not_mem.mpr fun e he => ?_
    obtain ⟨l, hl, -⟩ := hlinked.linked hopen e he
    simp [hnone] at hl
  · intro l m hl hended
    obtain ⟨t, hj, hafter⟩ := ends_in_own_job m hl hended
    refine ⟨t, hj, ?_⟩
    rw [hafter] at hended ⊢
    have ⟨htopen, htl⟩ : t.closed = false ∧ t.hasEnded l = false := by
      obtain ⟨_, _, _, rfl⟩ := next_eq hj
      exact ⟨hopen, hl⟩
    have ht := hlinked.next hj
    have hdrained := ht.drained (hc.next hj) htl
    rw [Session.perform, stepReader_eq htl (ht.uncancelled htopen l)] at hended ⊢
    split at hended
    · rename_i x hx
      obtain ⟨fault, f, heq⟩ := connectionEnded_eq (t.drained l) l x
      rw [heq]
      exact hdrained.lost (closed_drained.trans htopen) (length_drained.symm ▸ lt_of_ended hx)
        (hasEnded_drained htl)
    · simp [hasEnded_drained htl] at hended

/-- The first connection is lost with the first call. The second call goes over a connection of its
own, and is lost with that one. -/
theorem pending_on_socket_reconnected :
    let s := (new "ws://host" false (.int 30) .ignored).afterAll
      [.begin ⟨"first", .list [], true, .socket⟩ none, .work, .work, .work, .drop 0 none, .work,
        .begin ⟨"second", .list [], true, .socket⟩ none, .work, .work, .work, .work, .work, .work,
        .work, .drop 1 none]
    s.pending = [(2, 1)] ∧ s.socket = some 1 ∧ (s.call 0).link = some 0 ∧
      ∃ t, s.next = some (.reader 1, t) ∧ Lost 1 (t.drained 1) (s.after .work) := by
  intro s
  have hrun := Run.new "ws://host" false (.int 30) .ignored
  obtain ⟨handled, hs⟩ := hrun.moves _
  have hstate : s.closed = false ∧ s.pending = [(2, 1)] ∧ s.socket = some 1 ∧
      (s.call 0).link = some 0 := by
    simp only [s]
    decide +kernel
  have hends : s.hasEnded 1 = false ∧ (s.after .work).hasEnded 1 = true := by
    simp only [s]
    decide +kernel
  obtain ⟨hopen, hpending, hsocket, hlink⟩ := hstate
  obtain ⟨-, -, hlost⟩ := pending_on_socket hs hopen
  exact ⟨hpending, hsocket, hlink, hlost 1 .work hends.1 hends.2⟩

end Farcall.Session
