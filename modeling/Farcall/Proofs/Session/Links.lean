import Farcall.Proofs.Session.Connections
import Farcall.Proofs.Session.Correlation
import Farcall.Proofs.Session.Work

/-!
# Pending calls and the connection in use

Until a session is closed, each pending entry is that of a call over the connection in use, and the
reader of no other connection is still at work. Carriers and guards keep it so: a call is noted as
pending in the same job that finds or opens the connection.
-/

namespace Farcall.Session

/-- Pending entries belong to the connection in use, and whoever waits for a response is among
them. -/
structure Linked (s : Session) : Prop where
  waits : ∀ k, (s.call k).isWaiting → (s.call k).carrier.isFinished = false →
    k ∈ s.pending.map Prod.snd
  linked : s.closed = false → ∀ e ∈ s.pending, ∃ l, s.socket = some l ∧ (s.call e.2).link = some l
  readers : s.closed = false → ∀ l,
    (l < s.connections.length ∧ s.hasEnded l = false) ↔ s.socket = some l
  uncancelled : s.closed = false → ∀ l, (s.connection l).readerCancelled = false

variable {s t : Session} {handled : List Handling}

-- ---------------------------------------------------------------------------
-- Changing one call
-- ---------------------------------------------------------------------------

theorem Linked.congr (h : Linked s) (hcalls : t.calls = s.calls) (hpending : t.pending = s.pending)
    (hclosed : t.closed = s.closed) (hsocket : t.socket = s.socket)
    (hconnections : t.connections = s.connections) : Linked t := by
  have hcall (k : Nat) : t.call k = s.call k := by rw [Session.call, hcalls, Session.call]
  have hconnection (l : Nat) : t.connection l = s.connection l := by
    rw [Session.connection, hconnections, Session.connection]
  have hended (l : Nat) : t.hasEnded l = s.hasEnded l := by
    rw [hasEnded, hconnection, hasEnded]
  constructor
  · simpa only [hcall, hpending] using h.waits
  · simpa only [hclosed, hpending, hsocket, hcall] using h.linked
  · simpa only [hclosed, hconnections, hended, hsocket] using h.readers
  · simpa only [hclosed, hconnection] using h.uncancelled

/-- One call changes; it does not begin to wait, and it stays with the connection in use. -/
theorem Linked.change (h : Linked s)
    (hlink : ∀ l, s.socket = some l → (s.call k).link = some l → (f (s.call k)).link = some l)
    (hwaits : (f (s.call k)).isWaiting → (f (s.call k)).carrier.isFinished = false →
      (s.call k).isWaiting ∧ (s.call k).carrier.isFinished = false) :
    Linked (s.updateCall k f) := by
  refine ⟨fun j hw hf => ?_, fun hopen e he => ?_, h.readers, h.uncancelled⟩
  · rw [call_updateCall] at hw hf
    split at hw
    · rename_i hj
      rw [if_pos hj] at hf
      exact hj.1 ▸ h.waits k (hwaits hw hf).1 (hwaits hw hf).2
    · rename_i hj
      rw [if_neg hj] at hf
      exact h.waits j hw hf
  · obtain ⟨l, hl, hel⟩ := h.linked hopen e he
    refine ⟨l, hl, ?_⟩
    rw [call_updateCall]
    split
    · rename_i hj
      exact hlink l hl (hj.1 ▸ hel)
    · exact hel

theorem Linked.updateCall (h : Linked s) (hlink : (f (s.call k)).link = (s.call k).link)
    (hwaits : (f (s.call k)).isWaiting → (f (s.call k)).carrier.isFinished = false →
      (s.call k).isWaiting ∧ (s.call k).carrier.isFinished = false) :
    Linked (s.updateCall k f) :=
  h.change (fun _ _ hl => hlink.trans hl) hwaits

theorem Linked.setCarrier (h : Linked s)
    (hx : x.isFinished = false → (s.call k).carrier.isFinished = false) :
    Linked (s.setCarrier k x) :=
  h.updateCall rfl fun hw hf => ⟨hw, hx hf⟩

theorem Linked.setGuard (h : Linked s) : Linked (s.setGuard k g) :=
  h.updateCall rfl fun hw hf => ⟨hw, hf⟩

theorem Linked.enqueue (h : Linked s) : Linked (s.enqueue j) :=
  h.congr rfl rfl rfl rfl rfl

theorem Linked.note (h : Linked s) : Linked (s.note x) :=
  h.congr rfl rfl rfl rfl rfl

theorem Linked.wakeCarrier (h : Linked s) (hx : (s.call k).carrier.isFinished = false) :
    Linked (s.wakeCarrier k x) :=
  (h.setCarrier fun _ => hx).enqueue

theorem Linked.finishCarrier (h : Linked s) : Linked (s.finishCarrier k o) := by
  have hset : Linked (s.setCarrier k (.finished o)) := h.setCarrier fun hf => by cases hf
  unfold Session.finishCarrier
  simp only
  split
  · exact hset.enqueue
  · exact hset.enqueue
  · exact hset

theorem Linked.setResponse (h : Linked s) (hp : p.isPending = false) :
    Linked (s.setResponse k p) := by
  have hset : Linked (s.updateCall k fun c => { c with response := some p }) :=
    h.updateCall rfl fun hw => by cases p <;> simp_all [Call.isWaiting, Promise.isPending]
  unfold Session.setResponse
  simp only
  split
  · exact hset.enqueue
  · exact hset

theorem Linked.respond (h : Linked s) : Linked (s.respond k r) := by
  unfold Session.respond
  split
  · exact h.setResponse rfl
  · exact h

theorem Linked.failPending (h : Linked s) : Linked (s.failPending f) := by
  have hcall (k : Nat) := call_failPending (s := s) (f := f) (k := k)
  obtain ⟨calls, upcoming, heq⟩ := failPending_eq s f
  have hempty : (s.failPending f).pending = [] := by rw [heq]
  refine ⟨fun k hw hf => ?_, fun _ e he => ?_, ?_, ?_⟩
  · rw [hcall] at hw hf
    split at hw
    · cases hw
    · rename_i hno
      rw [if_neg hno] at hf
      exact (hno ⟨h.waits k hw hf, hw⟩).elim
  · rw [hempty] at he
    cases he
  · rw [heq]
    exact h.readers
  · rw [heq]
    exact h.uncancelled

theorem Linked.passTurn (h : Linked s) : Linked s.passTurn := by
  unfold Session.passTurn
  split
  · exact h
  · split
    · rename_i hx
      exact h.wakeCarrier (by simp [hx, Carrier.isFinished])
    · exact h

theorem Linked.unlock (h : Linked s) : Linked s.unlock :=
  Linked.passTurn (h.congr rfl rfl rfl rfl rfl)

theorem Linked.cancelCarrier (h : Linked s) : Linked (s.cancelCarrier k) := by
  unfold Session.cancelCarrier
  split
  · rename_i hx
    exact h.wakeCarrier (by simp [hx, Carrier.isFinished])
  · rename_i hx
    exact h.wakeCarrier (by simp [hx, Carrier.isFinished])
  · rename_i hx
    exact h.wakeCarrier (by simp [hx, Carrier.isFinished])
  · rename_i hx
    exact h.wakeCarrier (by simp [hx, Carrier.isFinished])
  · exact h
  · exact h
  · split
    · exact h.setResponse rfl
    · exact h.updateCall rfl fun hw hf => ⟨hw, hf⟩

-- ---------------------------------------------------------------------------
-- Sending
-- ---------------------------------------------------------------------------

/-- An entry under the number of a call is an entry of that call. -/
theorem Correlated.owner (h : Correlated handled s) (hid : (s.call k).id ≠ none)
    (he : e ∈ s.pending) (hn : e.1 = (s.call k).id.getD 0) : e.2 = k := by
  obtain ⟨n, hk⟩ := Option.ne_none_iff_exists'.mp hid
  have hen : e.1 = n := by simpa [hk] using hn
  exact h.distinct e.2 k n (hen ▸ h.pending e he) hk

/-- A number may be forgotten once nobody waits for a response under it. -/
theorem Linked.forget (h : Linked s) (howner : ∀ e ∈ s.pending, e.1 = n → e.2 = k)
    (hk : (s.call k).isWaiting → (s.call k).carrier.isFinished) : Linked (s.forget n) := by
  refine ⟨fun j hw hf => ?_, fun hopen e he => ?_, h.readers, h.uncancelled⟩
  · obtain ⟨e, he, hej⟩ := List.mem_map.mp (h.waits j hw hf)
    refine List.mem_map.mpr ⟨e, List.mem_filter.mpr ⟨he, ?_⟩, hej⟩
    -- only the owner of the number would lose its entry, and it does not wait
    refine decide_eq_true fun hen => ?_
    have hjk : j = k := hej.symm.trans (howner e he hen)
    change (s.call j).isWaiting at hw
    change (s.call j).carrier.isFinished = false at hf
    rw [hjk] at hw hf
    simp [hk hw] at hf
  · exact h.linked hopen e (List.mem_filter.mp he).1

theorem forget_finishCarrier :
    (s.forget n).finishCarrier k o = (s.finishCarrier k o).forget n := by
  unfold Session.finishCarrier
  simp only
  have hguard : ((s.forget n).setCarrier k (.finished o)).call k =
      (s.setCarrier k (.finished o)).call k := rfl
  rw [hguard]
  split <;> rfl

theorem pending_finishCarrier : (s.finishCarrier k o).pending = s.pending := by
  unfold Session.finishCarrier
  simp only
  split <;> rfl

theorem call_finishCarrier :
    (s.finishCarrier k o).call j = (s.setCarrier k (.finished o)).call j := by
  unfold Session.finishCarrier
  simp only
  split <;> rfl

theorem Linked.sendFailed (h : Linked s) (hc : Correlated handled s) (hid : (s.call k).id ≠ none) :
    Linked (s.sendFailed k f) := by
  unfold Session.sendFailed
  simp only
  split
  · rw [forget_finishCarrier]
    refine h.finishCarrier.forget (k := k) ?_ ?_
    · rw [pending_finishCarrier]
      exact fun e he hn => hc.owner hid he hn
    · rw [call_finishCarrier, call_setCarrier (lt_of_id hid), if_pos rfl]
      exact fun _ => rfl
  · exact h.finishCarrier

theorem Linked.awaitResponse (h : Linked s) (hk : (s.call k).carrier.isFinished = false) :
    Linked (s.awaitResponse k) := by
  unfold Session.awaitResponse
  split
  · exact h.finishCarrier
  · exact h.setCarrier fun _ => hk
  · exact h.finishCarrier
  · exact h.finishCarrier

theorem Linked.transmit (h : Linked s) (hc : Correlated handled s) (hid : (s.call k).id ≠ none)
    (hk : (s.call k).carrier.isFinished = false) : Linked (s.transmit k l) := by
  unfold Session.transmit
  simp only
  split
  · exact h.finishCarrier
  · split
    · exact h.sendFailed hc hid
    · split
      · exact h.note.setCarrier fun _ => hk
      · exact h.note.awaitResponse hk

theorem Linked.setLink (h : Linked s) (hsocket : s.socket = some l) :
    Linked (s.updateCall k fun c => { c with link := some l }) :=
  h.change (fun _ hl _ => hsocket.symm.trans hl) fun hw hf => ⟨hw, hf⟩

/-- A call is noted as pending only for the connection in use. -/
theorem Linked.addPending (h : Linked s) (hsocket : s.socket = some l)
    (hlink : (s.call k).link = some l) : Linked (s.addPending k) := by
  unfold Session.addPending
  split
  · refine ⟨fun j hw hf => ?_, fun hopen e he => ?_, h.readers, h.uncancelled⟩
    · change ((s.updateCall k fun c => { c with response := some .pending }).call j).isWaiting at hw
      change ((s.updateCall k _).call j).carrier.isFinished = false at hf
      show j ∈ (s.pending ++ [(_, k)]).map Prod.snd
      rw [List.map_append, List.mem_append]
      rw [call_updateCall] at hw hf
      split at hw
      · rename_i hj
        exact .inr (by simp [hj.1])
      · rename_i hj
        rw [if_neg hj] at hf
        exact .inl (h.waits j hw hf)
    · have hkeep : ((s.updateCall k fun c => { c with response := some .pending }).call e.2).link =
          (s.call e.2).link := by
        rw [call_updateCall]
        split
        · rename_i hj
          rw [hj.1]
        · rfl
      rcases List.mem_append.mp he with he | he
      · obtain ⟨l', hl', hel⟩ := h.linked hopen e he
        exact ⟨l', hl', hkeep.trans hel⟩
      · obtain rfl := List.mem_singleton.mp he
        exact ⟨l, hsocket, hkeep.trans hlink⟩
  · exact h

theorem Linked.register (h : Linked s) (hsocket : s.socket = some l) (hid : (s.call k).id ≠ none) :
    Linked (s.register k l) :=
  (h.setLink hsocket).addPending hsocket (by rw [call_updateCall_self (lt_of_id hid)])

/-- A carrier is at work, and all is in order. -/
structure Working (handled : List Handling) (k : Nat) (s : Session) : Prop where
  linked : Linked s
  scheduled : Scheduled [.carrier k] s
  correlated : Correlated handled s
  numbered : (s.call k).id ≠ none
  notAwaiting : (s.call k).carrier ≠ .awaiting

theorem Working.unfinished (h : Working handled k s) : (s.call k).carrier.isFinished = false :=
  not_isFinished_of_isReady (h.scheduled.isReady (List.mem_singleton.mpr rfl))

theorem Working.send (h : Working handled k s) (hsocket : s.socket = some l) :
    Linked (s.send k l) := by
  have hregistered := h.scheduled.register (l := l) h.notAwaiting
  refine (h.linked.register hsocket h.numbered).transmit (h.correlated.register h.numbered) ?_ ?_
  · rw [id_of_card card_register]
    exact h.numbered
  · exact not_isFinished_of_isReady (hregistered.isReady (List.mem_singleton.mpr rfl))

theorem Working.unlock (h : Working handled k s) (ha : s.Alone k) : Working handled k s.unlock where
  linked := h.linked.unlock
  scheduled := h.scheduled.unlock ha
  correlated := h.correlated.unlock
  numbered := by
    rw [id_of_card card_unlock]
    exact h.numbered
  notAwaiting := carrier_passTurn h.notAwaiting

/-- Where no connection is in use, a new one can be taken into use. -/
theorem Linked.openConnection (h : Linked s) (hsocket : s.socket = none) :
    Linked s.openConnection := by
  refine ⟨h.waits, fun hopen e he => ?_, fun hopen l => ?_, fun hopen l => ?_⟩
  · obtain ⟨l, hl, -⟩ := h.linked hopen e he
    simp [hsocket] at hl
  · have hlength : s.openConnection.connections.length = s.connections.length + 1 :=
      List.length_append
    have hnew : s.openConnection.socket = some s.connections.length := rfl
    rw [hlength, hnew, hasEnded, connection_openConnection, Option.some_inj]
    have hold := h.readers hopen l
    rw [hsocket] at hold
    split
    · rename_i hl
      simp [hl, Connection.opened, Reader.isFinished]
    · rename_i hl
      have hlt : l < s.connections.length + 1 ↔ l < s.connections.length := by omega
      rw [hlt]
      exact ⟨fun hl => (Option.some_ne_none _ (hold.mp hl).symm).elim, fun h => (hl h.symm).elim⟩
  · rw [connection_openConnection]
    split
    · rfl
    · exact h.uncancelled hopen l

/-- A carrier that is alone with the lock can change it as it likes. -/
theorem Working.of_alone (h : Working handled k s) (ha : s.Alone k) (hcalls : t.calls = s.calls)
    (hready : t.ready = s.ready) (hpending : t.pending = s.pending) (hclosed : t.closed = s.closed)
    (hsocket : t.socket = s.socket) (hconnections : t.connections = s.connections)
    (hnext : t.nextId = s.nextId) : Working handled k t where
  linked := h.linked.congr hcalls hpending hclosed hsocket hconnections
  scheduled := h.scheduled.of_alone ha hcalls hready
  correlated := h.correlated.congr hcalls (hpending ▸ List.Subset.refl _) hnext
  numbered := by
    rw [Session.call, hcalls]
    exact h.numbered
  notAwaiting := by
    rw [Session.call, hcalls]
    exact h.notAwaiting

theorem Working.connected (h : Working handled k s) (ha : s.Alone k) (hsocket : s.socket = none) :
    Linked (s.connected k) := by
  have hopened : Working handled k s.openConnection :=
    ⟨h.linked.openConnection hsocket, h.scheduled.openConnection ha, h.correlated.openConnection,
      h.numbered, h.notAwaiting⟩
  exact (hopened.unlock ha).send socket_unlock

theorem Linked.notConnected (h : Linked s) : Linked (s.notConnected k f) :=
  h.unlock.finishCarrier

theorem Working.connect (h : Working handled k s) (ha : s.Alone k) (hsocket : s.socket = none) :
    Linked (s.connect k) := by
  unfold Session.connect
  simp only
  split
  · exact Working.connected (h.of_alone ha rfl rfl rfl rfl rfl rfl rfl) ha hsocket
  · exact Linked.setCarrier (Linked.note (h.linked.congr rfl rfl rfl rfl rfl)) fun _ => h.unfinished
  · exact Linked.notConnected (Linked.note (h.linked.congr rfl rfl rfl rfl rfl))

theorem Working.useSocket (h : Working handled k s) (ha : s.Alone k) : Linked (s.useSocket k) := by
  have hlocked : Working handled k { s with locked := true } :=
    h.of_alone ha rfl rfl rfl rfl rfl rfl rfl
  unfold Session.useSocket
  simp only
  split
  · rename_i hsocket
    exact (hlocked.unlock ha).send (socket_unlock.trans hsocket)
  · rename_i hsocket
    exact hlocked.connect ha hsocket

theorem Working.takeTurn (h : Working handled k s) : Linked (s.takeTurn k) := by
  unfold Session.takeTurn
  split
  · rename_i hfree
    simp only [Bool.and_eq_true, Bool.not_eq_eq_eq_not, Bool.not_true] at hfree
    exact h.useSocket (h.scheduled.alone hfree.1 hfree.2)
  · exact Linked.setCarrier (h.linked.congr rfl rfl rfl rfl rfl) fun _ => h.unfinished

theorem Working.endQueueing (h : Working handled k s) (hturn : cancelled = false → s.Alone k) :
    Linked (s.endQueueing k cancelled) := by
  have hleft : Linked { s with queue := s.queue.erase k } := h.linked.congr rfl rfl rfl rfl rfl
  unfold Session.endQueueing
  simp only
  split
  · split
    · exact hleft.finishCarrier
    · exact hleft.passTurn.finishCarrier
  · rename_i hc
    have ha := hturn (by simpa using hc)
    exact Working.useSocket (h.of_alone ha rfl rfl rfl rfl rfl rfl rfl) ha

theorem Linked.post (h : Linked s) (hk : (s.call k).carrier.isFinished = false) :
    Linked (s.post k) := by
  unfold Session.post
  simp only
  split
  · exact Linked.finishCarrier (h.congr rfl rfl rfl rfl rfl)
  · exact Linked.setCarrier (Linked.note (h.congr rfl rfl rfl rfl rfl)) fun _ => hk

theorem Linked.stepCarrier (h : Linked s) (hs : Scheduled [.carrier k] s) (hc : Correlated handled s)
    (he : s.Entered k) : Linked (s.stepCarrier k) := by
  have hready := hs.isReady (List.mem_singleton.mpr rfl)
  have hid : (s.call k).id ≠ none := hc.id_of_carrier fun hx => by
    simp [Call.isReady, hx, Carrier.isReady] at hready
  have hunfinished := not_isFinished_of_isReady hready
  unfold Session.stepCarrier
  simp only
  generalize hs' : s.updateCall k (fun c => { c with carrierCancelled := false }) = s'
  have h' : Linked s' := by
    rw [← hs']
    exact h.updateCall rfl fun hw hf => ⟨hw, hf⟩
  have hc' : Correlated handled s' := by
    rw [← hs']
    exact hc.keep fun _ => ⟨rfl, rfl, rfl, rfl, rfl⟩
  have hcall : s'.call k = { s.call k with carrierCancelled := false } := by
    rw [← hs', call_updateCall_self (lt_of_id hid)]
  have hid' : (s'.call k).id ≠ none := by rwa [hcall]
  have hunfinished' : (s'.call k).carrier.isFinished = false := by rwa [hcall]
  -- a carrier that waits for a response does not send any more
  have hwork (hx : (s.call k).carrier ≠ .awaiting) : Working handled k s' := by
    refine ⟨h', ?_, hc', hid', by rwa [hcall]⟩
    rw [← hs']
    exact hs.updateCall fun _ => ⟨rfl, rfl, rfl⟩
  have halone (ha : s.Alone k) : s'.Alone k := fun j hj => by
    rw [← hs', call_updateCall_ne hj]
    exact ha j hj
  have hsocket : s'.socket = s.socket := by rw [← hs']; rfl
  split
  · rename_i hx
    split
    · exact h'.finishCarrier
    · split
      · exact h'.post hunfinished'
      · exact (hwork (by simp [hx])).takeTurn
  · rename_i turn hx
    refine (hwork (by simp [hx])).endQueueing fun hcancelled => halone (he.turn ?_).2
    cases turn <;> simp_all [Call.isReady, Carrier.isReady, Carrier.hasTurn, Promise.isPending,
      Promise.isWithdrawn]
  · rename_i hx
    obtain ⟨hnone, ha⟩ := he.connecting (by simp [hx, Carrier.isConnecting])
    split
    · exact (hwork (by simp [hx])).connected (halone ha) (hsocket.trans hnone)
    · exact h'.notConnected
    · exact h'.unlock.finishCarrier
  · split
    · exact h'.finishCarrier
    · exact h'.finishCarrier
  · split
    · exact h'.awaitResponse hunfinished'
    · exact h'.sendFailed hc' hid'
    · exact h'.finishCarrier
  · split
    · exact h'.finishCarrier
    · exact h'.finishCarrier
  · exact h'
  · exact h'

-- ---------------------------------------------------------------------------
-- Guards
-- ---------------------------------------------------------------------------

theorem Linked.finishGuard (h : Linked s) : Linked (s.finishGuard k o) :=
  h.setGuard.enqueue

theorem Linked.wakeGuard (h : Linked s) : Linked (s.wakeGuard k g) :=
  h.setGuard.enqueue

theorem Linked.stop (h : Linked s) : Linked (s.stop k timedOut) :=
  h.setGuard.cancelCarrier

theorem Linked.number (h : Linked s) : Linked (s.number k) := by
  have hset : Linked (s.updateCall k fun c =>
      { c with id := some s.nextId, guard := .waiting .pending }) :=
    h.updateCall rfl fun hw hf => ⟨hw, hf⟩
  exact hset.congr rfl rfl rfl rfl rfl

theorem Linked.startCarrier (h : Linked s) (hx : (s.call k).carrier.isFinished = false) :
    Linked (s.startCarrier k) :=
  h.wakeCarrier hx

theorem carrier_number : ((s.number k).call j).carrier = (s.call j).carrier := by
  rw [call_number]
  split
  · rename_i hj
    rw [hj.1]
  · rfl

theorem Linked.startCall (h : Linked s) (hx : (s.call k).carrier = .absent) :
    Linked (s.startCall k) := by
  have hcarrier : ((s.number k).call k).carrier.isFinished = false := by
    rw [carrier_number, hx]
    rfl
  unfold Session.startCall
  split
  · exact h.finishGuard
  · split
    · exact h.finishGuard
    · simp only
      split
      · exact h.number.finishGuard
      · exact (h.number.startCarrier hcarrier).stop
      · exact Linked.startCarrier (h.number.congr rfl rfl rfl rfl rfl) hcarrier

theorem Linked.timeOut (h : Linked s) (hc : Correlated handled s)
    (hx : (s.call k).carrier.isFinished) : Linked (s.timeOut k) := by
  have hid : (s.call k).id ≠ none := hc.id_of_carrier fun habsent => by
    simp [habsent, Carrier.isFinished] at hx
  exact (h.forget (fun e he hn => hc.owner hid he hn) fun _ => hx).finishGuard

/-- A guard that goes on because of nothing else was told that the carrier has ended. -/
theorem isReleased_of_isReady {signal : Promise Unit} (h : (Guard.stopping timedOut signal).isReady)
    (hw : signal.isWithdrawn = false) : (Guard.stopping timedOut signal).isReleased := by
  cases signal with
  | pending => cases h
  | kept _ => rfl
  | withdrawn => cases hw

theorem Linked.stepGuard (h : Linked s) (hs : Scheduled [.guard k] s) (hc : Correlated handled s) :
    Linked (s.stepGuard k) := by
  obtain ⟨hlt, hready⟩ := hs.guard_isReady (List.mem_singleton.mpr rfl)
  unfold Session.stepGuard
  simp only
  generalize hs' : s.updateCall k (fun c => { c with guardCancelled := false }) = s'
  have h' : Linked s' := by
    rw [← hs']
    exact h.updateCall rfl fun hw hf => ⟨hw, hf⟩
  have hc' : Correlated handled s' := by
    rw [← hs']
    exact hc.keep fun _ => ⟨rfl, rfl, rfl, rfl, rfl⟩
  have hcarrier : (s'.call k).carrier = (s.call k).carrier := by
    rw [← hs', call_updateCall_self hlt]
  split
  · rename_i hg
    split
    · exact h'.finishGuard
    · exact h'.startCall (by rw [hcarrier, ((hc.call k).begun ((hc.call k).fresh hg)).1])
  · split
    · exact h'.finishGuard
    · exact h'.stop
  · rename_i timedOut signal hg
    split
    · exact h'.finishGuard
    · rename_i hstays
      have hw : signal.isWithdrawn = false := by
        simp only [Bool.or_eq_true, not_or] at hstays
        simpa using hstays.1.2
      have hfinished : (s'.call k).carrier.isFinished := by
        rw [hcarrier]
        rw [hg] at hready
        exact hs.released k (hg ▸ isReleased_of_isReady hready hw)
      split
      · exact h'.timeOut hc' hfinished
      · exact h'.finishGuard
      · exact h'.timeOut hc' hfinished
  · exact h'

theorem Linked.releaseGuard (h : Linked s) : Linked (s.releaseGuard k) := by
  unfold Session.releaseGuard
  split
  · exact h.wakeGuard
  · exact h.wakeGuard
  · exact h

theorem Linked.ringAlarm (h : Linked s) : Linked (s.ringAlarm k) := by
  unfold Session.ringAlarm
  split
  · exact h.wakeGuard
  · exact h

theorem Linked.cancel (h : Linked s) : Linked (s.cancel k).1 := by
  unfold Session.cancel
  split
  · exact h
  · exact h.wakeGuard
  · exact h.wakeGuard
  · exact h.updateCall rfl fun hw hf => ⟨hw, hf⟩

end Farcall.Session
