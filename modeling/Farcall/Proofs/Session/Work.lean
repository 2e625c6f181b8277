import Farcall.Proofs.Session.Schedule

/-!
# Work keeps to the schedule

Each job ends with its own carrier, guard or reader waiting or ended, and with a job for whoever can
go on because of it.
-/

namespace Farcall.Session

variable {s t : Session} {active : List Job}

-- ---------------------------------------------------------------------------
-- Carriers at work
-- ---------------------------------------------------------------------------

theorem carrier_passTurn (hx : (s.call k).carrier ≠ .awaiting) :
    (s.passTurn.call k).carrier ≠ .awaiting := by
  unfold Session.passTurn
  split
  · exact hx
  · split
    · rename_i j _ _ _ _
      show ((s.setCarrier j _).call k).carrier ≠ _
      unfold Session.setCarrier
      rw [call_updateCall]
      split
      · simp
      · exact hx
    · exact hx

/-- A carrier at work does not look at the response before it waits for it. -/
theorem Scheduled.updateResponse (h : Scheduled [.carrier k] s)
    (hx : (s.call k).carrier ≠ .awaiting) :
    Scheduled [.carrier k] (s.updateCall k fun c => { c with response := p }) := by
  have hk := lt_of_isReady (h.isReady (List.mem_singleton.mpr rfl))
  refine h.keep (k := k) (c := { s.call k with response := p }) (fun j => ?_)
    ⟨length_updateCall, rfl, rfl, rfl⟩ rfl ?_ rfl rfl
  · simp [call_updateCall, hk]
  · cases hc : (s.call k).carrier <;> simp_all [Call.isReady, Carrier.isReady]

theorem Scheduled.register (h : Scheduled [.carrier k] s) (hx : (s.call k).carrier ≠ .awaiting) :
    Scheduled [.carrier k] (s.register k l) := by
  have hlink : Scheduled [.carrier k] (s.updateCall k fun x => { x with link := some l }) :=
    h.updateCall fun _ => ⟨rfl, rfl, rfl⟩
  have hx' : ((s.updateCall k fun x => { x with link := some l }).call k).carrier ≠ .awaiting := by
    rw [call_updateCall]
    split <;> exact hx
  unfold Session.register Session.addPending
  split
  · exact (hlink.updateResponse hx').congr rfl rfl rfl rfl rfl
  · exact hlink

theorem Scheduled.awaitResponse (h : Scheduled [.carrier k] s) :
    Scheduled [] (s.awaitResponse k) := by
  unfold Session.awaitResponse
  split
  · exact h.finishCarrier
  · rename_i hp
    exact h.setCarrier (by simp [Carrier.isReady, hp]) fun hc => by cases hc
  · exact h.finishCarrier
  · exact h.finishCarrier

theorem Scheduled.sendFailed (h : Scheduled [.carrier k] s) : Scheduled [] (s.sendFailed k f) := by
  unfold Session.sendFailed
  simp only
  split
  · exact finishCarrier (h.congr rfl rfl rfl rfl rfl)
  · exact h.finishCarrier

theorem Scheduled.transmit (h : Scheduled [.carrier k] s) : Scheduled [] (s.transmit k l) := by
  unfold Session.transmit
  simp only
  split
  · exact h.finishCarrier
  · split
    · exact h.sendFailed
    · split
      · exact h.note.setCarrier rfl fun hc => by cases hc
      · exact h.note.awaitResponse

theorem Scheduled.send (h : Scheduled [.carrier k] s) (hx : (s.call k).carrier ≠ .awaiting) :
    Scheduled [] (s.send k l) :=
  (h.register hx).transmit

theorem Scheduled.openConnection (h : Scheduled [.carrier k] s) (ha : s.Alone k) :
    Scheduled [.carrier k] s.openConnection := by
  have hopened := h.of_alone (t := { s with
    connections := s.connections ++ [Connection.opened]
    socket := some s.connections.length
    reader := some s.connections.length }) ha rfl rfl
  exact hopened.enqueue (fun _ => ⟨rfl, rfl⟩) fun _ hj => by cases hj

theorem Scheduled.connected (h : Scheduled [.carrier k] s) (ha : s.Alone k)
    (hx : (s.call k).carrier ≠ .awaiting) : Scheduled [] (s.connected k) :=
  ((h.openConnection ha).unlock ha).send (carrier_passTurn hx)

theorem Scheduled.notConnected (h : Scheduled [.carrier k] s) (ha : s.Alone k) :
    Scheduled [] (s.notConnected k f) :=
  (h.unlock ha).finishCarrier

theorem Scheduled.connect (h : Scheduled [.carrier k] s) (ha : s.Alone k)
    (hx : (s.call k).carrier ≠ .awaiting) (hlocked : s.locked = true) (hsocket : s.socket = none) :
    Scheduled [] (s.connect k) := by
  unfold Session.connect
  simp only
  split
  · exact Scheduled.connected (note (h.congr rfl rfl rfl rfl rfl)) ha hx
  · exact Scheduled.setCarrier (note (h.congr rfl rfl rfl rfl rfl)) rfl fun _ =>
      ⟨hlocked, hsocket, ha⟩
  · exact Scheduled.notConnected (note (h.congr rfl rfl rfl rfl rfl)) ha

theorem Scheduled.useSocket (h : Scheduled [.carrier k] s) (ha : s.Alone k)
    (hx : (s.call k).carrier ≠ .awaiting) : Scheduled [] (s.useSocket k) := by
  have hlocked : Scheduled [.carrier k] { s with locked := true } := h.of_alone ha rfl rfl
  unfold Session.useSocket
  simp only
  split
  · exact (hlocked.unlock ha).send (carrier_passTurn hx)
  · rename_i hsocket
    exact hlocked.connect ha hx rfl hsocket

theorem Scheduled.takeTurn (h : Scheduled [.carrier k] s) (hx : (s.call k).carrier ≠ .awaiting) :
    Scheduled [] (s.takeTurn k) := by
  unfold Session.takeTurn
  split
  · rename_i hfree
    simp only [Bool.and_eq_true, Bool.not_eq_eq_eq_not, Bool.not_true] at hfree
    exact h.useSocket (h.alone hfree.1 hfree.2) hx
  · refine (h.requeue fun j _ hj => ?_).setCarrier rfl fun hc => by cases hc
    obtain ⟨rest, hrest⟩ := List.head?_eq_some_iff.mp hj
    simp [hrest]

/-- What a carrier at work knows of the lock when it goes on. -/
structure Entered (s : Session) (k : Nat) : Prop where
  turn : (s.call k).carrier.hasTurn → s.locked = false ∧ s.Alone k
  connecting : (s.call k).carrier.isConnecting → s.socket = none ∧ s.Alone k

theorem Scheduled.endQueueing (h : Scheduled [.carrier k] s) (hturn : cancelled = false → s.Alone k)
    (hx : (s.call k).carrier ≠ .awaiting) : Scheduled [] (s.endQueueing k cancelled) := by
  have hleft : Scheduled [.carrier k] { s with queue := s.queue.erase k } := by
    refine h.requeue fun j hj hhead => ?_
    obtain ⟨rest, hrest⟩ := List.head?_eq_some_iff.mp hhead
    simp [hrest, hj]
  unfold Session.endQueueing
  simp only
  split
  · split
    · exact hleft.finishCarrier
    · rename_i hlocked
      exact (hleft.passTurn (by simpa using hlocked)).finishCarrier
  · rename_i hc
    exact hleft.useSocket (hturn (by simpa using hc)) hx

theorem Scheduled.post (h : Scheduled [.carrier k] s) : Scheduled [] (s.post k) := by
  unfold Session.post
  simp only
  split
  · exact finishCarrier (h.congr rfl rfl rfl rfl rfl)
  · exact Scheduled.setCarrier (note (h.congr rfl rfl rfl rfl rfl)) rfl fun hc => by cases hc

theorem Scheduled.stepCarrier (h : Scheduled [.carrier k] s) (he : s.Entered k) :
    Scheduled [] (s.stepCarrier k) := by
  have hready := h.isReady (List.mem_singleton.mpr rfl)
  unfold Session.stepCarrier
  simp only
  generalize hs' : s.updateCall k (fun c => { c with carrierCancelled := false }) = s'
  have h' : Scheduled [.carrier k] s' := by
    rw [← hs']
    exact h.updateCall fun _ => ⟨rfl, rfl, rfl⟩
  have hcarrier (j : Nat) : (s'.call j).carrier = (s.call j).carrier := by
    rw [← hs', call_updateCall]
    split
    · rename_i hj
      rw [hj.1]
    · rfl
  have halone (ha : s.Alone k) : s'.Alone k := fun j hj => by
    rw [hcarrier]
    exact ha j hj
  split
  · rename_i hx
    split
    · exact h'.finishCarrier
    · split
      · exact h'.post
      · exact h'.takeTurn (by simp [hcarrier, hx])
  · rename_i turn hx
    refine h'.endQueueing (fun hc => halone (he.turn ?_).2) (by simp [hcarrier, hx])
    cases turn <;> simp_all [Call.isReady, Carrier.isReady, Carrier.hasTurn, Promise.isPending,
      Promise.isWithdrawn]
  · rename_i hx
    have ha := halone (he.connecting (by simp [hx, Carrier.isConnecting])).2
    split
    · exact h'.connected ha (by simp [hcarrier, hx])
    · exact h'.notConnected ha
    · exact (h'.unlock ha).finishCarrier
  · split
    · exact h'.finishCarrier
    · exact h'.finishCarrier
  · split
    · exact h'.awaitResponse
    · exact h'.sendFailed
    · exact h'.finishCarrier
  · split
    · exact h'.finishCarrier
    · exact h'.finishCarrier
  · rename_i hx
    simp [Call.isReady, hx, Carrier.isReady] at hready
  · rename_i hx
    simp [Call.isReady, hx, Carrier.isReady] at hready

theorem Scheduled.cancelCarrier (h : Scheduled active s) :
    Scheduled active (s.cancelCarrier k) := by
  unfold Session.cancelCarrier
  split
  · rename_i hx
    exact h.resume (by rw [hx]; rfl) rfl (fun hc => by cases hc) fun hc => by cases hc
  · rename_i hx
    exact h.resume (by rw [hx]; rfl) rfl (fun _ => by rw [hx]; rfl) fun hc => by cases hc
  · rename_i hx
    exact h.resume (by rw [hx]; rfl) rfl (fun hc => by cases hc) fun hc => by cases hc
  · rename_i hx
    exact h.resume (by rw [hx]; rfl) rfl (fun hc => by cases hc) fun hc => by cases hc
  · exact h
  · exact h
  · split
    · rename_i hp
      exact h.setResponse hp rfl
    · exact h.updateCall fun _ => ⟨rfl, rfl, rfl⟩

-- ---------------------------------------------------------------------------
-- Guards
-- ---------------------------------------------------------------------------

theorem isReady_of_isReleased {g : Guard} (h : g.isReleased) : g.isReady := by
  unfold Guard.isReleased at h
  split at h
  · rfl
  · cases h

/-- The guard that is at work, or one that waits anyhow, waits or ends. -/
theorem Scheduled.restGuard {c : Call} (h : Scheduled active s)
    (hactive : active = [.guard k] ∨ active = [] ∧ (s.call k).guard.isReady = false)
    (hcall : ∀ j, t.call j = if j = k then c else s.call j)
    (hsame : t.calls.length = s.calls.length ∧ t.locked = s.locked ∧ t.queue = s.queue ∧
      t.socket = s.socket) (hjobs : t.ready = s.ready) (hready : c.isReady = (s.call k).isReady)
    (hcarrier : c.carrier = (s.call k).carrier) (hguard : c.guard.isReady = false) :
    Scheduled [] t := by
  have hcarriers (j : Nat) : active.countP (Job.isCarrier j) = 0 := by
    rcases hactive with rfl | ⟨rfl, -⟩ <;> rfl
  have hnone (j : Nat) : Job.carrier j ∉ active := by
    rcases hactive with rfl | ⟨rfl, -⟩ <;> simp
  refine h.change hcall hsame (fun j _ _ => hnone j) ?_ ?_ ?_ ?_ ?_ ?_ ?_
  · intro j
    have hold := h.carriers j
    rw [List.countP_append, hcarriers, Nat.zero_add] at hold
    rw [List.nil_append, hjobs, List.countP_append, hcarriers, Nat.zero_add, hold, hready]
    by_cases hj : j = k
    · simp [hj]
    · simp [hj]
  · intro j
    have hold := h.guards j
    rw [List.nil_append, hjobs]
    rcases hactive with rfl | ⟨rfl, hwaits⟩
    · simp only [List.singleton_append, List.countP_cons, Job.isGuard] at hold ⊢
      by_cases hj : j = k
      · subst hj
        obtain ⟨hlt, hg⟩ := h.guard_isReady (List.mem_singleton.mpr rfl)
        simpa [hlt, hg, hguard] using hold
      · simp [hj, Ne.symm hj]
    · by_cases hj : j = k
      · subst hj
        simpa [hwaits, hguard] using hold
      · simp [hj]
  · intro j hj
    rw [hjobs] at hj
    exact List.mem_append_right _ hj
  · rw [hcarrier]
    exact id
  · intro hg
    simp [isReady_of_isReleased hg] at hguard
  · intro hk hc
    rw [hcarrier] at hc
    obtain ⟨hlocked, hsocket, hother⟩ := h.only_connecting (hnone k) hc
    exact ⟨hlocked, hsocket, fun j hj _ => hother j hj (hnone j)⟩
  · intro hk hc
    rw [hcarrier] at hc
    exact h.turn k (hnone k) hc

theorem lt_of_guard (h : (s.call k).guard.isReady = false) : k < s.calls.length :=
  Nat.lt_of_not_le fun hk => by
    rw [call_of_length_le hk] at h
    cases h

theorem Scheduled.lt_of_atGuard (h : Scheduled active s)
    (hactive : active = [.guard k] ∨ active = [] ∧ (s.call k).guard.isReady = false) :
    k < s.calls.length := by
  rcases hactive with rfl | ⟨-, hwaits⟩
  · exact (h.guard_isReady (List.mem_singleton.mpr rfl)).1
  · exact lt_of_guard hwaits

theorem Scheduled.setGuard (h : Scheduled active s)
    (hactive : active = [.guard k] ∨ active = [] ∧ (s.call k).guard.isReady = false)
    (hg : g.isReady = false) : Scheduled [] (s.setGuard k g) :=
  h.restGuard hactive (fun _ => call_setGuard (h.lt_of_atGuard hactive))
    ⟨length_updateCall, rfl, rfl, rfl⟩ rfl rfl rfl hg

theorem Scheduled.finishGuard (h : Scheduled active s)
    (hactive : active = [.guard k] ∨ active = [] ∧ (s.call k).guard.isReady = false) :
    Scheduled [] (s.finishGuard k o) :=
  (h.setGuard hactive rfl).enqueue (fun _ => ⟨rfl, rfl⟩) fun _ hj => by cases hj

theorem Scheduled.stop (h : Scheduled active s)
    (hactive : active = [.guard k] ∨ active = [] ∧ (s.call k).guard.isReady = false) :
    Scheduled [] (s.stop k timedOut) :=
  (h.setGuard hactive rfl).cancelCarrier

theorem Scheduled.number (h : Scheduled [.guard k] s) : Scheduled [] (s.number k) := by
  have hlt := (h.guard_isReady (List.mem_singleton.mpr rfl)).1
  refine h.restGuard (c := { s.call k with id := some s.nextId, guard := .waiting .pending }) (.inl rfl)
    (fun j => ?_) ⟨length_updateCall, rfl, rfl, rfl⟩ rfl rfl rfl rfl
  simp [call_number, hlt]

theorem Scheduled.startCarrier (h : Scheduled active s) (hlt : k < s.calls.length)
    (hx : (s.call k).carrier = .absent) : Scheduled active (s.startCarrier k) :=
  h.wakeCarrier hlt (by simp [Call.isReady, hx]; rfl) (by simp [hx, Carrier.isFinished]) rfl
    (fun hc => by cases hc) fun hc => by cases hc

theorem Scheduled.startCall (h : Scheduled [.guard k] s) (hx : (s.call k).carrier = .absent) :
    Scheduled [] (s.startCall k) := by
  have hlt := (h.guard_isReady (List.mem_singleton.mpr rfl)).1
  have hcall : (s.number k).call k =
      { s.call k with id := some s.nextId, guard := .waiting .pending } := by
    simp [call_number, hlt]
  have hlt' : k < (s.number k).calls.length := by
    simpa [Session.number] using hlt
  unfold Session.startCall
  split
  · exact h.finishGuard (.inl rfl)
  · split
    · exact h.finishGuard (.inl rfl)
    · have hn := h.number
      simp only
      split
      · exact hn.finishGuard (.inr ⟨rfl, by simp [hcall, Guard.isReady, Promise.isPending]⟩)
      · refine (hn.startCarrier hlt' (by simp [hcall, hx])).stop (.inr ⟨rfl, ?_⟩)
        show (((s.number k).setCarrier k .fresh).call k).guard.isReady = false
        simp [call_setCarrier hlt', hcall, Guard.isReady, Promise.isPending]
      · exact Scheduled.startCarrier (hn.congr rfl rfl rfl rfl rfl) hlt' (by
          show ((s.number k).call k).carrier = .absent
          simp [hcall, hx])

theorem Scheduled.timeOut (h : Scheduled [.guard k] s) : Scheduled [] (s.timeOut k) :=
  Scheduled.finishGuard (h.congr rfl rfl rfl rfl rfl) (.inl rfl)

theorem Scheduled.stepGuard (h : Scheduled [.guard k] s)
    (hfresh : (s.call k).guard = .fresh → (s.call k).carrier = .absent) :
    Scheduled [] (s.stepGuard k) := by
  obtain ⟨hlt, hready⟩ := h.guard_isReady (List.mem_singleton.mpr rfl)
  unfold Session.stepGuard
  simp only
  generalize hs' : s.updateCall k (fun c => { c with guardCancelled := false }) = s'
  have h' : Scheduled [.guard k] s' := by
    rw [← hs']
    exact h.updateCall fun _ => ⟨rfl, rfl, rfl⟩
  have hcarrier : (s'.call k).carrier = (s.call k).carrier := by
    rw [← hs', call_updateCall_self hlt]
  split
  · rename_i hg
    split
    · exact h'.finishGuard (.inl rfl)
    · exact h'.startCall (by rw [hcarrier, hfresh hg])
  · split
    · exact h'.finishGuard (.inl rfl)
    · exact h'.stop (.inl rfl)
  · split
    · exact h'.finishGuard (.inl rfl)
    · split
      · exact h'.timeOut
      · exact h'.finishGuard (.inl rfl)
      · exact h'.timeOut
  · rename_i hg
    simp [hg, Guard.isReady] at hready

theorem Scheduled.wakeGuard (h : Scheduled active s) (hwaits : (s.call k).guard.isReady = false)
    (hready : g.isReady = true) (hreleased : g.isReleased → (s.call k).carrier.isFinished) :
    Scheduled active (s.wakeGuard k g) := by
  have hlt := lt_of_guard hwaits
  refine h.change (k := k) (fun _ => call_setGuard hlt) ⟨length_updateCall, rfl, rfl, rfl⟩
    (fun _ _ hj => hj) ?_ ?_ ?_ id hreleased ?_ ?_
  · intro j
    have hold := h.carriers j
    show (active ++ ((s.setGuard k g).enqueue (.guard k)).ready).countP (Job.isCarrier j) = _
    rw [ready_enqueue, ← List.append_assoc, List.countP_append]
    by_cases hj : j = k
    · subst hj
      simp only [ready_setGuard, hold, if_true]
      rfl
    · simp [hj, Job.isCarrier]
  · intro j
    have hold := h.guards j
    show (active ++ ((s.setGuard k g).enqueue (.guard k)).ready).countP (Job.isGuard j) = _
    rw [ready_enqueue, ← List.append_assoc, List.countP_append]
    by_cases hj : j = k
    · subst hj
      simp only [ready_setGuard, hold, hwaits, hready, hlt, if_true, and_true]
      simp [Job.isGuard]
    · simp [hj, Ne.symm hj, Job.isGuard]
  · intro j hj
    change _ ∈ active ++ ((s.setGuard k g).enqueue (.guard k)).ready at hj
    simpa using hj
  · exact fun hk hc => h.only_connecting hk hc
  · exact fun hk hc => h.turn k hk hc

theorem Scheduled.done (h : Scheduled [j] s) (hcarrier : ∀ k, j.isCarrier k = false)
    (hguard : ∀ k, j.isGuard k = false) : Scheduled [] s where
  carriers k := by simpa [hcarrier] using h.carriers k
  guards k := by simpa [hguard] using h.guards k
  releases k hk := h.releases k (List.mem_append_right _ hk)
  released := h.released
  connecting k _ := h.connecting k fun hk => by
    simp [← List.mem_singleton.mp hk, Job.isCarrier] at hcarrier
  oneConnecting i k _ _ := h.oneConnecting i k
    (fun hi => by simp [← List.mem_singleton.mp hi, Job.isCarrier] at hcarrier)
    fun hk => by simp [← List.mem_singleton.mp hk, Job.isCarrier] at hcarrier
  turn k _ := h.turn k fun hk => by simp [← List.mem_singleton.mp hk, Job.isCarrier] at hcarrier

theorem Scheduled.releaseGuard (h : Scheduled [.release k] s) :
    Scheduled [] (s.releaseGuard k) := by
  have hfinished := h.releases k (List.mem_cons_self)
  have h' := h.done (fun _ => rfl) (fun _ => rfl)
  unfold Session.releaseGuard
  split
  · rename_i hg
    exact h'.wakeGuard (by simp [hg, Guard.isReady, Promise.isPending]) rfl fun _ => hfinished
  · rename_i hg
    exact h'.wakeGuard (by simp [hg, Guard.isReady, Promise.isPending]) rfl fun _ => hfinished
  · exact h'

theorem Scheduled.ringAlarm (h : Scheduled active s) : Scheduled active (s.ringAlarm k) := by
  unfold Session.ringAlarm
  split
  · rename_i hg
    exact h.wakeGuard (by simp [hg, Guard.isReady, Promise.isPending]) rfl fun hc => by cases hc
  · exact h

theorem Scheduled.cancel (h : Scheduled active s) : Scheduled active (s.cancel k).1 := by
  unfold Session.cancel
  split
  · exact h
  · rename_i hg
    exact h.wakeGuard (by simp [hg, Guard.isReady, Promise.isPending]) rfl fun hc => by cases hc
  · rename_i hg
    exact h.wakeGuard (by simp [hg, Guard.isReady, Promise.isPending]) rfl fun hc => by cases hc
  · exact h.updateCall fun _ => ⟨rfl, rfl, rfl⟩

-- ---------------------------------------------------------------------------
-- Readers and closing
-- ---------------------------------------------------------------------------

theorem Scheduled.releaseSocket (h : Scheduled active s) :
    Scheduled active { s with socket := none } :=
  { h with connecting := fun k hk hc => ⟨(h.connecting k hk hc).1, rfl⟩ }

theorem Scheduled.release (h : Scheduled active s) : Scheduled active (s.release l) := by
  unfold Session.release
  split
  · exact h.releaseSocket
  · exact h

theorem Scheduled.notify (h : Scheduled active s) : Scheduled active (s.notify name data) := by
  unfold Session.notify
  split
  · exact h
  · exact h.note
  · exact h.note.note
  · split
    · exact h.enqueue (fun _ => ⟨rfl, rfl⟩) fun _ hj => by cases hj
    · exact h

theorem Scheduled.handle (h : Scheduled active s) (f : Frame) : Scheduled active (s.handle f) := by
  unfold Session.handle
  split
  · exact h
  · exact h.note
  · split
    · exact Scheduled.respond (h.congr rfl rfl rfl rfl rfl)
    · split
      · exact h.notify
      · exact h

theorem Scheduled.handleAll (h : Scheduled active s) (fs : List Frame) :
    Scheduled active (fs.foldl Session.handle s) := by
  induction fs generalizing s with
  | nil => exact h
  | cons f fs ih => exact ih (h.handle f)

theorem Scheduled.endReader (h : Scheduled active s) : Scheduled active (s.endReader l f) := by
  have hended : Scheduled active (s.updateConnection l fun x =>
      { x with reader := .finished f, readerCancelled := false }) := h.congr rfl rfl rfl rfl rfl
  unfold Session.endReader
  simp only
  split
  · exact hended.enqueue (fun _ => ⟨rfl, rfl⟩) fun _ hj => by cases hj
  · exact hended

theorem Scheduled.connectionEnded (h : Scheduled active s) :
    Scheduled active (s.connectionEnded l f) := by
  unfold Session.connectionEnded
  simp only
  split
  · exact h.release.failPending.endReader
  · split
    · exact h.release.failPending.endReader
    · exact h.release.failPending.endReader

theorem Scheduled.wakeReader (h : Scheduled active s) : Scheduled active (s.wakeReader l) := by
  unfold Session.wakeReader
  split
  · exact Scheduled.enqueue (h.congr rfl rfl rfl rfl rfl) (fun _ => ⟨rfl, rfl⟩)
      fun _ hj => by cases hj
  · exact h

theorem Scheduled.stepReader (h : Scheduled active s) : Scheduled active (s.stepReader l) := by
  unfold Session.stepReader
  simp only
  split
  · exact h
  · split
    · split
      · exact h.endReader
      · exact h.release.failPending.endReader
    · have hemptied : Scheduled active (s.emptied l) := h.congr rfl rfl rfl rfl rfl
      have hall := hemptied.handleAll (s.connection l).inbox
      split
      · exact hall.connectionEnded
      · exact hall

theorem Scheduled.endClosing (h : Scheduled active s) : Scheduled active (s.endClosing f) :=
  h.failPending.congr rfl rfl rfl rfl rfl

theorem Scheduled.finishClosing (h : Scheduled active s) :
    Scheduled active (s.finishClosing held) := by
  unfold Session.finishClosing
  split
  · exact h.endClosing
  · simp only
    split
    · exact h.note.endClosing
    · split
      · exact h.congr rfl rfl rfl rfl rfl
      · exact h.note.endClosing

theorem Scheduled.stepClosing (h : Scheduled active s) : Scheduled active s.stepClosing := by
  unfold Session.stepClosing
  split
  · split
    · exact h.note.finishClosing
    · exact h.finishClosing
  · exact h.endClosing
  · exact h

theorem Scheduled.close (h : Scheduled active s) : Scheduled active s.close := by
  unfold Session.close
  split
  · exact h
  · have hclosed : Scheduled active
        { s with closed := true, httpOpen := false, reader := none, socket := none } :=
      h.releaseSocket.congr rfl rfl rfl rfl rfl
    simp only
    split
    · exact hclosed.finishClosing
    · split
      · exact hclosed.note.finishClosing
      · exact hclosed.finishClosing
      · exact wakeReader (hclosed.congr rfl rfl rfl rfl rfl)

-- ---------------------------------------------------------------------------
-- Moves
-- ---------------------------------------------------------------------------

theorem Scheduled.perform (h : Scheduled [j] s) (he : ∀ k, j = .carrier k → s.Entered k)
    (hfresh : ∀ k, (s.call k).guard = .fresh → (s.call k).carrier = .absent) :
    Scheduled [] (s.perform j) := by
  cases j with
  | guard k => exact h.stepGuard (hfresh k)
  | carrier k => exact h.stepCarrier (he k rfl)
  | release k => exact h.releaseGuard
  | alarm k => exact (h.done (fun _ => rfl) fun _ => rfl).ringAlarm
  | report k =>
    have h' := h.done (fun _ => rfl) fun _ => rfl
    unfold Session.perform Session.reportCall
    simp only
    split
    · exact h'.note
    · exact h'
  | reader l => exact (h.done (fun _ => rfl) fun _ => rfl).stepReader
  | closing => exact (h.done (fun _ => rfl) fun _ => rfl).stepClosing
  | deliver event data => exact (h.done (fun _ => rfl) fun _ => rfl).note

/-- A job that is taken is being done, and its carrier finds the lock as it should be. -/
theorem Scheduled.takeJob (h : Scheduled [] s) (hj : s.takeJob = some (j, t)) :
    Scheduled [j] t ∧ ∀ k, t.Entered k := by
  unfold Session.takeJob at hj
  split at hj
  · rename_i j' rest hjobs
    cases hj
    have hready : [] ++ s.ready = [j] ++ ({ s with jobs := rest } : Session).ready := by
      simp [ready, hjobs]
    have hnone (k : Nat) : Job.carrier k ∉ ([] : List Job) := List.not_mem_nil
    refine ⟨?_, fun k => ⟨fun hk => ?_, fun hk => ?_⟩⟩
    · exact
        { carriers := fun k => hready ▸ h.carriers k
          guards := fun k => hready ▸ h.guards k
          releases := fun k hk => h.releases k (hready ▸ hk)
          released := h.released
          connecting := fun k _ => h.connecting k (hnone k)
          oneConnecting := fun i k _ _ => h.oneConnecting i k (hnone i) (hnone k)
          turn := fun k _ => h.turn k (hnone k) }
    · obtain ⟨hlocked, hhead⟩ := h.turn k (hnone k) hk
      refine ⟨hlocked, fun i hi => ⟨Bool.eq_false_iff.mpr fun hc => ?_,
        Bool.eq_false_iff.mpr fun hc => ?_⟩⟩
      · have hbusy := (h.connecting i (hnone i) hc).1
        rw [show s.locked = false from hlocked] at hbusy
        cases hbusy
      · have hhead' := (h.turn i (hnone i) hc).2
        rw [hhead] at hhead'
        exact hi (Option.some.inj hhead').symm
    · obtain ⟨hlocked, hsocket, hother⟩ := h.only_connecting (hnone k) hk
      refine ⟨hsocket, fun i hi => ⟨hother i hi (hnone i), Bool.eq_false_iff.mpr fun hc => ?_⟩⟩
      have hfree := (h.turn i (hnone i) hc).1
      rw [hlocked] at hfree
      cases hfree
  · cases hj

theorem Scheduled.beginRound (h : Scheduled [] s) (hjobs : s.jobs = []) :
    Scheduled [] s.beginRound := by
  refine h.addJobs (s.beginRound.jobs.drop s.upcoming.length) rfl ?_ rfl rfl rfl ?_ ?_
  · simp [Session.beginRound, ready, hjobs]
  · intro j hj k
    simp only [Session.beginRound, List.drop_left] at hj
    obtain ⟨a, -, rfl⟩ := List.mem_map.mp hj
    exact ⟨rfl, rfl⟩
  · intro k hk
    simp only [Session.beginRound, List.drop_left] at hk
    obtain ⟨a, -, ha⟩ := List.mem_map.mp hk
    cases ha

theorem Scheduled.next (h : Scheduled [] s) (hj : s.next = some (j, t)) :
    Scheduled [j] t ∧ ∀ k, t.Entered k := by
  unfold Session.next at hj
  rcases Option.or_eq_some_iff.mp hj with hj | ⟨hnone, hj⟩
  · exact h.takeJob hj
  · refine (h.beginRound ?_).takeJob hj
    unfold Session.takeJob at hnone
    split at hnone
    · cases hnone
    · assumption

theorem Scheduled.begin (h : Scheduled [] s) : Scheduled [] (s.begin r callback) := by
  have hnew : s.call s.calls.length = default := call_of_length_le (Nat.le_refl _)
  have hready : (s.begin r callback).ready = s.ready ++ [.guard s.calls.length] := ready_enqueue
  have hlength : (s.begin r callback).calls.length = s.calls.length + 1 := List.length_append
  constructor
  · intro k
    have hold := h.carriers k
    rw [List.nil_append] at hold
    rw [List.nil_append, hready, List.countP_append, hold, call_begin]
    by_cases hk : k = s.calls.length
    · subst hk
      rw [hnew, if_pos rfl]
      rfl
    · simp [hk, Job.isCarrier]
  · intro k
    have hold := h.guards k
    rw [List.nil_append] at hold
    rw [List.nil_append, hready, List.countP_append, hold, call_begin, hlength]
    by_cases hk : k = s.calls.length
    · subst hk
      simp [Job.isGuard, Call.made, Guard.isReady]
    · have hlt : k < s.calls.length + 1 ↔ k < s.calls.length := by omega
      simp [hk, Ne.symm hk, Job.isGuard, hlt]
  · intro k hk
    rw [List.nil_append, hready, List.mem_append] at hk
    have hold := h.releases k (hk.resolve_right (by simp))
    rw [call_begin]
    by_cases hk : k = s.calls.length
    · rw [hk, hnew] at hold
      cases hold
    · simpa [hk] using hold
  · intro k hk
    rw [call_begin] at hk ⊢
    split at hk
    · cases hk
    · rename_i hne
      rw [if_neg hne]
      exact h.released k hk
  · intro k hk hc
    rw [call_begin] at hc
    split at hc
    · cases hc
    · exact h.connecting k hk hc
  · intro i k hi hk hci hck
    rw [call_begin] at hci hck
    split at hci
    · cases hci
    · split at hck
      · cases hck
      · exact h.oneConnecting i k hi hk hci hck
  · intro k hk hc
    rw [call_begin] at hc
    split at hc
    · cases hc
    · exact h.turn k hk hc

theorem Scheduled.reply (h : Scheduled active s) : Scheduled active (s.reply r a).1 := by
  unfold Session.reply
  split
  · exact h
  · split
    · rename_i hx
      split
      · exact h.resume (by rw [hx]; rfl) rfl (fun hc => by cases hc) fun hc => by cases hc
      · exact h
    · exact h

theorem Scheduled.settle (h : Scheduled active s) : Scheduled active (s.settle a f).1 := by
  unfold Session.settle
  split
  · exact h
  · split
    · rename_i hx
      split
      · exact h.resume (by rw [hx]; rfl) rfl (fun _ => by rw [hx]; rfl) fun hc => by cases hc
      · exact h
    · exact h

theorem Scheduled.flush (h : Scheduled active s) : Scheduled active (s.flush k f) := by
  unfold Session.flush
  split
  · rename_i hx
    exact h.resume (by rw [hx]; rfl) rfl (fun hc => by cases hc) fun hc => by cases hc
  · exact h

theorem Scheduled.endHangUp (h : Scheduled active s) : Scheduled active (s.endHangUp f) := by
  unfold Session.endHangUp
  split
  · exact Scheduled.enqueue (h.congr rfl rfl rfl rfl rfl) (fun _ => ⟨rfl, rfl⟩)
      fun _ hj => by cases hj
  · exact h

theorem Scheduled.arrive (h : Scheduled active s) : Scheduled active (s.arrive l f) := by
  unfold Session.arrive
  split
  · exact h
  · exact wakeReader (h.congr rfl rfl rfl rfl rfl)

theorem Scheduled.drop (h : Scheduled active s) : Scheduled active (s.drop l f) := by
  unfold Session.drop
  split
  · exact h
  · exact wakeReader (h.congr rfl rfl rfl rfl rfl)

end Farcall.Session
