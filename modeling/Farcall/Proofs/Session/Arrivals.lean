import Farcall.Proofs.Session.Order

/-!
# Notifications on their way

A notification that arrives becomes a job of its own behind all jobs that are there. Nothing takes a
job out of its turn, so notifications are handed over one by one and in the order in which they
arrived, and in no other job is anybody told anything but the end of a call.
-/

namespace Farcall

structure Notice where
  event : String
  data : Value

def Notice.of? (name data : Value) : Option Notice :=
  match name with
  | .str event => some ⟨event, data⟩
  | _ => none

def Job.notice? : Job → Option Notice
  | .deliver event data => some ⟨event, data⟩
  | _ => none

/-- Whether a job tells somebody something: listeners of a notification, or callers of the end of a
call. -/
def Job.isTelling : Job → Bool
  | .deliver _ _ => true
  | .report _ => true
  | _ => false

/-- Whether somebody is told of what has happened: a listener or a caller. -/
def Trace.isTold : Trace → Bool
  | .delivered _ _ => true
  | .reported _ _ _ => true
  | _ => false

namespace Session

/-- The notification that a frame brings: it is no response to a pending call. -/
def notice? (s : Session) (f : Frame) : Option Notice :=
  match f.inbound with
  | .record r =>
    match s.pendingCall? r with
    | some _ => none
    | none => (Value.get? r "name").bind fun name => Notice.of? name (Value.getD r "data")
  | _ => none

/-- Some work adds jobs for the next round, and some of them hand over notifications. No call is made,
nobody is told anything, and what becomes of notifications stays the same. -/
structure Adds (ns : List Notice) (s t : Session) : Prop where
  requests : t.calls.map Call.request = s.calls.map Call.request
  jobs : t.jobs = s.jobs
  upcoming : ∃ js, t.upcoming = s.upcoming ++ js ∧ js.filterMap Job.notice? = ns
  traces : ∃ ts, t.traces = s.traces ++ ts ∧ ∀ x ∈ ts, x.isTold = false
  notices : t.notices = s.notices

variable {s t u : Session} {ns more : List Notice}

theorem adds_congr (hrequests : t.calls.map Call.request = s.calls.map Call.request)
    (hjobs : t.jobs = s.jobs) (hupcoming : t.upcoming = s.upcoming)
    (htraces : t.traces = s.traces) (hnotices : t.notices = s.notices) : Adds [] s t where
  requests := hrequests
  jobs := hjobs
  upcoming := ⟨[], by rw [hupcoming, List.append_nil], rfl⟩
  traces := ⟨[], by rw [htraces, List.append_nil], fun _ hx => (List.not_mem_nil hx).elim⟩
  notices := hnotices

theorem adds_refl : Adds [] s s := adds_congr rfl rfl rfl rfl rfl

theorem Adds.append (h : Adds ns s t) (h' : Adds more t u) : Adds (ns ++ more) s u where
  requests := h'.requests.trans h.requests
  jobs := h'.jobs.trans h.jobs
  upcoming := by
    obtain ⟨js, hjs, hns⟩ := h.upcoming
    obtain ⟨js', hjs', hmore⟩ := h'.upcoming
    exact ⟨js ++ js', by rw [hjs', hjs, List.append_assoc], by rw [List.filterMap_append, hns, hmore]⟩
  traces := by
    obtain ⟨ts, hts, hsilent⟩ := h.traces
    obtain ⟨ts', hts', hsilent'⟩ := h'.traces
    refine ⟨ts ++ ts', by rw [hts', hts, List.append_assoc], fun x hx => ?_⟩
    exact (List.mem_append.mp hx).elim (hsilent x) (hsilent' x)
  notices := h'.notices.trans h.notices

theorem Adds.trans (h : Adds [] s t) (h' : Adds ns t u) : Adds ns s u := h.append h'

-- ---------------------------------------------------------------------------
-- Small changes
-- ---------------------------------------------------------------------------

theorem adds_job (s : Session) (j : Job) : Adds j.notice?.toList s (s.enqueue j) where
  requests := rfl
  jobs := rfl
  upcoming := ⟨[j], rfl, by cases h : j.notice? <;> simp [h]⟩
  traces := ⟨[], (List.append_nil _).symm, fun _ hx => (List.not_mem_nil hx).elim⟩
  notices := rfl

theorem adds_enqueue (h : j.notice? = none) : Adds [] s (s.enqueue j) := by
  simpa [h] using adds_job s j

theorem adds_note (h : x.isTold = false) : Adds [] s (s.note x) where
  requests := rfl
  jobs := rfl
  upcoming := ⟨[], (List.append_nil _).symm, rfl⟩
  traces := ⟨[x], rfl, fun _ hy => List.mem_singleton.mp hy ▸ h⟩
  notices := rfl

theorem requests_updateCall (hf : ∀ c, (f c).request = c.request) :
    (s.updateCall k f).calls.map Call.request = s.calls.map Call.request := by
  refine List.ext_getElem? fun j => ?_
  simp only [updateCall, List.getElem?_map, List.getElem?_modify]
  split <;> cases s.calls[j]? <;> simp [hf]

theorem adds_updateCall (hf : ∀ c, (f c).request = c.request) : Adds [] s (s.updateCall k f) :=
  adds_congr (requests_updateCall hf) rfl rfl rfl rfl

theorem adds_setCarrier : Adds [] s (s.setCarrier k x) := adds_updateCall fun _ => rfl

theorem adds_wakeCarrier : Adds [] s (s.wakeCarrier k x) := adds_setCarrier.trans (adds_enqueue rfl)

theorem adds_setGuard : Adds [] s (s.setGuard k g) := adds_updateCall fun _ => rfl

theorem adds_wakeGuard : Adds [] s (s.wakeGuard k g) := adds_setGuard.trans (adds_enqueue rfl)

theorem adds_updateConnection : Adds [] s (s.updateConnection c f) := adds_congr rfl rfl rfl rfl rfl

-- ---------------------------------------------------------------------------
-- Carriers
-- ---------------------------------------------------------------------------

theorem adds_finishCarrier : Adds [] s (s.finishCarrier k o) := by
  unfold Session.finishCarrier
  simp only
  split
  · exact adds_setCarrier.trans (adds_enqueue rfl)
  · exact adds_setCarrier.trans (adds_enqueue rfl)
  · exact adds_setCarrier

theorem adds_setResponse : Adds [] s (s.setResponse k p) := by
  have hset : Adds [] s (s.updateCall k fun c => { c with response := some p }) :=
    adds_updateCall fun _ => rfl
  unfold Session.setResponse
  simp only
  split
  · exact hset.trans (adds_enqueue rfl)
  · exact hset

theorem adds_respond : Adds [] s (s.respond k r) := by
  unfold Session.respond
  split
  · exact adds_setResponse
  · exact adds_refl

theorem adds_failPending : Adds [] s (s.failPending f) :=
  failPending_induction s f (adds_congr rfl rfl rfl rfl rfl) fun _ _ ht => ht.trans adds_respond

theorem adds_forget : Adds [] s (s.forget n) := adds_congr rfl rfl rfl rfl rfl

theorem adds_passTurn : Adds [] s s.passTurn := by
  unfold Session.passTurn
  split
  · exact adds_refl
  · split
    · exact adds_wakeCarrier
    · exact adds_refl

theorem adds_unlock : Adds [] s s.unlock := by
  have hunlocked : Adds [] s { s with locked := false } := adds_congr rfl rfl rfl rfl rfl
  exact hunlocked.trans adds_passTurn

theorem adds_awaitResponse : Adds [] s (s.awaitResponse k) := by
  unfold Session.awaitResponse
  split
  · exact adds_finishCarrier
  · exact adds_setCarrier
  · exact adds_finishCarrier
  · exact adds_finishCarrier

theorem adds_sendFailed : Adds [] s (s.sendFailed k f) := by
  unfold Session.sendFailed
  simp only
  split
  · exact adds_forget.trans adds_finishCarrier
  · exact adds_finishCarrier

theorem adds_register : Adds [] s (s.register k c) := by
  have hlink : Adds [] s (s.updateCall k fun x => { x with link := some c }) :=
    adds_updateCall fun _ => rfl
  unfold Session.register Session.addPending
  split
  · have hpending {t : Session} {p} : Adds [] t { t.updateCall k fun x => { x with
        response := some .pending } with pending := p } :=
      adds_congr (requests_updateCall fun _ => rfl) rfl rfl rfl rfl
    exact hlink.trans hpending
  · exact hlink

theorem adds_transmit : Adds [] s (s.transmit k c) := by
  unfold Session.transmit
  simp only
  split
  · exact adds_finishCarrier
  · split
    · exact adds_sendFailed
    · have hsent {text} : Adds [] s (s.note (.sent c text)) := adds_note rfl
      split
      · exact hsent.trans adds_setCarrier
      · exact hsent.trans adds_awaitResponse

theorem adds_send : Adds [] s (s.send k c) := adds_register.trans adds_transmit

theorem adds_openConnection : Adds [] s s.openConnection := by
  have hopened : Adds [] s { s with
      connections := s.connections ++ [Connection.opened]
      socket := some s.connections.length
      reader := some s.connections.length } := adds_congr rfl rfl rfl rfl rfl
  exact hopened.trans (adds_enqueue rfl)

theorem adds_connected : Adds [] s (s.connected k) :=
  (adds_openConnection.trans adds_unlock).trans adds_send

theorem adds_notConnected : Adds [] s (s.notConnected k f) := adds_unlock.trans adds_finishCarrier

theorem adds_connect : Adds [] s (s.connect k) := by
  have hbegun : Adds [] s { s with
      attempts := s.attempts ++ [k]
      network := { s.network with attempts := s.network.attempts.drop 1 } } :=
    adds_congr rfl rfl rfl rfl rfl
  have hattempt := hbegun.trans (adds_note (x := .connecting s.attempts.length
    (Address.socket s.address) (s.customEncryption && Address.isEncrypted (Address.socket s.address))) rfl)
  unfold Session.connect
  simp only
  split
  · exact hattempt.trans adds_connected
  · exact hattempt.trans adds_setCarrier
  · exact hattempt.trans adds_notConnected

theorem adds_useSocket : Adds [] s (s.useSocket k) := by
  have hlocked : Adds [] s { s with locked := true } := adds_congr rfl rfl rfl rfl rfl
  unfold Session.useSocket
  simp only
  split
  · exact (hlocked.trans adds_unlock).trans adds_send
  · exact hlocked.trans adds_connect

theorem adds_takeTurn : Adds [] s (s.takeTurn k) := by
  have hqueued : Adds [] s { s with queue := s.queue ++ [k] } := adds_congr rfl rfl rfl rfl rfl
  unfold Session.takeTurn
  split
  · exact adds_useSocket
  · exact hqueued.trans adds_setCarrier

theorem adds_post : Adds [] s (s.post k) := by
  have hopened : Adds [] s { s with httpOpen := true } := adds_congr rfl rfl rfl rfl rfl
  have hrequests : Adds [] s { s with httpOpen := true, requests := s.requests ++ [k] } :=
    adds_congr rfl rfl rfl rfl rfl
  unfold Session.post
  simp only
  split
  · exact hopened.trans adds_finishCarrier
  · exact (hrequests.trans (adds_note rfl)).trans adds_setCarrier

theorem adds_endQueueing : Adds [] s (s.endQueueing k cancelled) := by
  have hleft : Adds [] s { s with queue := s.queue.erase k } := adds_congr rfl rfl rfl rfl rfl
  unfold Session.endQueueing
  simp only
  split
  · split
    · exact hleft.trans adds_finishCarrier
    · exact (hleft.trans adds_passTurn).trans adds_finishCarrier
  · exact hleft.trans adds_useSocket

theorem adds_stepCarrier : Adds [] s (s.stepCarrier k) := by
  have hflag : Adds [] s (s.updateCall k fun c => { c with carrierCancelled := false }) :=
    adds_updateCall fun _ => rfl
  unfold Session.stepCarrier
  simp only
  refine hflag.trans ?_
  split
  · split
    · exact adds_finishCarrier
    · split
      · exact adds_post
      · exact adds_takeTurn
  · exact adds_endQueueing
  · split
    · exact adds_connected
    · exact adds_notConnected
    · exact adds_unlock.trans adds_finishCarrier
  · split
    · exact adds_finishCarrier
    · exact adds_finishCarrier
  · split
    · exact adds_awaitResponse
    · exact adds_sendFailed
    · exact adds_finishCarrier
  · split
    · exact adds_finishCarrier
    · exact adds_finishCarrier
  · exact adds_refl
  · exact adds_refl

theorem adds_cancelCarrier : Adds [] s (s.cancelCarrier k) := by
  unfold Session.cancelCarrier
  split
  · exact adds_wakeCarrier
  · exact adds_wakeCarrier
  · exact adds_wakeCarrier
  · exact adds_wakeCarrier
  · exact adds_refl
  · exact adds_refl
  · split
    · exact adds_setResponse
    · exact adds_updateCall fun _ => rfl

-- ---------------------------------------------------------------------------
-- Guards
-- ---------------------------------------------------------------------------

theorem adds_finishGuard : Adds [] s (s.finishGuard k o) :=
  adds_setGuard.trans (adds_enqueue rfl)

theorem adds_stop : Adds [] s (s.stop k timedOut) := adds_setGuard.trans adds_cancelCarrier

theorem adds_number : Adds [] s (s.number k) :=
  adds_congr (requests_updateCall fun _ => rfl) rfl rfl rfl rfl

theorem adds_startCall : Adds [] s (s.startCall k) := by
  have hstarted : Adds [] s ((s.number k).startCarrier k) := adds_number.trans adds_wakeCarrier
  have halarmed {a : Alarms} : Adds [] s { s.number k with alarms := a } :=
    adds_congr (requests_updateCall fun _ => rfl) rfl rfl rfl rfl
  unfold Session.startCall
  split
  · exact adds_finishGuard
  · split
    · exact adds_finishGuard
    · simp only
      split
      · exact adds_number.trans adds_finishGuard
      · exact hstarted.trans adds_stop
      · exact halarmed.trans adds_wakeCarrier

theorem adds_timeOut : Adds [] s (s.timeOut k) := adds_forget.trans adds_finishGuard

theorem adds_stepGuard : Adds [] s (s.stepGuard k) := by
  have hflag : Adds [] s (s.updateCall k fun c => { c with guardCancelled := false }) :=
    adds_updateCall fun _ => rfl
  unfold Session.stepGuard
  simp only
  refine hflag.trans ?_
  split
  · split
    · exact adds_finishGuard
    · exact adds_startCall
  · split
    · exact adds_finishGuard
    · exact adds_stop
  · split
    · exact adds_finishGuard
    · split
      · exact adds_timeOut
      · exact adds_finishGuard
      · exact adds_timeOut
  · exact adds_refl

theorem adds_releaseGuard : Adds [] s (s.releaseGuard k) := by
  unfold Session.releaseGuard
  split
  · exact adds_wakeGuard
  · exact adds_wakeGuard
  · exact adds_refl

theorem adds_ringAlarm : Adds [] s (s.ringAlarm k) := by
  unfold Session.ringAlarm
  split
  · exact adds_wakeGuard
  · exact adds_refl

theorem adds_cancel : Adds [] s (s.cancel k).1 := by
  unfold Session.cancel
  split
  · exact adds_refl
  · exact adds_wakeGuard
  · exact adds_wakeGuard
  · exact adds_updateCall fun _ => rfl

-- ---------------------------------------------------------------------------
-- Readers
-- ---------------------------------------------------------------------------

theorem adds_notify (h : s.notices = .delivered) :
    Adds (Notice.of? name data).toList s (s.notify name data) := by
  simp only [Session.notify, h]
  cases name with
  | str event => exact adds_job s (.deliver event data)
  | _ => exact adds_refl

theorem adds_handle (h : s.notices = .delivered) (f : Frame) :
    Adds (s.notice? f).toList s (s.handle f) := by
  unfold Session.handle Session.notice?
  cases f.inbound with
  | other => exact adds_refl
  | unreadable => exact adds_note rfl
  | record r =>
    cases hcall : s.pendingCall? r with
    | some e =>
      simp only [hcall]
      exact adds_forget.trans adds_respond
    | none =>
      cases hname : Value.get? r "name" with
      | some name =>
        simp only [hcall, hname]
        exact adds_notify h
      | none =>
        simp only [hcall, hname]
        exact adds_refl

def arrivals (hs : List Handling) : List Notice :=
  hs.filterMap fun h => h.before.notice? h.frame

theorem adds_handleAll (h : s.notices = .delivered) (fs : List Frame) :
    Adds (arrivals (s.handlings fs)) s (fs.foldl Session.handle s) := by
  induction fs generalizing s with
  | nil => exact adds_refl
  | cons f fs ih =>
    have hfirst := adds_handle h f
    have hrest := hfirst.append (ih (hfirst.notices.trans h))
    have harrivals : arrivals (s.handlings (f :: fs)) =
        (s.notice? f).toList ++ arrivals ((s.handle f).handlings fs) := by
      rw [handlings, arrivals, List.filterMap_cons]
      cases s.notice? f <;> rfl
    rwa [harrivals]

theorem adds_release : Adds [] s (s.release c) := by
  unfold Session.release
  split
  · exact adds_congr rfl rfl rfl rfl rfl
  · exact adds_refl

theorem adds_endReader : Adds [] s (s.endReader c f) := by
  unfold Session.endReader
  simp only
  split
  · exact adds_updateConnection.trans (adds_enqueue rfl)
  · exact adds_updateConnection

theorem adds_connectionEnded : Adds [] s (s.connectionEnded c f) := by
  have hfail {fault} : Adds [] s ((s.release c).failPending fault) :=
    adds_release.trans adds_failPending
  unfold Session.connectionEnded
  simp only
  split
  · exact hfail.trans adds_endReader
  · split
    · exact hfail.trans adds_endReader
    · exact hfail.trans adds_endReader

/-- All notifications among the frames that a reader handles are added, also if the connection has
ended. -/
theorem adds_stepReader (h : s.notices = .delivered) :
    Adds (arrivals (s.readings c)) s (s.stepReader c) := by
  have hemptied : Adds [] s (s.emptied c) := adds_updateConnection
  have hdrained := hemptied.trans (adds_handleAll (hemptied.notices.trans h) (s.connection c).inbox)
  have hended {f} : Adds (arrivals ((s.emptied c).handlings (s.connection c).inbox)) s
      (((s.connection c).inbox.foldl Session.handle (s.emptied c)).connectionEnded c f) := by
    simpa using hdrained.append adds_connectionEnded
  unfold Session.stepReader Session.readings Session.hasEnded
  simp only
  cases hreader : (s.connection c).reader with
  | finished f => exact adds_refl
  | _ =>
    simp only [Reader.isFinished, Bool.false_or]
    split
    · first
        | exact adds_endReader
        | exact (adds_release.trans adds_failPending).trans adds_endReader
    · split
      · exact hended
      · exact hdrained

theorem adds_wakeReader : Adds [] s (s.wakeReader c) := by
  unfold Session.wakeReader
  split
  · exact adds_updateConnection.trans (adds_enqueue rfl)
  · exact adds_refl

-- ---------------------------------------------------------------------------
-- Closing
-- ---------------------------------------------------------------------------

theorem adds_endClosing : Adds [] s (s.endClosing f) :=
  adds_failPending.trans (adds_congr rfl rfl rfl rfl rfl)

theorem adds_finishClosing : Adds [] s (s.finishClosing held) := by
  have hnote {c : Nat} : Adds [] s (s.note (.hungUp c)) := adds_note rfl
  unfold Session.finishClosing
  split
  · exact adds_endClosing
  · simp only
    split
    · exact hnote.trans adds_endClosing
    · split
      · exact hnote.trans (adds_congr rfl rfl rfl rfl rfl)
      · exact hnote.trans adds_endClosing

theorem adds_logReader : Adds [] s s.logReader := adds_note rfl

theorem adds_stepClosing : Adds [] s s.stepClosing := by
  unfold Session.stepClosing
  split
  · split
    · exact adds_logReader.trans adds_finishClosing
    · exact adds_finishClosing
  · exact adds_endClosing
  · exact adds_refl

theorem adds_close : Adds [] s s.close := by
  have hshut : Adds [] s
      { s with closed := true, httpOpen := false, reader := none, socket := none } :=
    adds_congr rfl rfl rfl rfl rfl
  unfold Session.close
  split
  · exact adds_refl
  · simp only
    split
    · exact hshut.trans adds_finishClosing
    · split
      · exact hshut.trans (adds_logReader.trans adds_finishClosing)
      · exact hshut.trans adds_finishClosing
      · have hwaits {c : Closing} : Adds [] s { s with
            closed := true, httpOpen := false, reader := none, socket := none, closing := c } :=
          adds_congr rfl rfl rfl rfl rfl
        exact hwaits.trans (adds_updateConnection.trans adds_wakeReader)

-- ---------------------------------------------------------------------------
-- The network
-- ---------------------------------------------------------------------------

theorem adds_reply : Adds [] s (s.reply r a).1 := by
  unfold Session.reply
  split
  · exact adds_refl
  · split
    · split
      · exact adds_wakeCarrier
      · exact adds_refl
    · exact adds_refl

theorem adds_settle : Adds [] s (s.settle a f).1 := by
  unfold Session.settle
  split
  · exact adds_refl
  · split
    · split
      · exact adds_wakeCarrier
      · exact adds_refl
    · exact adds_refl

theorem adds_flush : Adds [] s (s.flush k f) := by
  unfold Session.flush
  split
  · exact adds_wakeCarrier
  · exact adds_refl

theorem adds_endHangUp : Adds [] s (s.endHangUp f) := by
  unfold Session.endHangUp
  split
  · have hdone {c : Closing} : Adds [] s { s with closing := c } := adds_congr rfl rfl rfl rfl rfl
    exact hdone.trans (adds_enqueue rfl)
  · exact adds_refl

theorem adds_arrive : Adds [] s (s.arrive c f) := by
  unfold Session.arrive
  split
  · exact adds_refl
  · exact adds_updateConnection.trans adds_wakeReader

theorem adds_drop : Adds [] s (s.drop c f) := by
  unfold Session.drop
  split
  · exact adds_refl
  · exact adds_updateConnection.trans adds_wakeReader

-- ---------------------------------------------------------------------------
-- Moves
-- ---------------------------------------------------------------------------

def arrivalsIn (s : Session) : Move → List Notice
  | .deliver event data => [⟨event, data⟩]
  | m => arrivals (s.handledIn m)

theorem adds_perform (h : s.notices = .delivered) (hj : j.isTelling = false) :
    Adds (arrivals (s.handledBy j)) s (s.perform j) := by
  cases j with
  | guard k => exact adds_stepGuard
  | carrier k => exact adds_stepCarrier
  | release k => exact adds_releaseGuard
  | alarm k => exact adds_ringAlarm
  | report k => cases hj
  | reader c => exact adds_stepReader h
  | closing => exact adds_stepClosing
  | deliver event data => cases hj

/-- Whatever else happens to a session that nobody has to look at, notifications may arrive. -/
theorem adds_after (hlooked : s.traces = []) (hm : m ≠ .work)
    (hcalls : ∀ r callback, m ≠ .begin r callback) : Adds (s.arrivalsIn m) s (s.after m) := by
  cases m with
  | work => exact absurd rfl hm
  | begin r callback => exact absurd rfl (hcalls r callback)
  | cancel k => exact adds_cancel
  | close => exact adds_close
  | reply r a => exact adds_reply
  | settle a f => exact adds_settle
  | flush k f => exact adds_flush
  | endHangUp f => exact adds_endHangUp
  | arrive c f => exact adds_arrive
  | drop c f => exact adds_drop
  | advance seconds => exact adds_congr rfl rfl rfl rfl rfl
  | network n => exact adds_congr rfl rfl rfl rfl rfl
  | deliver event data => exact adds_job s (.deliver event data)
  | observe => exact adds_congr rfl rfl rfl hlooked.symm rfl

theorem ready_begin (s : Session) (r : Request) (callback : Option Value) :
    (s.begin r callback).ready = s.ready ++ [.guard s.calls.length] := ready_enqueue

theorem Adds.ready (h : Adds ns s t) : ∃ js, t.ready = s.ready ++ js ∧
    js.filterMap Job.notice? = ns := by
  obtain ⟨js, hjs, hns⟩ := h.upcoming
  exact ⟨js, by rw [Session.ready, h.jobs, hjs, ← List.append_assoc, ← Session.ready], hns⟩

/-- The jobs that are left after the next one stand behind it; alarms may be added. -/
theorem ready_of_next (h : s.next = some (j, t)) : ∃ js, t.ready = s.ready.drop 1 ++ js ∧
    js.filterMap Job.notice? = [] ∧ (s.ready.take 1).filterMap Job.notice? = j.notice?.toList := by
  obtain ⟨ks, hks⟩ := ready_next h
  have halarms (ks : List Nat) : (ks.map Job.alarm).filterMap Job.notice? = [] := by
    simp [Job.notice?]
  cases hready : s.ready with
  | cons i rest =>
    rw [hready] at hks
    obtain ⟨rfl, hrest⟩ : j = i ∧ t.ready = rest ++ ks.map .alarm := by simpa using hks
    refine ⟨_, hrest, halarms ks, ?_⟩
    cases hj : j.notice? <;> simp [hj]
  | nil =>
    rw [hready] at hks
    cases ks with
    | nil => cases hks
    | cons k ks =>
      obtain ⟨rfl, hrest⟩ : j = .alarm k ∧ t.ready = ks.map .alarm := by simpa using hks
      exact ⟨_, hrest, halarms ks, rfl⟩

theorem ready_of_next_eq_none (h : s.next = none) : s.ready = [] := by
  have hjobs := jobs_of_next_eq_none h
  have hround : s.beginRound.takeJob = none := (Option.or_eq_none_iff.mp h).2
  have hnone : s.beginRound.jobs = [] := by
    unfold Session.takeJob at hround
    split at hround
    · cases hround
    · assumption
  have hupcoming : s.upcoming = [] := (List.append_eq_nil_iff.mp hnone).1
  rw [Session.ready, hjobs, hupcoming, List.append_nil]

end Session

end Farcall
