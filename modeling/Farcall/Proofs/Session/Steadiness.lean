import Farcall.Proofs.Session.Responses
import Mathlib.Data.List.Basic

/-!
# What most of the work leaves alone

Calls get to the socket in a line: they wait to be numbered, their carriers wait to begin, and then
wait for their turn. Few parts of the work move anybody in the line forward, start a call, end one or
report its end. All others are steady: whoever is in the line stays in place or leaves, and nothing
changes that callers are told.
-/

namespace Farcall

-- ---------------------------------------------------------------------------
-- Places in the line
-- ---------------------------------------------------------------------------

def Guard.isFresh : Guard → Bool
  | .fresh => true
  | _ => false

namespace Carrier

def isFresh : Carrier → Bool
  | .fresh => true
  | _ => false

/-- Whether a carrier waits for its turn, or has got it, and has not given it up. -/
def isQueued : Carrier → Bool
  | .queueing turn => !turn.isWithdrawn
  | _ => false

def hasBegun : Carrier → Bool
  | .absent => false
  | .fresh => false
  | _ => true

def isOut : Carrier → Bool
  | .posting _ _ => true
  | .sending _ => true
  | .awaiting => true
  | .finished (.value _) => true
  | _ => false

theorem isFresh_of_hasBegun {x : Carrier} (h : x.hasBegun = true) : x.isFresh = false := by
  cases x <;> first | rfl | cases h

end Carrier

/-- Whether the frame of a call has got out, and its carrier has not failed. -/
def Call.isOut (c : Call) : Bool :=
  c.request.transport == .socket && c.carrier.isOut

theorem Call.isOut_of_carrier {c : Call} {x : Carrier} (h : x.isOut = true → c.carrier.isOut = true)
    (hc : Call.isOut { c with carrier := x } = true) : c.isOut = true := by
  simp only [Call.isOut, Bool.and_eq_true] at hc ⊢
  exact ⟨hc.1, h hc.2⟩

namespace Job

def carrier? : Job → Option Nat
  | .carrier k => some k
  | _ => none

def guard? : Job → Option Nat
  | .guard k => some k
  | _ => none

def isReport (k : Nat) : Job → Bool
  | .report j => j == k
  | _ => false

end Job

namespace Trace

def frame? : Trace → Option (Nat × String)
  | .sent c text => some (c, text)
  | _ => none

def report? : Trace → Option (String × Value × Outcome)
  | .reported method callback o => some (method, callback, o)
  | _ => none

end Trace

namespace Session

def queued (s : Session) : List Nat :=
  s.queue.filter fun k => (s.call k).carrier.isQueued

def starting (s : Session) (js : List Job) : List Nat :=
  (js.filterMap Job.carrier?).filter fun k => (s.call k).carrier.isFresh

def entering (s : Session) (js : List Job) : List Nat :=
  (js.filterMap Job.guard?).filter fun k => (s.call k).guard.isFresh

def frames (s : Session) : List (Nat × String) := s.traces.filterMap Trace.frame?

def reports (s : Session) : List (String × Value × Outcome) := s.traces.filterMap Trace.report?

def begins (s : Session) : Job → Bool
  | .guard k => (s.call k).guard.isFresh
  | .carrier k => (s.call k).carrier.isFresh
  | _ => false

-- ---------------------------------------------------------------------------
-- Steadiness
-- ---------------------------------------------------------------------------

/-- The same is to be told about the end of a call. -/
structure SameEnd (c c' : Call) : Prop where
  request : c'.request = c.request
  callback : c'.callback = c.callback
  outcome : c'.outcome? = c.outcome?

/-- A call stays in its place in the line or leaves it. It gets a link, connects or gets its frame out
only if it is free to. -/
structure Stays (free : Prop) (c c' : Call) : Prop where
  request : c'.request = c.request
  id : c'.id = c.id
  entering : c'.guard.isFresh = true → c.guard.isFresh = true
  starting : c'.carrier.isFresh = true → c.carrier.isFresh = true
  begun : c.carrier.hasBegun = true → c'.carrier.hasBegun = true
  queued : c'.carrier.isQueued = true → c.carrier.isQueued = true
  link : free ∨ c'.link = c.link
  connecting : free ∨ (c'.carrier.isConnecting = true → c.carrier.isConnecting = true)
  out : free ∨ (c'.isOut = true → c.isOut = true)

/-- No call begins or ends, and nobody is told anything. -/
structure Silent (s t : Session) : Prop where
  length : t.calls.length = s.calls.length
  ends : ∀ k, SameEnd (s.call k) (t.call k)
  waiting : ∀ k, t.ready.countP (Job.isReport k) = s.ready.countP (Job.isReport k)
  reports : t.reports = s.reports

/-- Nobody moves forward in the line, but perhaps the one who is free to leave it for the socket. -/
structure KeepsLine (who : Option Nat) (s t : Session) : Prop where
  places : ∀ k, Stays (who = some k) (s.call k) (t.call k)
  queue : t.queue.Sublist s.queue
  starting : (t.starting t.ready).Sublist (s.starting s.ready)
  entering : (t.entering t.ready).Sublist (s.entering s.ready)

/-- Both, and nothing is sent. -/
structure Steady (who : Option Nat) (s t : Session) : Prop where
  silent : Silent s t
  line : KeepsLine who s t
  frames : t.frames = s.frames

variable {s t u : Session} {who : Option Nat}

theorem SameEnd.trans {c c' c'' : Call} (h : SameEnd c c') (h' : SameEnd c' c'') : SameEnd c c'' where
  request := h'.request.trans h.request
  callback := h'.callback.trans h.callback
  outcome := h'.outcome.trans h.outcome

theorem sameEnd_refl (c : Call) : SameEnd c c := ⟨rfl, rfl, rfl⟩

theorem Stays.trans {c c' c'' : Call} (h : Stays free c c') (h' : Stays free c' c'') :
    Stays free c c'' where
  request := h'.request.trans h.request
  id := h'.id.trans h.id
  entering hc := h.entering (h'.entering hc)
  starting hc := h.starting (h'.starting hc)
  begun hc := h'.begun (h.begun hc)
  queued hc := h.queued (h'.queued hc)
  link := h'.link.elim .inl fun hlink => h.link.imp_right hlink.trans
  connecting := h'.connecting.elim .inl fun hc => h.connecting.imp_right fun hold => hold ∘ hc
  out := h'.out.elim .inl fun hc => h.out.imp_right fun hold => hold ∘ hc

theorem stays_refl (c : Call) : Stays free c c := ⟨rfl, rfl, id, id, id, id, .inr rfl, .inr id, .inr id⟩

theorem Silent.trans (h : Silent s t) (h' : Silent t u) : Silent s u where
  length := h'.length.trans h.length
  ends k := (h.ends k).trans (h'.ends k)
  waiting k := (h'.waiting k).trans (h.waiting k)
  reports := h'.reports.trans h.reports

theorem KeepsLine.trans (h : KeepsLine who s t) (h' : KeepsLine who t u) : KeepsLine who s u where
  places k := (h.places k).trans (h'.places k)
  queue := h'.queue.trans h.queue
  starting := h'.starting.trans h.starting
  entering := h'.entering.trans h.entering

theorem Steady.trans (h : Steady who s t) (h' : Steady who t u) : Steady who s u :=
  ⟨h.silent.trans h'.silent, h.line.trans h'.line, h'.frames.trans h.frames⟩

-- ---------------------------------------------------------------------------
-- Small changes
-- ---------------------------------------------------------------------------

theorem silent_congr (hcalls : t.calls = s.calls) (hready : t.ready = s.ready)
    (hreports : t.reports = s.reports) : Silent s t where
  length := by rw [hcalls]
  ends k := by
    rw [Session.call, Session.call, hcalls]
    exact sameEnd_refl _
  waiting k := by rw [hready]
  reports := hreports

theorem keepsLine_congr (hcalls : t.calls = s.calls) (hready : t.ready = s.ready)
    (hqueue : t.queue.Sublist s.queue) : KeepsLine who s t := by
  have hcall (k : Nat) : t.call k = s.call k := by rw [Session.call, hcalls, Session.call]
  refine ⟨fun k => ?_, hqueue, ?_, ?_⟩
  · rw [hcall]
    exact stays_refl _
  · simp [starting, hcall, hready]
  · simp [entering, hcall, hready]

/-- Calls, jobs and the queue stay as they are, and nothing is sent or reported. -/
theorem steady_congr (hcalls : t.calls = s.calls) (hready : t.ready = s.ready)
    (hqueue : t.queue = s.queue) (hframes : t.frames = s.frames) (hreports : t.reports = s.reports) :
    Steady who s t :=
  ⟨silent_congr hcalls hready hreports,
    keepsLine_congr hcalls hready (hqueue ▸ List.Sublist.refl _), hframes⟩

theorem steady_refl : Steady who s s := steady_congr rfl rfl rfl rfl rfl

theorem steady_note (hframe : x.frame? = none) (hreport : x.report? = none) :
    Steady who s (s.note x) := by
  refine steady_congr rfl rfl rfl ?_ ?_
  · simp [Session.frames, Session.note, hframe]
  · simp [Session.reports, Session.note, hreport]

theorem steady_queue (h : q.Sublist s.queue) : Steady who s { s with queue := q } :=
  ⟨silent_congr rfl rfl rfl, keepsLine_congr rfl rfl h, rfl⟩

theorem silent_enqueue (h : ∀ k, j.isReport k = false) : Silent s (s.enqueue j) where
  length := rfl
  ends k := sameEnd_refl _
  waiting k := by simp [h]
  reports := rfl

theorem keepsLine_enqueue (h : s.begins j = false) : KeepsLine who s (s.enqueue j) := by
  have hcall (k : Nat) : (s.enqueue j).call k = s.call k := rfl
  refine ⟨fun _ => stays_refl _, List.Sublist.refl _, ?_, ?_⟩
  · cases j <;> simp_all [starting, Job.carrier?, begins]
  · cases j <;> simp_all [entering, Job.guard?, begins]

theorem steady_enqueue (h : s.begins j = false) (hreport : ∀ k, j.isReport k = false) :
    Steady who s (s.enqueue j) :=
  ⟨silent_enqueue hreport, keepsLine_enqueue h, rfl⟩

theorem silent_updateCall (h : SameEnd (s.call k) (f (s.call k))) : Silent s (s.updateCall k f) where
  length := length_updateCall
  ends j := by
    rw [call_updateCall]
    split
    · rename_i hj
      exact hj.1 ▸ h
    · exact sameEnd_refl _
  waiting _ := rfl
  reports := rfl

theorem keepsLine_updateCall (h : Stays (who = some k) (s.call k) (f (s.call k))) :
    KeepsLine who s (s.updateCall k f) := by
  have hcall (j : Nat) : Stays (who = some j) (s.call j) ((s.updateCall k f).call j) := by
    rw [call_updateCall]
    split
    · rename_i hj
      exact hj.1 ▸ h
    · exact stays_refl _
  exact ⟨hcall, List.Sublist.refl _, List.monotone_filter_right _ fun j => (hcall j).starting,
    List.monotone_filter_right _ fun j => (hcall j).entering⟩

theorem steady_updateCall (hend : SameEnd (s.call k) (f (s.call k)))
    (hline : Stays (who = some k) (s.call k) (f (s.call k))) : Steady who s (s.updateCall k f) :=
  ⟨silent_updateCall hend, keepsLine_updateCall hline, rfl⟩

-- ---------------------------------------------------------------------------
-- Carriers
-- ---------------------------------------------------------------------------

/-- The carrier of a call goes on, but not forward in the line. -/
theorem steady_setCarrier (hx : x.hasBegun = true)
    (hqueued : x.isQueued = true → (s.call k).carrier.isQueued = true)
    (hconnecting : who = some k ∨ (x.isConnecting = true → (s.call k).carrier.isConnecting = true))
    (hout : who = some k ∨
      (Call.isOut { s.call k with carrier := x } = true → (s.call k).isOut = true)) :
    Steady who s (s.setCarrier k x) :=
  steady_updateCall ⟨rfl, rfl, rfl⟩ ⟨rfl, rfl, id,
    fun hfresh => by simp [Carrier.isFresh_of_hasBegun hx] at hfresh, fun _ => hx, hqueued, .inr rfl,
    hconnecting, hout⟩

theorem steady_leave (hx : x.hasBegun = true) (hqueued : x.isQueued = false)
    (hconnecting : x.isConnecting = false) (hout : x.isOut = true → (s.call k).carrier.isOut = true) :
    Steady who s (s.setCarrier k x) :=
  steady_setCarrier hx (by simp [hqueued]) (.inr (by simp [hconnecting]))
    (.inr (Call.isOut_of_carrier hout))

theorem isFresh_setCarrier (hx : x.hasBegun = true) :
    ((s.setCarrier k x).call k).carrier.isFresh = false := by
  unfold Session.setCarrier
  rw [call_updateCall]
  split
  · exact Carrier.isFresh_of_hasBegun hx
  · rename_i hk
    rw [call_of_length_le (by simpa using hk)]
    rfl

theorem steady_wakeCarrier (hx : x.hasBegun = true)
    (hqueued : x.isQueued = true → (s.call k).carrier.isQueued = true)
    (hconnecting : x.isConnecting = true → (s.call k).carrier.isConnecting = true)
    (hout : x.isOut = true → (s.call k).carrier.isOut = true) : Steady who s (s.wakeCarrier k x) :=
  (steady_setCarrier hx hqueued (.inr hconnecting) (.inr (Call.isOut_of_carrier hout))).trans
    (steady_enqueue (isFresh_setCarrier hx) fun _ => rfl)

/-- A carrier ends; it succeeds only if its message has got out. -/
theorem steady_finishCarrier
    (hout : (Carrier.finished o).isOut = true → (s.call k).carrier.isOut = true) :
    Steady who s (s.finishCarrier k o) := by
  have hset : Steady who s (s.setCarrier k (.finished o)) := steady_leave rfl rfl rfl hout
  unfold Session.finishCarrier
  simp only
  split
  · exact hset.trans (steady_enqueue rfl fun _ => rfl)
  · exact hset.trans (steady_enqueue rfl fun _ => rfl)
  · exact hset

theorem steady_setResponse : Steady who s (s.setResponse k p) := by
  have hset : Steady who s (s.updateCall k fun c => { c with response := some p }) :=
    steady_updateCall ⟨rfl, rfl, rfl⟩ ⟨rfl, rfl, id, id, id, id, .inr rfl, .inr id, .inr id⟩
  unfold Session.setResponse
  simp only
  split
  · rename_i hx
    exact hset.trans (steady_enqueue (by simp [begins, hx, Carrier.isFresh]) fun _ => rfl)
  · exact hset

theorem steady_respond : Steady who s (s.respond k r) := by
  unfold Session.respond
  split
  · exact steady_setResponse
  · exact steady_refl

theorem steady_failPending : Steady who s (s.failPending f) :=
  failPending_induction s f (steady_congr rfl rfl rfl rfl rfl) fun _ _ ht => ht.trans steady_respond

theorem steady_forget : Steady who s (s.forget n) := steady_congr rfl rfl rfl rfl rfl

theorem steady_passTurn : Steady who s s.passTurn := by
  unfold Session.passTurn
  split
  · exact steady_refl
  · split
    · rename_i hx
      exact steady_wakeCarrier rfl (fun _ => by rw [hx]; rfl) (fun hc => by cases hc)
        fun hc => by cases hc
    · exact steady_refl

theorem steady_unlock : Steady who s s.unlock := by
  have hunlocked : Steady who s { s with locked := false } := steady_congr rfl rfl rfl rfl rfl
  exact hunlocked.trans steady_passTurn

theorem steady_awaitResponse (hout : (s.call k).carrier.isOut = true) :
    Steady who s (s.awaitResponse k) := by
  unfold Session.awaitResponse
  split
  · exact steady_finishCarrier fun _ => hout
  · exact steady_leave rfl rfl rfl fun _ => hout
  · exact steady_finishCarrier fun _ => hout
  · exact steady_finishCarrier fun _ => hout

theorem steady_sendFailed : Steady who s (s.sendFailed k f) := by
  unfold Session.sendFailed
  simp only
  split
  · exact steady_forget.trans (steady_finishCarrier fun hc => by cases hc)
  · exact steady_finishCarrier fun hc => by cases hc

theorem steady_notConnected : Steady who s (s.notConnected k f) :=
  steady_unlock.trans (steady_finishCarrier fun hc => by cases hc)

theorem steady_post (hhttp : (s.call k).request.transport = .http) : Steady who s (s.post k) := by
  have hopened : Steady who s { s with httpOpen := true } := steady_congr rfl rfl rfl rfl rfl
  unfold Session.post
  simp only
  split
  · exact hopened.trans (steady_finishCarrier fun hc => by cases hc)
  · have hrequests : Steady who s { s with httpOpen := true, requests := s.requests ++ [k] } :=
      steady_congr rfl rfl rfl rfl rfl
    refine (hrequests.trans (steady_note rfl rfl)).trans
      (steady_setCarrier rfl (fun hc => by cases hc) (.inr fun hc => by cases hc) (.inr fun hc => ?_))
    simp only [Call.isOut, Bool.and_eq_true, beq_iff_eq] at hc
    exact absurd (hhttp.symm.trans hc.1) (by decide)

theorem steady_uncancel :
    Steady who s (s.updateCall k fun c => { c with carrierCancelled := b }) :=
  steady_updateCall ⟨rfl, rfl, rfl⟩ ⟨rfl, rfl, id, id, id, id, .inr rfl, .inr id, .inr id⟩

theorem steady_cancelCarrier : Steady who s (s.cancelCarrier k) := by
  unfold Session.cancelCarrier
  split
  · exact steady_wakeCarrier rfl (fun hc => by cases hc) (fun hc => by cases hc) fun hc => by cases hc
  · rename_i hx
    exact steady_wakeCarrier rfl (fun hc => by cases hc) (fun _ => by rw [hx]; rfl)
      fun hc => by cases hc
  · rename_i hx
    exact steady_wakeCarrier rfl (fun hc => by cases hc) (fun hc => by cases hc)
      fun _ => by rw [hx]; rfl
  · rename_i hx
    exact steady_wakeCarrier rfl (fun hc => by cases hc) (fun hc => by cases hc)
      fun _ => by rw [hx]; rfl
  · exact steady_refl
  · exact steady_refl
  · split
    · exact steady_setResponse
    · exact steady_uncancel

-- ---------------------------------------------------------------------------
-- Guards
-- ---------------------------------------------------------------------------

/-- The guard of a call under way goes on, and the call stays under way. -/
theorem steady_setGuard (h : (s.call k).outcome? = none) (hfresh : g.isFresh = false)
    (hg : Call.outcome? { s.call k with guard := g } = none) : Steady who s (s.setGuard k g) :=
  steady_updateCall ⟨rfl, rfl, hg.trans h.symm⟩
    ⟨rfl, rfl, by simp [hfresh], id, id, id, .inr rfl, .inr id, .inr id⟩

theorem steady_flagGuard : Steady who s (s.updateCall k fun c => { c with guardCancelled := b }) :=
  steady_updateCall ⟨rfl, rfl, rfl⟩ ⟨rfl, rfl, id, id, id, id, .inr rfl, .inr id, .inr id⟩

theorem isFresh_setGuard (hg : g.isFresh = false) (hk : (s.call k).guard.isFresh = false) :
    ((s.setGuard k g).call k).guard.isFresh = false := by
  unfold Session.setGuard
  rw [call_updateCall]
  split
  · exact hg
  · exact hk

theorem steady_wakeGuard (h : (s.call k).outcome? = none) (hold : (s.call k).guard.isFresh = false)
    (hfresh : g.isFresh = false) (hg : Call.outcome? { s.call k with guard := g } = none) :
    Steady who s (s.wakeGuard k g) :=
  (steady_setGuard h hfresh hg).trans (steady_enqueue (isFresh_setGuard hfresh hold) fun _ => rfl)

theorem steady_stop (h : (s.call k).outcome? = none) : Steady who s (s.stop k timedOut) :=
  (steady_setGuard h rfl rfl).trans steady_cancelCarrier

theorem steady_releaseGuard : Steady who s (s.releaseGuard k) := by
  unfold Session.releaseGuard
  split
  · rename_i hg
    exact steady_wakeGuard (by rw [Call.outcome?, hg]) (by rw [hg]; rfl) rfl rfl
  · rename_i hg
    exact steady_wakeGuard (by rw [Call.outcome?, hg]) (by rw [hg]; rfl) rfl rfl
  · exact steady_refl

theorem steady_ringAlarm : Steady who s (s.ringAlarm k) := by
  unfold Session.ringAlarm
  split
  · rename_i hg
    exact steady_wakeGuard (by rw [Call.outcome?, hg]) (by rw [hg]; rfl) rfl rfl
  · exact steady_refl

theorem steady_cancel : Steady who s (s.cancel k).1 := by
  unfold Session.cancel
  split
  · exact steady_refl
  · rename_i hg
    exact steady_wakeGuard (by rw [Call.outcome?, hg]) (by rw [hg]; rfl) rfl rfl
  · rename_i hg
    exact steady_wakeGuard (by rw [Call.outcome?, hg]) (by rw [hg]; rfl) rfl rfl
  · exact steady_flagGuard

theorem keepsLine_finishGuard : KeepsLine who s (s.finishGuard k o) := by
  have hset : KeepsLine who s (s.setGuard k (.finished o)) :=
    keepsLine_updateCall ⟨rfl, rfl, (fun hg => by cases hg), id, id, id, .inr rfl, .inr id, .inr id⟩
  exact hset.trans (keepsLine_enqueue rfl)

-- ---------------------------------------------------------------------------
-- Readers
-- ---------------------------------------------------------------------------

theorem steady_notify : Steady who s (s.notify name data) := by
  have hnote {x : Value} : Steady who s (s.note (.notified x)) := steady_note rfl rfl
  unfold Session.notify
  split
  · exact steady_refl
  · exact hnote
  · exact hnote.trans (steady_note rfl rfl)
  · split
    · exact steady_enqueue rfl fun _ => rfl
    · exact steady_refl

theorem steady_handle : Steady who s (s.handle f) := by
  unfold Session.handle
  split
  · exact steady_refl
  · exact steady_note rfl rfl
  · split
    · exact steady_forget.trans steady_respond
    · split
      · exact steady_notify
      · exact steady_refl

theorem steady_handleAll (fs : List Frame) : Steady who s (fs.foldl Session.handle s) := by
  induction fs generalizing s with
  | nil => exact steady_refl
  | cons f fs ih => exact steady_handle.trans ih

theorem steady_release : Steady who s (s.release l) := by
  unfold Session.release
  split
  · exact steady_congr rfl rfl rfl rfl rfl
  · exact steady_refl

theorem steady_updateConnection : Steady who s (s.updateConnection l g) :=
  steady_congr rfl rfl rfl rfl rfl

theorem steady_endReader : Steady who s (s.endReader l f) := by
  unfold Session.endReader
  simp only
  split
  · exact steady_updateConnection.trans (steady_enqueue rfl fun _ => rfl)
  · exact steady_updateConnection

theorem steady_connectionEnded : Steady who s (s.connectionEnded l f) := by
  have hfail {fault} : Steady who s ((s.release l).failPending fault) :=
    steady_release.trans steady_failPending
  unfold Session.connectionEnded
  simp only
  split
  · exact hfail.trans steady_endReader
  · split
    · exact hfail.trans steady_endReader
    · exact hfail.trans steady_endReader

theorem steady_stepReader : Steady who s (s.stepReader l) := by
  unfold Session.stepReader
  simp only
  split
  · exact steady_refl
  · split
    · split
      · exact steady_endReader
      · exact (steady_release.trans steady_failPending).trans steady_endReader
    · have hdrained : Steady who s (s.drained l) := steady_updateConnection.trans (steady_handleAll _)
      split
      · exact hdrained.trans steady_connectionEnded
      · exact hdrained

theorem steady_wakeReader : Steady who s (s.wakeReader l) := by
  unfold Session.wakeReader
  split
  · exact steady_updateConnection.trans (steady_enqueue rfl fun _ => rfl)
  · exact steady_refl

-- ---------------------------------------------------------------------------
-- Closing
-- ---------------------------------------------------------------------------

theorem steady_endClosing : Steady who s (s.endClosing f) :=
  steady_failPending.trans (steady_congr rfl rfl rfl rfl rfl)

theorem steady_finishClosing : Steady who s (s.finishClosing held) := by
  have hnote {l : Nat} : Steady who s (s.note (.hungUp l)) := steady_note rfl rfl
  unfold Session.finishClosing
  split
  · exact steady_endClosing
  · simp only
    split
    · exact hnote.trans steady_endClosing
    · split
      · exact hnote.trans (steady_congr rfl rfl rfl rfl rfl)
      · exact hnote.trans steady_endClosing

theorem steady_logReader : Steady who s s.logReader := steady_note rfl rfl

theorem steady_stepClosing : Steady who s s.stepClosing := by
  unfold Session.stepClosing
  split
  · split
    · exact steady_logReader.trans steady_finishClosing
    · exact steady_finishClosing
  · exact steady_endClosing
  · exact steady_refl

theorem steady_close : Steady who s s.close := by
  have hshut : Steady who s
      { s with closed := true, httpOpen := false, reader := none, socket := none } :=
    steady_congr rfl rfl rfl rfl rfl
  unfold Session.close
  split
  · exact steady_refl
  · simp only
    split
    · exact hshut.trans steady_finishClosing
    · split
      · exact hshut.trans (steady_logReader.trans steady_finishClosing)
      · exact hshut.trans steady_finishClosing
      · have hwaits {c : Closing} : Steady who s { s with
            closed := true, httpOpen := false, reader := none, socket := none, closing := c } :=
          steady_congr rfl rfl rfl rfl rfl
        exact hwaits.trans (steady_updateConnection.trans steady_wakeReader)

-- ---------------------------------------------------------------------------
-- The network
-- ---------------------------------------------------------------------------

theorem steady_reply : Steady who s (s.reply r a).1 := by
  unfold Session.reply
  split
  · exact steady_refl
  · split
    · rename_i hx
      split
      · exact steady_wakeCarrier rfl (fun hc => by cases hc) (fun hc => by cases hc)
          fun _ => by rw [hx]; rfl
      · exact steady_refl
    · exact steady_refl

theorem steady_settle : Steady who s (s.settle a f).1 := by
  unfold Session.settle
  split
  · exact steady_refl
  · split
    · rename_i hx
      split
      · exact steady_wakeCarrier rfl (fun hc => by cases hc) (fun _ => by rw [hx]; rfl)
          fun hc => by cases hc
      · exact steady_refl
    · exact steady_refl

theorem steady_flush : Steady who s (s.flush k f) := by
  unfold Session.flush
  split
  · rename_i hx
    exact steady_wakeCarrier rfl (fun hc => by cases hc) (fun hc => by cases hc)
      fun _ => by rw [hx]; rfl
  · exact steady_refl

theorem steady_endHangUp : Steady who s (s.endHangUp f) := by
  unfold Session.endHangUp
  split
  · have hdone {c : Closing} : Steady who s { s with closing := c } :=
      steady_congr rfl rfl rfl rfl rfl
    exact hdone.trans (steady_enqueue rfl fun _ => rfl)
  · exact steady_refl

theorem steady_arrive : Steady who s (s.arrive l f) := by
  unfold Session.arrive
  split
  · exact steady_refl
  · exact steady_updateConnection.trans steady_wakeReader

theorem steady_drop : Steady who s (s.drop l f) := by
  unfold Session.drop
  split
  · exact steady_refl
  · exact steady_updateConnection.trans steady_wakeReader

end Session

end Farcall
