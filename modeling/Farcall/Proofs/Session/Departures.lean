import Farcall.Proofs.Session.Progress
import Farcall.Proofs.Session.Steadiness

/-!
# Who moves forward

The work of a carrier either leaves the line in order or takes its call out of it to the socket. The
work of a guard numbers its call, if it begins it, and puts its carrier where the call was in the line.
-/

namespace Farcall

def Call.frame? (c : Call) : Option (Nat × String) :=
  match c.link, Json.write Json.spaced (c.request.message (c.id.getD 0)) with
  | some l, .ok text => some (l, text)
  | _, _ => none

namespace Session

/-- The calls that have yet to come to the socket: those in the queue, those whose carriers are to
begin, and those that are to begin themselves. Some jobs are being done. -/
def line (s : Session) (active : List Job) : List Nat :=
  s.queued ++ (s.starting (active ++ s.ready) ++ s.entering (active ++ s.ready))

/-- Whoever is in the queue has begun. -/
def QueueBegun (s : Session) : Prop :=
  ∀ k ∈ s.queue, (s.call k).carrier.hasBegun = true

/-- The line keeps its order while some jobs are done, and nobody in it connects, gets a link or gets
a frame out. -/
structure Shortens (active : List Job) (s t : Session) : Prop where
  request : ∀ k, (t.call k).request = (s.call k).request
  link : ∀ k, (t.call k).link = (s.call k).link
  connecting : ∀ k, (t.call k).carrier.isConnecting = true → (s.call k).carrier.isConnecting = true
  out : ∀ k, (t.call k).isOut = true → (s.call k).isOut = true
  queue : s.QueueBegun → t.QueueBegun
  line : (t.line []).Sublist (s.line active)
  entering : (t.entering t.ready).Sublist (s.entering (active ++ s.ready))

/-- A call may leave the line for the socket, and its frame may be sent. -/
structure Departs (k : Nat) (s t : Session) : Prop where
  silent : Silent s t
  line : KeepsLine (some k) s t
  begun : (t.call k).carrier.hasBegun = true
  queued : (t.call k).carrier.isQueued = false
  link : (t.call k).link = (s.call k).link ∨ (t.call k).carrier.isConnecting = false
  frames : t.frames = s.frames ∨ ∃ f, (t.call k).frame? = some f ∧ t.frames = s.frames ++ [f]
  out : (t.call k).isOut = true →
    ∃ f, (t.call k).frame? = some f ∧ t.frames = s.frames ++ [f]

/-- A carrier may go to the socket: it finds it free, it has its turn, or its connection is there. -/
def Admitted (s : Session) (k : Nat) : Prop :=
  (s.call k).carrier = .fresh ∧ s.locked = false ∧ s.queue.all s.hasLeft = true ∨
    (s.call k).carrier.hasTurn = true ∨ (s.call k).carrier.isConnecting = true

variable {s t u : Session} {active : List Job} {handled : List Handling}

-- ---------------------------------------------------------------------------
-- The line
-- ---------------------------------------------------------------------------

theorem starting_append (s : Session) (is js : List Job) :
    s.starting (is ++ js) = s.starting is ++ s.starting js := by
  simp [starting]

theorem entering_append (s : Session) (is js : List Job) :
    s.entering (is ++ js) = s.entering is ++ s.entering js := by
  simp [entering]

/-- The line depends on carriers and guards, the queue and those jobs only that are theirs. -/
theorem line_congr (hcall : ∀ k, (t.call k).carrier = (s.call k).carrier ∧
      (t.call k).guard = (s.call k).guard) (hqueue : t.queue = s.queue)
    (hcarriers : (active' ++ t.ready).filterMap Job.carrier? =
      (active ++ s.ready).filterMap Job.carrier?)
    (hguards : (active' ++ t.ready).filterMap Job.guard? =
      (active ++ s.ready).filterMap Job.guard?) : t.line active' = s.line active := by
  simp only [line, queued, starting, entering, hqueue, hcarriers, hguards, (hcall _).1, (hcall _).2]

theorem Stays.link_eq (h : Stays (none = some k) c c') : c'.link = c.link :=
  h.link.resolve_left (by simp)

theorem Stays.connecting_of (h : Stays (none = some k) c c')
    (hc : c'.carrier.isConnecting = true) : c.carrier.isConnecting = true :=
  h.connecting.resolve_left (by simp) hc

theorem Stays.out_of (h : Stays (none = some k) c c') (hc : c'.isOut = true) : c.isOut = true :=
  h.out.resolve_left (by simp) hc

theorem KeepsLine.line_sublist (h : KeepsLine who s t) (active : List Job) :
    (t.line []).Sublist (s.line active) := by
  have hqueued : t.queued.Sublist s.queued :=
    (h.queue.filter _).trans (List.monotone_filter_right _ fun k => (h.places k).queued)
  refine hqueued.append (List.Sublist.append ?_ ?_)
  · rw [starting_append s]
    exact h.starting.trans (List.sublist_append_right _ _)
  · rw [entering_append s]
    exact h.entering.trans (List.sublist_append_right _ _)

theorem KeepsLine.queueBegun (h : KeepsLine who s t) (hs : s.QueueBegun) : t.QueueBegun :=
  fun k hk => (h.places k).begun (hs k (h.queue.subset hk))

theorem KeepsLine.shortens (h : KeepsLine none s t) : Shortens active s t where
  request k := (h.places k).request
  link k := (h.places k).link_eq
  connecting k := (h.places k).connecting_of
  out k := (h.places k).out_of
  queue := h.queueBegun
  line := h.line_sublist active
  entering := by
    rw [entering_append]
    exact h.entering.trans (List.sublist_append_right _ _)

-- ---------------------------------------------------------------------------
-- One call changes
-- ---------------------------------------------------------------------------

section

variable {c : Call}

theorem same_of_change {α : Type} {f : Call → α}
    (hcall : ∀ j, t.call j = if j = k then c else s.call j) (hf : f c = f (s.call k)) (j : Nat) :
    f (t.call j) = f (s.call j) := by
  rw [hcall]
  split
  · rename_i hj
    rw [hf, hj]
  · rfl

/-- What is not so of the changed call was so before. -/
theorem of_change {p : Call → Bool} (hcall : ∀ j, t.call j = if j = k then c else s.call j)
    (hc : p c = false) (hj : p (t.call j) = true) : p (s.call j) = true := by
  rw [hcall] at hj
  split at hj
  · exact absurd hj (by simp [hc])
  · exact hj

theorem starting_sublist_of_change (hcall : ∀ j, t.call j = if j = k then c else s.call j)
    (hc : c.carrier.isFresh = false) (js : List Job) : (t.starting js).Sublist (s.starting js) :=
  List.monotone_filter_right _ fun _ => of_change (p := fun x => x.carrier.isFresh) hcall hc

theorem entering_sublist_of_change (hcall : ∀ j, t.call j = if j = k then c else s.call j)
    (hc : c.guard.isFresh = false) (js : List Job) : (t.entering js).Sublist (s.entering js) :=
  List.monotone_filter_right _ fun _ => of_change (p := fun x => x.guard.isFresh) hcall hc

/-- A carrier that has not begun is not in the queue. -/
theorem QueueBegun.not_mem (h : s.QueueBegun) (hx : (s.call k).carrier.hasBegun = false) :
    k ∉ s.queue := fun hk => by
  rw [h k hk] at hx
  cases hx

theorem filter_queue_of_change (hcall : ∀ j, t.call j = if j = k then c else s.call j)
    (hk : k ∉ s.queue) : (s.queue.filter fun j => (t.call j).carrier.isQueued) = s.queued := by
  refine List.filter_congr fun j hj => ?_
  rw [hcall, if_neg fun hjk : j = k => hk (hjk ▸ hj)]

theorem QueueBegun.of_change (h : s.QueueBegun)
    (hcall : ∀ j, t.call j = if j = k then c else s.call j) (hk : k ∉ s.queue) (hj : j ∈ s.queue) :
    (t.call j).carrier.hasBegun = true := by
  rw [hcall, if_neg fun hjk : j = k => hk (hjk ▸ hj)]
  exact h j hj

end

-- ---------------------------------------------------------------------------
-- To the socket
-- ---------------------------------------------------------------------------

theorem Stays.free {c c' : Call} {p : Prop} (h : Stays (none = some k) c c') : Stays p c c' :=
  { h with
    link := .inr h.link_eq
    connecting := .inr h.connecting_of
    out := .inr h.out_of }

theorem KeepsLine.free (h : KeepsLine none s t) : KeepsLine who s t :=
  { h with places := fun k => (h.places k).free }

theorem frame?_eq {c c' : Call} (hlink : c'.link = c.link) (hrequest : c'.request = c.request)
    (hid : c'.id = c.id) : c'.frame? = c.frame? := by
  rw [Call.frame?, hlink, hrequest, hid, Call.frame?]

theorem Steady.departs (h : Steady none s t) (h' : Departs k t u) : Departs k s u where
  silent := h.silent.trans h'.silent
  line := h.line.free.trans h'.line
  begun := h'.begun
  queued := h'.queued
  link := h'.link.imp_left fun hlink => hlink.trans (h.line.places k).link_eq
  frames := by
    rw [← h.frames]
    exact h'.frames
  out := by
    rw [← h.frames]
    exact h'.out

theorem steady_register : Steady (some k) s (s.register k l) := by
  have hlink : Steady (some k) s (s.updateCall k fun c => { c with link := some l }) :=
    steady_updateCall ⟨rfl, rfl, rfl⟩ ⟨rfl, rfl, id, id, id, id, .inl rfl, .inr id, .inr id⟩
  have hresponse {t : Session} {p} :
      Steady (some k) t (t.updateCall k fun c => { c with response := p }) :=
    steady_updateCall ⟨rfl, rfl, rfl⟩ ⟨rfl, rfl, id, id, id, id, .inr rfl, .inr id, .inr id⟩
  unfold Session.register Session.addPending
  split
  · exact (hlink.trans hresponse).trans (steady_congr rfl rfl rfl rfl rfl)
  · exact hlink

theorem steady_registered : Steady (some k) s (s.registered k l) :=
  steady_register.trans (steady_setCarrier rfl (fun hc => by cases hc) (.inl rfl) (.inl rfl))

theorem carrier_finishCarrier (hk : k < s.calls.length) :
    ((s.finishCarrier k o).call k).carrier = .finished o := by
  rw [call_finishCarrier, call_setCarrier_self hk]

theorem not_isOut_of_failed {c : Call} (hx : c.carrier = .finished (.failed e)) :
    c.isOut = false := by
  simp [Call.isOut, hx, Carrier.isOut]

theorem carrier_sendFailed (hk : k < s.calls.length) :
    ∃ e, ((s.sendFailed k f).call k).carrier = .finished (.failed e) := by
  unfold Session.sendFailed
  simp only
  split
  · exact ⟨_, carrier_finishCarrier hk⟩
  · exact ⟨_, carrier_finishCarrier hk⟩

/-- A call comes to the point of sending, and then its frame is sent, or sending fails. -/
theorem departs_send (hk : k < s.calls.length) : Departs k s (s.send k l) := by
  have hregistered : Steady (some k) s (s.registered k l) := steady_registered
  have hcall : (s.registered k l).call k = { s.call k with
      link := some l
      response := if (s.call k).request.expectReturn then some .pending else (s.call k).response
      carrier := .sending .pending } := by
    rw [call_registered hk, if_pos rfl]
  rw [send_eq hk]
  generalize s.registered k l = r at hregistered hcall
  have hlength : k < r.calls.length := by rwa [hregistered.silent.length]
  -- whatever happens from here on leaves the carrier out of the line
  have hdeparts {t} (hsilent : Silent r t) (hline : KeepsLine none r t)
      (hframes : t.frames = r.frames ∨
        ∃ f, (r.call k).frame? = some f ∧ t.frames = r.frames ++ [f])
      (hout : (t.call k).isOut = true →
        ∃ f, (r.call k).frame? = some f ∧ t.frames = r.frames ++ [f]) : Departs k s t := by
    have hplace := hline.places k
    have hframe := frame?_eq hplace.link_eq hplace.request hplace.id
    refine ⟨hregistered.silent.trans hsilent, hregistered.line.trans hline.free, ?_, ?_, .inr ?_, ?_,
      ?_⟩
    · exact hplace.begun (by rw [hcall]; rfl)
    · exact Bool.eq_false_iff.mpr fun hq => by
        have hold := hplace.queued hq
        rw [hcall] at hold
        cases hold
    · exact Bool.eq_false_iff.mpr fun hc => by
        have hold := hplace.connecting_of hc
        rw [hcall] at hold
        cases hold
    · rw [← hregistered.frames, hframe]
      exact hframes
    · rw [← hregistered.frames, hframe]
      exact hout
  have hfailed {t e} (h : Steady none r t) (hx : (t.call k).carrier = .finished (.failed e)) :
      Departs k s t :=
    hdeparts h.silent h.line (.inl h.frames) fun hout => by simp [not_isOut_of_failed hx] at hout
  unfold Session.transmit
  simp only
  split
  · exact hfailed (steady_finishCarrier fun hc => by cases hc) (carrier_finishCarrier hlength)
  · rename_i text hwrite
    have hout : (r.call k).carrier.isOut = true := by
      rw [hcall]
      rfl
    have hsent {t} (h : Steady none (r.note (.sent l text)) t) : Departs k s t := by
      have hnoted : Silent r (r.note (.sent l text)) :=
        silent_congr rfl rfl (by simp [Session.reports, Session.note, Trace.report?])
      have hkept : KeepsLine none r (r.note (.sent l text)) :=
        keepsLine_congr rfl rfl (List.Sublist.refl _)
      have hframe : ∃ f, (r.call k).frame? = some f ∧ t.frames = r.frames ++ [f] := by
        refine ⟨(l, text), ?_, ?_⟩
        · rw [Call.frame?, hwrite, hcall]
        · rw [h.frames]
          simp [Session.frames, Session.note, Trace.frame?]
      exact hdeparts (hnoted.trans h.silent) (hkept.trans h.line) (.inr hframe) fun _ => hframe
    split
    · obtain ⟨e, hx⟩ := carrier_sendFailed hlength
      exact hfailed steady_sendFailed hx
    · split
      · exact hsent (steady_leave rfl rfl rfl fun _ => hout)
      · exact hsent (steady_awaitResponse hout)

theorem steady_openConnection : Steady who s s.openConnection := by
  have hopened : Steady who s { s with
      connections := s.connections ++ [Connection.opened]
      socket := some s.connections.length
      reader := some s.connections.length } := steady_congr rfl rfl rfl rfl rfl
  exact hopened.trans (steady_enqueue rfl fun _ => rfl)

theorem departs_connected (hk : k < s.calls.length) : Departs k s (s.connected k) := by
  have hopened : Steady none s s.openConnection.unlock := steady_openConnection.trans steady_unlock
  exact hopened.departs (departs_send (by rwa [hopened.silent.length]))

theorem departs_of_failed (h : Steady none s t) (hx : (t.call k).carrier = .finished (.failed e)) :
    Departs k s t :=
  ⟨h.silent, h.line.free, by rw [hx]; rfl, by rw [hx]; rfl, .inl (h.line.places k).link_eq,
    .inl h.frames, fun hout => by simp [not_isOut_of_failed hx] at hout⟩

theorem departs_connecting (hk : k < s.calls.length) :
    Departs k s (s.setCarrier k (.connecting a .pending)) := by
  have hset : Steady (some k) s (s.setCarrier k (.connecting a .pending)) :=
    steady_setCarrier rfl (fun hq => by cases hq) (.inl rfl) (.inl rfl)
  refine ⟨hset.silent, hset.line, ?_, ?_, .inl ?_, .inl hset.frames, fun hout => ?_⟩
  · rw [call_setCarrier_self hk]
    rfl
  · rw [call_setCarrier_self hk]
    rfl
  · rw [call_setCarrier_self hk]
  · rw [call_setCarrier_self hk] at hout
    simp [Call.isOut, Carrier.isOut] at hout

theorem departs_notConnected (hk : k < s.calls.length) : Departs k s (s.notConnected k f) := by
  have hunlocked : Steady none s s.unlock := steady_unlock
  refine departs_of_failed steady_notConnected (carrier_finishCarrier ?_)
  rwa [hunlocked.silent.length]

theorem departs_connect (hk : k < s.calls.length) : Departs k s (s.connect k) := by
  have hbegun : Steady none s { s with
      attempts := s.attempts ++ [k]
      network := { s.network with attempts := s.network.attempts.drop 1 } } :=
    steady_congr rfl rfl rfl rfl rfl
  have hattempt := hbegun.trans (steady_note (x := .connecting s.attempts.length
    (Address.socket s.address) (s.customEncryption && Address.isEncrypted (Address.socket s.address))) rfl rfl)
  unfold Session.connect
  simp only
  split
  · exact hattempt.departs (departs_connected hk)
  · exact hattempt.departs (departs_connecting hk)
  · exact hattempt.departs (departs_notConnected hk)

theorem departs_useSocket (hk : k < s.calls.length) : Departs k s (s.useSocket k) := by
  have hlocked : Steady none s { s with locked := true } := steady_congr rfl rfl rfl rfl rfl
  unfold Session.useSocket
  simp only
  split
  · have hpassed := hlocked.trans steady_unlock
    exact hpassed.departs (departs_send (by rwa [hpassed.silent.length]))
  · exact hlocked.departs (departs_connect hk)

-- ---------------------------------------------------------------------------
-- Carriers at work
-- ---------------------------------------------------------------------------

def CarrierMoves (k : Nat) (s t : Session) : Prop :=
  (Silent s t ∧ t.frames = s.frames ∧ (∀ j, (t.call j).id = (s.call j).id) ∧
      Shortens [.carrier k] s t) ∨
    s.Admitted k ∧ Departs k s t

theorem Steady.carrierMoves (h : Steady none s t) : CarrierMoves k s t :=
  .inl ⟨h.silent, h.frames, fun j => (h.line.places j).id, h.line.shortens⟩

/-- A carrier that is to begin takes its place at the end of the queue, before all who are to begin
after it. -/
theorem shortens_queue (hx : (s.call k).carrier = .fresh) (hbegun : s.QueueBegun)
    (hqueue : t.queue = s.queue ++ [k]) (hready : t.ready = s.ready)
    (hcall : ∀ j, t.call j = if j = k then
      { s.call k with carrierCancelled := b, carrier := .queueing .pending } else s.call j) :
    (∀ j, (t.call j).id = (s.call j).id) ∧ Shortens [.carrier k] s t := by
  have hout : k ∉ s.queue := hbegun.not_mem (by rw [hx]; rfl)
  have hqueued : t.queued = s.queued ++ [k] := by
    rw [queued, hqueue, List.filter_append, filter_queue_of_change hcall hout]
    simp [hcall, Carrier.isQueued, Promise.isWithdrawn]
  have hstarting : (t.starting t.ready).Sublist (s.starting s.ready) :=
    hready ▸ starting_sublist_of_change hcall rfl s.ready
  have hentering : t.entering t.ready = s.entering s.ready := by
    simp only [entering, hready, same_of_change (f := Call.guard) hcall rfl]
  have hfirst : s.starting ([.carrier k] ++ s.ready) = k :: s.starting s.ready := by
    simp [starting, Job.carrier?, hx, Carrier.isFresh]
  refine ⟨same_of_change hcall rfl, same_of_change hcall rfl, same_of_change hcall rfl,
    fun j => of_change (p := fun x => x.carrier.isConnecting) hcall rfl,
    fun j => of_change (p := Call.isOut) hcall (by simp [Call.isOut, Carrier.isOut]),
    fun _ j hj => ?_, ?_, ?_⟩
  · rw [hqueue, List.mem_append, List.mem_singleton] at hj
    rcases hj with hj | rfl
    · exact hbegun.of_change hcall hout hj
    · rw [hcall, if_pos rfl]
      rfl
  · rw [line, line, hqueued, hfirst, List.nil_append, hentering, entering_append, List.append_assoc]
    exact (List.Sublist.refl _).append ((hstarting.append (List.Sublist.refl _)).cons_cons k)
  · rw [hentering, entering_append]
    exact List.sublist_append_right _ _

theorem hasLeft_uncancel :
    (s.updateCall k fun c => { c with carrierCancelled := b }).hasLeft = s.hasLeft := by
  funext j
  have hcarrier : ((s.updateCall k fun c => { c with carrierCancelled := b }).call j).carrier =
      (s.call j).carrier := by
    rw [call_updateCall]
    split
    · rename_i hj
      rw [hj.1]
    · rfl
  rw [hasLeft, hcarrier, hasLeft]

theorem carrierMoves_takeTurn (hk : k < s.calls.length) (hx : (s.call k).carrier = .fresh)
    (hbegun : s.QueueBegun) :
    CarrierMoves k s ((s.updateCall k fun c => { c with carrierCancelled := b }).takeTurn k) := by
  have hflag : Steady none s (s.updateCall k fun c => { c with carrierCancelled := b }) :=
    steady_uncancel
  unfold Session.takeTurn
  rw [hasLeft_uncancel]
  split
  · rename_i hfree
    simp only [Bool.and_eq_true, Bool.not_eq_eq_eq_not, Bool.not_true] at hfree
    exact .inr ⟨.inl ⟨hx, hfree.1, hfree.2⟩, hflag.departs (departs_useSocket (by simpa using hk))⟩
  · have hqueue {q : List Nat} : Silent s
        { s.updateCall k (fun c => { c with carrierCancelled := b }) with queue := q } :=
      hflag.silent.trans (silent_congr rfl rfl rfl)
    refine .inl ⟨hqueue.trans (silent_updateCall ⟨rfl, rfl, rfl⟩), rfl,
      shortens_queue (b := b) hx hbegun rfl rfl fun j => ?_⟩
    rw [call_setCarrier (by simpa using hk)]
    split
    · exact congrArg (fun c : Call => { c with carrier := .queueing .pending })
        (call_updateCall_self hk)
    · exact call_updateCall_ne ‹_›

theorem steady_endQueueing : Steady none s (s.endQueueing k true) := by
  have hleft : Steady none s { s with queue := s.queue.erase k } := steady_queue List.erase_sublist
  unfold Session.endQueueing
  simp only [if_true]
  split
  · exact hleft.trans (steady_finishCarrier fun hc => by cases hc)
  · exact hleft.trans (steady_passTurn.trans (steady_finishCarrier fun hc => by cases hc))

theorem departs_endQueueing (hk : k < s.calls.length) : Departs k s (s.endQueueing k false) := by
  have hleft : Steady none s { s with queue := s.queue.erase k } := steady_queue List.erase_sublist
  exact hleft.departs (departs_useSocket hk)

theorem carrierMoves_stepCarrier (hk : k < s.calls.length) (hready : (s.call k).isReady)
    (hbegun : s.QueueBegun) : CarrierMoves k s (s.stepCarrier k) := by
  unfold Session.stepCarrier
  simp only
  have hflag : Steady none s (s.updateCall k fun c => { c with carrierCancelled := false }) :=
    steady_uncancel
  have hsteady {t} (h : Steady none (s.updateCall k fun c => { c with carrierCancelled := false }) t) :
      CarrierMoves k s t := (hflag.trans h).carrierMoves
  have hcarrier : ((s.updateCall k fun c => { c with carrierCancelled := false }).call k).carrier =
      (s.call k).carrier := carrier_noticed
  have hgiven {t} (h : Steady none (s.updateCall k fun c => { c with carrierCancelled := false }) t) :
      Steady none (s.updateCall k fun c => { c with carrierCancelled := false })
        (t.finishCarrier k .cancelled) := h.trans (steady_finishCarrier fun hc => by cases hc)
  split
  · rename_i hx
    split
    · exact hsteady (hgiven steady_refl)
    · split
      · rename_i hhttp
        refine hsteady (steady_post ?_)
        rw [call_updateCall_self hk]
        exact hhttp
      · exact carrierMoves_takeTurn hk hx hbegun
  · rename_i turn hx
    cases hleft : (s.call k).carrierCancelled || turn.isWithdrawn with
    | true => exact hsteady steady_endQueueing
    | false =>
      have hturn : (s.call k).carrier.hasTurn = true := by
        cases turn <;> simp_all [Call.isReady, Carrier.isReady, Carrier.hasTurn, Promise.isPending,
          Promise.isWithdrawn]
      exact .inr ⟨.inr (.inl hturn), hflag.departs (departs_endQueueing (by simpa using hk))⟩
  · rename_i hx
    split
    · exact .inr ⟨.inr (.inr (by rw [hx]; rfl)), hflag.departs (departs_connected (by simpa using hk))⟩
    · exact hsteady steady_notConnected
    · exact hsteady (hgiven steady_unlock)
  · rename_i hx
    split
    · exact hsteady (steady_finishCarrier fun _ => by rw [hcarrier, hx]; rfl)
    · exact hsteady (hgiven steady_refl)
  · rename_i hx
    split
    · exact hsteady (steady_awaitResponse (by rw [hcarrier, hx]; rfl))
    · exact hsteady steady_sendFailed
    · exact hsteady (hgiven steady_refl)
  · rename_i hx
    split
    · exact hsteady (steady_finishCarrier fun _ => by rw [hcarrier, hx]; rfl)
    · exact hsteady (hgiven steady_refl)
  · exact hflag.carrierMoves
  · exact hflag.carrierMoves

-- ---------------------------------------------------------------------------
-- Guards at work
-- ---------------------------------------------------------------------------

/-- What the work of a guard comes to: numbers stay, or its own call gets the next one and is not
among those that are to begin any more. -/
structure GuardMoves (k : Nat) (s t : Session) : Prop where
  frames : t.frames = s.frames
  line : Shortens [.guard k] s t
  id : (∀ j, (t.call j).id = (s.call j).id) ∨
    (s.call k).guard = .fresh ∧ (t.entering t.ready).Sublist (s.entering s.ready) ∧
      ∀ j, (t.call j).id = if j = k then some s.nextId else (s.call j).id

theorem KeepsLine.guardMoves (h : KeepsLine none s t) (hframes : t.frames = s.frames) :
    GuardMoves k s t :=
  ⟨hframes, h.shortens, .inl fun j => (h.places j).id⟩

theorem GuardMoves.keepsLine (h : GuardMoves k s t) (h' : KeepsLine none t u)
    (hframes : u.frames = t.frames) : GuardMoves k s u where
  frames := hframes.trans h.frames
  line :=
    { request := fun j => (h'.places j).request.trans (h.line.request j)
      link := fun j => (h'.places j).link_eq.trans (h.line.link j)
      connecting := fun j hc => h.line.connecting j ((h'.places j).connecting_of hc)
      out := fun j hc => h.line.out j ((h'.places j).out_of hc)
      queue := fun hbegun => h'.queueBegun (h.line.queue hbegun)
      line := (h'.line_sublist []).trans h.line.line
      entering := h'.entering.trans h.line.entering }
  id := by
    rcases h.id with hid | ⟨hfresh, hentering, hid⟩
    · exact .inl fun j => (h'.places j).id.trans (hid j)
    · exact .inr ⟨hfresh, h'.entering.trans hentering, fun j => (h'.places j).id.trans (hid j)⟩

/-- A call that begins is numbered, and its carrier is the last one to begin, if it has one: it stands
behind all other carriers, and before all calls that are to begin after it. -/
theorem guardMoves_number {c : Call} (hfresh : (s.call k).guard = .fresh)
    (habsent : (s.call k).carrier = .absent) (hnone : .carrier k ∉ s.ready)
    (hbegun : s.QueueBegun) (hcall : ∀ j, t.call j = if j = k then c else s.call j)
    (hqueue : t.queue = s.queue) (hframes : t.frames = s.frames)
    (hrequest : c.request = (s.call k).request) (hlink : c.link = (s.call k).link)
    (hid : c.id = some s.nextId) (hguard : c.guard.isFresh = false)
    (hcarrier : c.carrier = .absent ∧ t.ready = s.ready ∨
      c.carrier = .fresh ∧ t.ready = s.ready ++ [.carrier k]) : GuardMoves k s t := by
  have hout : k ∉ s.queue := hbegun.not_mem (by rw [habsent]; rfl)
  have hqueued : t.queued = s.queued := by
    rw [queued, hqueue, filter_queue_of_change hcall hout]
  have hothers : t.starting s.ready = s.starting s.ready := by
    refine List.filter_congr fun j hj => ?_
    rw [hcall, if_neg]
    rintro rfl
    obtain ⟨i, hi, hij⟩ := List.mem_filterMap.mp hj
    cases i <;> simp only [Job.carrier?, reduceCtorEq, Option.some.injEq] at hij
    exact hnone (hij ▸ hi)
  have hstarting : (t.starting t.ready).Sublist (s.starting s.ready ++ [k]) := by
    rcases hcarrier with ⟨-, hready⟩ | ⟨hx, hready⟩
    · rw [hready, hothers]
      exact List.sublist_append_left _ _
    · rw [hready, starting_append, hothers]
      simp [starting, Job.carrier?, hcall, hx, Carrier.isFresh]
  have hentering : (t.entering t.ready).Sublist (s.entering s.ready) := by
    have hjobs : t.entering t.ready = t.entering s.ready := by
      rcases hcarrier with ⟨-, hready⟩ | ⟨-, hready⟩
      · rw [hready]
      · rw [hready, entering_append]
        simp [entering, Job.guard?]
    rw [hjobs]
    exact entering_sublist_of_change hcall hguard s.ready
  have hconnecting : c.carrier.isConnecting = false := by
    rcases hcarrier with ⟨hx, -⟩ | ⟨hx, -⟩ <;> rw [hx] <;> rfl
  have hquiet : c.isOut = false := by
    rcases hcarrier with ⟨hx, -⟩ | ⟨hx, -⟩ <;> simp [Call.isOut, hx, Carrier.isOut]
  have hfirst : s.entering ([.guard k] ++ s.ready) = k :: s.entering s.ready := by
    simp [entering, Job.guard?, hfresh, Guard.isFresh]
  have hnobody : s.starting ([.guard k] ++ s.ready) = s.starting s.ready := rfl
  refine ⟨hframes, ⟨same_of_change hcall hrequest, same_of_change hcall hlink,
    fun j => of_change (p := fun x => x.carrier.isConnecting) hcall hconnecting,
    fun j => of_change (p := Call.isOut) hcall hquiet,
    fun _ j hj => hbegun.of_change hcall hout (hqueue ▸ hj), ?_, ?_⟩,
    .inr ⟨hfresh, hentering, fun j => ?_⟩⟩
  · rw [line, line, hqueued, hfirst, hnobody, List.nil_append]
    refine (List.Sublist.refl _).append ?_
    rw [List.append_cons]
    exact hstarting.append hentering
  · rw [hfirst]
    exact hentering.cons k
  · rw [hcall]
    split
    · exact hid
    · rfl

theorem guardMoves_startCall (h : Scheduled [.guard k] s) (hfresh : (s.call k).guard = .fresh)
    (habsent : (s.call k).carrier = .absent) (hbegun : s.QueueBegun) :
    GuardMoves k s ((s.updateCall k fun c => { c with guardCancelled := b }).startCall k) := by
  have hk : k < s.calls.length := (h.guard_isReady (List.mem_singleton.mpr rfl)).1
  have hflag : Steady none s (s.updateCall k fun c => { c with guardCancelled := b }) :=
    steady_flagGuard
  have hnone : .carrier k ∉ s.ready := fun hmem => by
    have hcount := h.carriers k
    rw [if_neg (by simp [Call.isReady, habsent]; rfl), List.countP_eq_zero] at hcount
    exact hcount _ (List.mem_append_right _ hmem) (by simp [Job.isCarrier])
  have hends {o} : GuardMoves k s
      ((s.updateCall k fun c => { c with guardCancelled := b }).finishGuard k o) :=
    (hflag.line.trans keepsLine_finishGuard).guardMoves rfl
  have hnumber (j : Nat) :
      (((s.updateCall k fun c => { c with guardCancelled := b }).number k).call j) =
        if j = k then { s.call k with
          guardCancelled := b, id := some s.nextId, guard := .waiting .pending } else s.call j := by
    rw [call_number, length_updateCall, call_updateCall_self hk]
    by_cases hj : j = k
    · rw [if_pos ⟨hj, hk⟩, if_pos hj]
      rfl
    · rw [if_neg fun h => hj h.1, if_neg hj, call_updateCall_ne hj]
  have hlaunch {t : Session} (hcalls : t.calls =
        ((s.updateCall k fun c => { c with guardCancelled := b }).number k).calls)
      (hqueue : t.queue = s.queue) (hready : t.ready = s.ready) (hframes : t.frames = s.frames) :
      GuardMoves k s (t.startCarrier k) ∧ ((t.startCarrier k).call k).outcome? = none := by
    have hcall (i : Nat) : t.call i =
        ((s.updateCall k fun c => { c with guardCancelled := b }).number k).call i := by
      rw [Session.call, hcalls, Session.call]
    have hlength : k < t.calls.length := by
      rw [hcalls]
      simpa [Session.number] using hk
    have hlaunched (j : Nat) : (t.startCarrier k).call j =
        if j = k then { s.call k with
          guardCancelled := b, id := some s.nextId, guard := .waiting .pending, carrier := .fresh }
        else s.call j := by
      show (t.setCarrier k .fresh).call j = _
      rw [call_setCarrier hlength, hcall, hcall, hnumber, hnumber, if_pos rfl]
      split <;> rfl
    have hjobs : (t.startCarrier k).ready = s.ready ++ [.carrier k] := by
      rw [← hready]
      exact ready_enqueue
    refine ⟨guardMoves_number hfresh habsent hnone hbegun hlaunched hqueue hframes rfl rfl rfl rfl
      (.inr ⟨rfl, hjobs⟩), ?_⟩
    rw [hlaunched, if_pos rfl]
    rfl
  unfold Session.startCall
  split
  · exact hends
  · split
    · exact hends
    · simp only
      split
      · exact (guardMoves_number hfresh habsent hnone hbegun hnumber rfl rfl rfl rfl rfl rfl
          (.inl ⟨habsent, rfl⟩)).keepsLine keepsLine_finishGuard rfl
      · obtain ⟨hmoves, hunended⟩ := hlaunch rfl rfl rfl rfl
        have hstop : Steady none _ (Session.stop _ k true) := steady_stop hunended
        exact hmoves.keepsLine hstop.line hstop.frames
      · refine (hlaunch ?_ ?_ ?_ ?_).1 <;> rfl

theorem guardMoves_stepGuard (h : Scheduled [.guard k] s)
    (habsent : (s.call k).guard = .fresh → (s.call k).carrier = .absent) (hbegun : s.QueueBegun) :
    GuardMoves k s (s.stepGuard k) := by
  have hflag : Steady none s (s.updateCall k fun c => { c with guardCancelled := false }) :=
    steady_flagGuard
  have hends {o} : GuardMoves k s
      ((s.updateCall k fun c => { c with guardCancelled := false }).finishGuard k o) :=
    (hflag.line.trans keepsLine_finishGuard).guardMoves rfl
  have hk : k < s.calls.length := (h.guard_isReady (List.mem_singleton.mpr rfl)).1
  have htimed : GuardMoves k s
      ((s.updateCall k fun c => { c with guardCancelled := false }).timeOut k) :=
    (hflag.line.trans (steady_forget.line.trans keepsLine_finishGuard)).guardMoves rfl
  unfold Session.stepGuard
  simp only
  split
  · rename_i hfresh
    split
    · exact hends
    · exact guardMoves_startCall h hfresh (habsent hfresh) hbegun
  · rename_i hg
    split
    · exact hends
    · have hunended :
          ((s.updateCall k fun c => { c with guardCancelled := false }).call k).outcome? = none := by
        rw [call_updateCall_self hk, Call.outcome?, hg]
      have hstop {b : Bool} : Steady none s
          ((s.updateCall k fun c => { c with guardCancelled := false }).stop k b) :=
        hflag.trans (steady_stop hunended)
      exact hstop.line.guardMoves hstop.frames
  · split
    · exact hends
    · split
      · exact htimed
      · exact hends
      · exact htimed
  · exact hflag.line.guardMoves rfl

end Session

end Farcall
