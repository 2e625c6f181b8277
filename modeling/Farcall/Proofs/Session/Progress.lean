import Farcall.Proofs.Session.Links
import Farcall.Proofs.Session.Responses
import Farcall.Proofs.Session.Standings

/-!
# What each part of the work does

Each part of the work of a session takes every call through some of the steps that a call can take. All
but the work of a carrier on its way to the network is quiet: nothing is posted, sent or connected.
-/

namespace Farcall

def Trace.isOutbound : Trace → Bool
  | .posted _ _ _ => true
  | .connecting _ _ _ => true
  | .sent _ _ => true
  | _ => false

namespace Session

open Standing (Step Steps)

def isNoted (s : Session) (k : Nat) : Bool := s.pending.any (·.2 == k)

def standing (s : Session) (k : Nat) : Standing := ⟨s.call k, s.isNoted k⟩

def outbound (s : Session) : List Trace := s.traces.filter Trace.isOutbound

/-- All calls go on the way they can, and closing is left alone. -/
structure Advances (isOpen : Bool) (s t : Session) : Prop where
  steps : ∀ k, Steps isOpen (s.standing k) (t.standing k)
  closed : t.closed = s.closed
  closing : t.closing = s.closing

/-- Besides, no call becomes pending, nothing goes out, and no transport comes into use. -/
structure Quiet (isOpen : Bool) (s t : Session) : Prop extends Advances isOpen s t where
  pending : t.pending ⊆ s.pending
  connections : t.connections.length = s.connections.length
  outbound : t.outbound = s.outbound
  socket : t.socket = s.socket ∨ t.socket = none
  http : t.httpOpen = s.httpOpen

variable {s t u : Session} {isOpen : Bool} {handled : List Handling}

theorem Advances.trans (h : Advances isOpen s t) (h' : Advances isOpen t u) : Advances isOpen s u where
  steps k := (h.steps k).trans (h'.steps k)
  closed := h'.closed.trans h.closed
  closing := h'.closing.trans h.closing

theorem Advances.quiet (h : Advances isOpen s t) (h' : Quiet isOpen t u) : Advances isOpen s u :=
  h.trans h'.toAdvances

theorem released_trans {a b c : Option Nat} (h : b = a ∨ b = none) (h' : c = b ∨ c = none) :
    c = a ∨ c = none := by
  rcases h' with rfl | hc
  · exact h
  · exact .inr hc

theorem Quiet.trans (h : Quiet isOpen s t) (h' : Quiet isOpen t u) : Quiet isOpen s u where
  toAdvances := h.toAdvances.trans h'.toAdvances
  pending := List.Subset.trans h'.pending h.pending
  connections := h'.connections.trans h.connections
  outbound := h'.outbound.trans h.outbound
  socket := released_trans h.socket h'.socket
  http := h'.http.trans h.http

-- ---------------------------------------------------------------------------
-- Small changes
-- ---------------------------------------------------------------------------

theorem standing_eq (hcalls : t.calls = s.calls) (hpending : t.pending = s.pending) (k : Nat) :
    t.standing k = s.standing k := by
  rw [standing, Session.call, hcalls, isNoted, hpending]
  rfl

theorem advances_congr (hcalls : t.calls = s.calls) (hpending : t.pending = s.pending)
    (hclosed : t.closed = s.closed) (hclosing : t.closing = s.closing) : Advances isOpen s t where
  steps k := by rw [standing_eq hcalls hpending]
  closed := hclosed
  closing := hclosing

theorem quiet_congr (hcalls : t.calls = s.calls) (hpending : t.pending = s.pending)
    (hclosed : t.closed = s.closed) (hclosing : t.closing = s.closing)
    (hconnections : t.connections.length = s.connections.length) (houtbound : t.outbound = s.outbound)
    (hsocket : t.socket = s.socket ∨ t.socket = none) (hhttp : t.httpOpen = s.httpOpen) :
    Quiet isOpen s t where
  toAdvances := advances_congr hcalls hpending hclosed hclosing
  pending := hpending ▸ List.Subset.refl _
  connections := hconnections
  outbound := houtbound
  socket := hsocket
  http := hhttp

theorem quiet_refl : Quiet isOpen s s := quiet_congr rfl rfl rfl rfl rfl rfl (.inl rfl) rfl

theorem quiet_enqueue : Quiet isOpen s (s.enqueue j) :=
  quiet_congr rfl rfl rfl rfl rfl rfl (.inl rfl) rfl

theorem quiet_note (h : x.isOutbound = false) : Quiet isOpen s (s.note x) := by
  refine quiet_congr rfl rfl rfl rfl rfl ?_ (.inl rfl) rfl
  simp [Session.outbound, Session.note, h]

theorem standing_updateCall : (s.updateCall k f).standing j =
    if j = k ∧ k < s.calls.length then ⟨f (s.call k), s.isNoted k⟩ else s.standing j := by
  simp only [standing, call_updateCall]
  split
  · rename_i hj
    rw [hj.1]
    rfl
  · rfl

theorem quiet_updateCall
    (h : k < s.calls.length → Step isOpen (s.standing k) ⟨f (s.call k), s.isNoted k⟩) :
    Quiet isOpen s (s.updateCall k f) := by
  refine ⟨⟨fun j => ?_, rfl, rfl⟩, List.Subset.refl _, rfl, rfl, .inl rfl, rfl⟩
  rw [standing_updateCall]
  split
  · rename_i hj
    rw [hj.1]
    exact .single (h hj.2)
  · exact .refl

theorem isNoted_of_subset (h : t.pending ⊆ s.pending) (hk : t.isNoted k = true) :
    s.isNoted k = true := by
  obtain ⟨e, he, hek⟩ := List.any_eq_true.mp hk
  exact List.any_eq_true.mpr ⟨e, h he, hek⟩

theorem quiet_pending (h : p ⊆ s.pending) : Quiet isOpen s { s with pending := p } := by
  refine ⟨⟨fun k => ?_, rfl, rfl⟩, h, rfl, rfl, .inl rfl, rfl⟩
  cases hk : isNoted { s with pending := p } k with
  | true =>
    have hold : s.isNoted k = true := isNoted_of_subset (s := s) h hk
    rw [standing, standing, hk, hold]
    exact .refl
  | false =>
    rw [standing, standing, hk]
    exact .single .forget

theorem quiet_forget : Quiet isOpen s (s.forget n) :=
  quiet_pending List.filter_sublist.subset

theorem quiet_updateConnection : Quiet isOpen s (s.updateConnection l g) :=
  quiet_congr rfl rfl rfl rfl (by simp [Session.updateConnection]) rfl (.inl rfl) rfl

-- ---------------------------------------------------------------------------
-- Carriers
-- ---------------------------------------------------------------------------

theorem quiet_setCarrier
    (h : Step isOpen (s.standing k) ⟨{ s.call k with carrier := x }, s.isNoted k⟩) :
    Quiet isOpen s (s.setCarrier k x) :=
  quiet_updateCall fun _ => h

theorem quiet_wakeCarrier
    (h : Step isOpen (s.standing k) ⟨{ s.call k with carrier := x }, s.isNoted k⟩) :
    Quiet isOpen s (s.wakeCarrier k x) :=
  (quiet_setCarrier h).trans quiet_enqueue

theorem quiet_finishCarrier (hx : (s.call k).carrier.isAtWork = true)
    (ho : (s.call k).carrier.isSent = true → s.isNoted k = true →
      (s.call k).response = some .pending ∨ (s.call k).response = some .withdrawn →
        (s.call k).Leaves o) : Quiet isOpen s (s.finishCarrier k o) := by
  have hset : Quiet isOpen s (s.setCarrier k (.finished o)) := quiet_setCarrier (.finish hx ho)
  unfold Session.finishCarrier
  simp only
  split
  · exact hset.trans quiet_enqueue
  · exact hset.trans quiet_enqueue
  · exact hset

theorem quiet_finishCarrier_out (hx : (s.call k).carrier.isSettingOut = true) :
    Quiet isOpen s (s.finishCarrier k o) := by
  refine quiet_finishCarrier (Standing.isAtWork_of_isSettingOut hx) fun hsent => ?_
  rw [Standing.not_isSent_of_isSettingOut hx] at hsent
  cases hsent

theorem quiet_passTurn : Quiet isOpen s s.passTurn := by
  unfold Session.passTurn
  split
  · exact quiet_refl
  · split
    · rename_i hx
      refine quiet_wakeCarrier (.move ?_ rfl ?_ ?_) <;> simp [hx, Carrier.isAtWork, Carrier.isSent,
        Carrier.isSettingOut]
    · exact quiet_refl

theorem quiet_unlock : Quiet isOpen s s.unlock := by
  have hunlocked : Quiet isOpen s { s with locked := false } :=
    quiet_congr rfl rfl rfl rfl rfl rfl (.inl rfl) rfl
  exact hunlocked.trans quiet_passTurn

theorem settingOut_passTurn (hx : (s.call k).carrier.isSettingOut = true) :
    (s.passTurn.call k).carrier.isSettingOut = true := by
  unfold Session.passTurn
  split
  · exact hx
  · rename_i j _ _
    split
    · change ((s.setCarrier j _).call k).carrier.isSettingOut = true
      rw [Session.setCarrier, call_updateCall]
      split
      · rfl
      · exact hx
    · exact hx

theorem settingOut_unlock (hx : (s.call k).carrier.isSettingOut = true) :
    (s.unlock.call k).carrier.isSettingOut = true :=
  settingOut_passTurn (s := { s with locked := false }) hx

theorem quiet_awaitResponse (hx : (s.call k).carrier = .sending p) :
    Quiet isOpen s (s.awaitResponse k) := by
  have hwork : (s.call k).carrier.isAtWork = true := by
    rw [hx]
    rfl
  unfold Session.awaitResponse
  split
  · rename_i hr
    exact quiet_finishCarrier hwork fun _ _ h => by simp [hr] at h
  · refine quiet_setCarrier (.move hwork rfl ?_ ?_) <;> simp [hx, Carrier.isSent, Carrier.isSettingOut]
  · rename_i hr
    exact quiet_finishCarrier hwork fun _ _ h => by simp [hr] at h
  · exact quiet_finishCarrier hwork fun _ _ _ => .cancelled

/-- Once its number is forgotten, a call is not noted as pending. -/
theorem Correlated.not_isNoted_forget (h : Correlated handled s) :
    (s.forget ((s.call k).id.getD 0)).isNoted k = false := by
  refine List.any_eq_false.mpr fun e he hk => ?_
  obtain ⟨he, hne⟩ := List.mem_filter.mp he
  rw [beq_iff_eq] at hk
  have hid := h.pending e he
  rw [hk] at hid
  simp [hid] at hne

theorem quiet_sendFailed (h : Correlated handled s) (hx : (s.call k).carrier.isAtWork = true) :
    Quiet isOpen s (s.sendFailed k f) := by
  unfold Session.sendFailed
  simp only
  split
  · refine quiet_forget.trans (quiet_finishCarrier hx fun _ hn => ?_)
    rw [h.not_isNoted_forget] at hn
    cases hn
  · rename_i hf
    exact quiet_finishCarrier hx fun _ _ _ => .unsent (by simpa using hf)

-- ---------------------------------------------------------------------------
-- Setting out
-- ---------------------------------------------------------------------------

theorem setCarrier_setCarrier : (s.setCarrier k x).setCarrier k y = s.setCarrier k y := by
  simp [Session.setCarrier, Session.updateCall, List.modify_modify_eq, Function.comp_def]

theorem call_setCarrier_self (hk : k < s.calls.length) :
    (s.setCarrier k x).call k = { s.call k with carrier := x } := by
  rw [call_setCarrier hk, if_pos rfl]

theorem finishCarrier_setCarrier : (s.setCarrier k x).finishCarrier k o = s.finishCarrier k o := by
  simp only [Session.finishCarrier, setCarrier_setCarrier]

theorem awaitResponse_setCarrier (hk : k < s.calls.length) :
    (s.setCarrier k x).awaitResponse k = s.awaitResponse k := by
  simp only [Session.awaitResponse, call_setCarrier_self hk, finishCarrier_setCarrier,
    setCarrier_setCarrier]

theorem sendFailed_setCarrier (hk : k < s.calls.length) :
    (s.setCarrier k x).sendFailed k f = s.sendFailed k f := by
  have hforget : (s.setCarrier k x).forget ((s.call k).id.getD 0) =
      (s.forget ((s.call k).id.getD 0)).setCarrier k x := rfl
  simp only [Session.sendFailed, call_setCarrier_self hk, hforget, finishCarrier_setCarrier]

/-- Where the carrier stands does not matter for what sending does. -/
theorem transmit_setCarrier (hk : k < s.calls.length) :
    (s.setCarrier k x).transmit k l = s.transmit k l := by
  have hnote (text : String) : (s.setCarrier k x).note (.sent l text) =
      (s.note (.sent l text)).setCarrier k x := rfl
  have hnetwork : (s.setCarrier k x).network = s.network := rfl
  have hawait (text : String) : ((s.note (.sent l text)).setCarrier k x).awaitResponse k =
      (s.note (.sent l text)).awaitResponse k := awaitResponse_setCarrier hk
  simp only [Session.transmit, call_setCarrier_self hk, hnote, hnetwork, hawait,
    finishCarrier_setCarrier, setCarrier_setCarrier, sendFailed_setCarrier hk]
  rfl

def registered (s : Session) (k l : Nat) : Session :=
  (s.register k l).setCarrier k (.sending .pending)

theorem send_eq (hk : k < s.calls.length) : s.send k l = (s.registered k l).transmit k l := by
  have hlength : k < (s.register k l).calls.length := by
    unfold Session.register Session.addPending
    split <;> simpa [Session.updateCall] using hk
  exact (transmit_setCarrier hlength).symm

theorem call_registered (hk : k < s.calls.length) : (s.registered k l).call j = if j = k then
    { s.call k with
      link := some l
      response := if (s.call k).request.expectReturn then some .pending else (s.call k).response
      carrier := .sending .pending }
    else s.call j := by
  have hlink := call_updateCall_self (f := fun c => { c with link := some l }) hk
  unfold Session.registered Session.register Session.addPending Session.setCarrier
  rw [hlink]
  by_cases hreturn : (s.call k).request.expectReturn = true
  · simp only [hreturn, if_true]
    change (((s.updateCall k _).updateCall k _).updateCall k _).call j = _
    by_cases hj : j = k
    · simp [call_updateCall, hj, hk]
    · simp [call_updateCall, hj]
  · simp only [hreturn]
    by_cases hj : j = k
    · simp [call_updateCall, hj, hk]
    · simp [call_updateCall, hj]

theorem isNoted_registered (hk : k < s.calls.length) : (s.registered k l).isNoted j =
    (s.isNoted j || (j == k && (s.call k).request.expectReturn)) := by
  have hlink := call_updateCall_self (f := fun c => { c with link := some l }) hk
  unfold Session.registered Session.register Session.addPending isNoted
  rw [hlink]
  by_cases hreturn : (s.call k).request.expectReturn = true
  · simp only [hreturn, if_true, Bool.and_true]
    change (s.pending ++ [(_, k)]).any _ = _
    rw [List.any_append, List.any_cons, List.any_nil, Bool.or_false, BEq.comm]
  · simp only [hreturn, Bool.and_false, Bool.or_false]
    rfl

theorem advances_registered (hx : (s.call k).carrier.isSettingOut = true) :
    Advances isOpen s (s.registered k l) := by
  have hk : k < s.calls.length := lt_of_carrier fun habsent => by
    rw [habsent] at hx
    cases hx
  refine ⟨fun j => ?_, ?_, ?_⟩
  · rw [standing, standing, call_registered hk, isNoted_registered hk]
    by_cases hj : j = k
    · subst hj
      simp only [if_true, beq_self_eq_true, Bool.true_and]
      exact .single (.register hx)
    · simp only [if_neg hj, beq_eq_false_iff_ne.mpr hj, Bool.false_and, Bool.or_false]
      exact .refl
  · unfold Session.registered Session.register Session.addPending
    split <;> rfl
  · unfold Session.registered Session.register Session.addPending
    split <;> rfl

theorem Correlated.registered (h : Correlated handled s) (hid : (s.call k).id ≠ none) :
    Correlated handled (s.registered k l) := by
  have hid' : ((s.register k l).call k).id ≠ none := by rwa [id_of_card card_register]
  refine (h.register hid).setCarrier hid' fun hreturn => ?_
  rw [request_of_card card_register] at hreturn
  rw [response_register hid hreturn]
  exact Option.some_ne_none _

theorem Advances.note (h : Advances isOpen s t) : Advances isOpen s (t.note x) :=
  ⟨h.steps, h.closed, h.closing⟩

theorem advances_transmit (h : Correlated handled s) (hx : (s.call k).carrier = .sending p) :
    Advances isOpen s (s.transmit k l) := by
  have hwork : (s.call k).carrier.isAtWork = true := by
    rw [hx]
    rfl
  have hnoted {text : String} : Advances isOpen s (s.note (.sent l text)) :=
    quiet_refl.toAdvances.note
  unfold Session.transmit
  simp only
  split
  · rename_i hwrite
    exact (quiet_finishCarrier hwork fun _ _ _ => .unwritable hwrite).toAdvances
  · split
    · exact (quiet_sendFailed h hwork).toAdvances
    · split
      · refine hnoted.quiet (quiet_setCarrier (.move hwork rfl ?_ ?_))
        · change _ = (s.call k).carrier.isSent
          rw [hx]
          rfl
        · exact fun h => by cases h
      · exact hnoted.quiet (quiet_awaitResponse hx)

theorem advances_send (h : Correlated handled s) (hx : (s.call k).carrier.isSettingOut = true) :
    Advances isOpen s (s.send k l) := by
  have hid : (s.call k).id ≠ none := h.id_of_carrier fun habsent => by
    rw [habsent] at hx
    cases hx
  have hk := lt_of_id hid
  rw [send_eq hk]
  refine (advances_registered hx).trans (advances_transmit (p := .pending) (h.registered hid) ?_)
  rw [call_registered hk, if_pos rfl]

theorem advances_openConnection : Advances isOpen s s.openConnection :=
  advances_congr rfl rfl rfl rfl

theorem advances_connected (h : Correlated handled s) (hx : (s.call k).carrier.isSettingOut = true) :
    Advances isOpen s (s.connected k) :=
  (advances_openConnection.quiet quiet_unlock).trans
    (advances_send h.openConnection.unlock (settingOut_unlock hx))

theorem advances_notConnected (hx : (s.call k).carrier.isSettingOut = true) :
    Advances isOpen s (s.notConnected k f) :=
  (quiet_unlock.trans (quiet_finishCarrier_out (settingOut_unlock hx))).toAdvances

theorem advances_connect (h : Correlated handled s) (hx : (s.call k).carrier.isSettingOut = true) :
    Advances isOpen s (s.connect k) := by
  unfold Session.connect
  simp only
  generalize hs' : Session.note _ _ = s'
  have hadvances : Advances isOpen s s' := by
    rw [← hs']
    exact advances_congr rfl rfl rfl rfl
  have h' : Correlated handled s' := by
    rw [← hs']
    exact h.congr rfl (List.Subset.refl _) rfl
  have hx' : (s'.call k).carrier.isSettingOut = true := by
    rw [← hs']
    exact hx
  split
  · exact hadvances.trans (advances_connected h' hx')
  · refine hadvances.quiet (quiet_setCarrier (.move ?_ rfl ?_ fun _ => hx'))
    · exact Standing.isAtWork_of_isSettingOut hx'
    · exact (Standing.not_isSent_of_isSettingOut hx').symm
  · exact hadvances.trans (advances_notConnected hx')

theorem advances_useSocket (h : Correlated handled s) (hx : (s.call k).carrier.isSettingOut = true) :
    Advances isOpen s (s.useSocket k) := by
  have hlocked : Advances isOpen s { s with locked := true } :=
    advances_congr rfl rfl rfl rfl
  have h' : Correlated handled { s with locked := true } := h.congr rfl (List.Subset.refl _) rfl
  unfold Session.useSocket
  simp only
  split
  · exact (hlocked.quiet quiet_unlock).trans
      (advances_send h'.unlock (settingOut_unlock (s := { s with locked := true }) hx))
  · exact hlocked.trans (advances_connect h' hx)

theorem advances_takeTurn (h : Correlated handled s) (hx : (s.call k).carrier.isSettingOut = true) :
    Advances isOpen s (s.takeTurn k) := by
  unfold Session.takeTurn
  split
  · exact advances_useSocket h hx
  · have hqueued : Advances isOpen s { s with queue := s.queue ++ [k] } :=
      advances_congr rfl rfl rfl rfl
    refine hqueued.quiet (quiet_setCarrier (.move ?_ rfl ?_ fun _ => hx))
    · exact Standing.isAtWork_of_isSettingOut hx
    · exact (Standing.not_isSent_of_isSettingOut hx).symm

theorem advances_post (hx : (s.call k).carrier.isSettingOut = true) :
    Advances isOpen s (s.post k) := by
  unfold Session.post
  simp only
  split
  · have hopened : Advances isOpen s { s with httpOpen := true } :=
      advances_congr rfl rfl rfl rfl
    exact hopened.quiet (quiet_finishCarrier_out hx)
  · generalize hs' : Session.note _ _ = s'
    have hadvances : Advances isOpen s s' := by
      rw [← hs']
      exact advances_congr rfl rfl rfl rfl
    have hx' : (s'.call k).carrier.isSettingOut = true := by
      rw [← hs']
      exact hx
    refine hadvances.quiet (quiet_setCarrier (.move ?_ rfl ?_ fun h => by cases h))
    · exact Standing.isAtWork_of_isSettingOut hx'
    · exact (Standing.not_isSent_of_isSettingOut hx').symm

theorem advances_endQueueing (h : Correlated handled s)
    (hx : (s.call k).carrier.isSettingOut = true) :
    Advances isOpen s (s.endQueueing k cancelled) := by
  have hleft : Advances isOpen s { s with queue := s.queue.erase k } :=
    advances_congr rfl rfl rfl rfl
  have h' : Correlated handled { s with queue := s.queue.erase k } :=
    h.congr rfl (List.Subset.refl _) rfl
  unfold Session.endQueueing
  simp only
  split
  · split
    · exact hleft.quiet (quiet_finishCarrier_out hx)
    · exact (hleft.quiet quiet_passTurn).quiet (quiet_finishCarrier_out (settingOut_passTurn hx))
  · exact hleft.trans (advances_useSocket h' hx)

/-- The session once a carrier has noticed that it was to stop. -/
def noticed (s : Session) (k : Nat) : Session :=
  s.updateCall k fun c => { c with carrierCancelled := false }

theorem quiet_noticed : Quiet isOpen s (s.noticed k) :=
  quiet_updateCall fun _ => .flag (s.call k).guardCancelled false

theorem carrier_noticed : ((s.noticed k).call j).carrier = (s.call j).carrier := by
  rw [noticed, call_updateCall]
  split
  · rename_i hj
    rw [hj.1]
  · rfl

theorem call_noticed (hk : k < s.calls.length) :
    (s.noticed k).call k = { s.call k with carrierCancelled := false } :=
  call_updateCall_self hk

theorem Correlated.noticed (h : Correlated handled s) : Correlated handled (s.noticed k) :=
  h.keep fun _ => ⟨rfl, rfl, rfl, rfl, rfl⟩

theorem advances_stepCarrier (h : Correlated handled s)
    (hx : (s.call k).carrier.isSettingOut = true) : Advances isOpen s (s.stepCarrier k) := by
  have hnoticed : Advances isOpen s (s.noticed k) := quiet_noticed.toAdvances
  have hx' : ((s.noticed k).call k).carrier.isSettingOut = true := by rwa [carrier_noticed]
  unfold Session.stepCarrier
  simp only
  split
  · split
    · exact hnoticed.quiet (quiet_finishCarrier_out hx')
    · split
      · exact hnoticed.trans (advances_post hx')
      · exact hnoticed.trans (advances_takeTurn h.noticed hx')
  · exact hnoticed.trans (advances_endQueueing h.noticed hx')
  · split
    · exact hnoticed.trans (advances_connected h.noticed hx')
    · exact hnoticed.trans (advances_notConnected hx')
    · exact (hnoticed.quiet quiet_unlock).quiet (quiet_finishCarrier_out (settingOut_unlock hx'))
  all_goals
    rename_i hcarrier
    rw [hcarrier] at hx
    cases hx

theorem quiet_stepCarrier (h : Correlated handled s)
    (hx : (s.call k).carrier.isSettingOut = false) : Quiet isOpen s (s.stepCarrier k) := by
  have hnoticed : Quiet isOpen s (s.noticed k) := quiet_noticed
  unfold Session.stepCarrier
  simp only
  split <;> rename_i hcarrier <;> rw [hcarrier] at hx
  · cases hx
  · cases hx
  · cases hx
  · have hwork : ((s.noticed k).call k).carrier.isAtWork = true := by
      rw [carrier_noticed, hcarrier]
      rfl
    have hunsent : ((s.noticed k).call k).carrier.isSent = false := by
      rw [carrier_noticed, hcarrier]
      rfl
    have hfinish {o} : Quiet isOpen s ((s.noticed k).finishCarrier k o) :=
      hnoticed.trans (quiet_finishCarrier hwork fun hsent => by simp [hunsent] at hsent)
    split
    · exact hfinish
    · exact hfinish
  · have hwork : ((s.noticed k).call k).carrier.isAtWork = true := by
      rw [carrier_noticed, hcarrier]
      rfl
    split
    · exact hnoticed.trans (quiet_awaitResponse (carrier_noticed.trans hcarrier))
    · exact hnoticed.trans (quiet_sendFailed h.noticed hwork)
    · exact hnoticed.trans (quiet_finishCarrier hwork fun _ _ _ => .cancelled)
  · have hk : k < s.calls.length := lt_of_carrier (by simp [hcarrier])
    have hwork : ((s.noticed k).call k).carrier.isAtWork = true := by
      rw [carrier_noticed, hcarrier]
      rfl
    split
    · rename_i hr
      refine hnoticed.trans (quiet_finishCarrier hwork fun _ _ hresponse => ?_)
      simp [call_noticed hk, hr] at hresponse
    · exact hnoticed.trans (quiet_finishCarrier hwork fun _ _ _ => .cancelled)
  · exact hnoticed
  · exact hnoticed

theorem quiet_cancelCarrier : Quiet isOpen s (s.cancelCarrier k) := by
  have hmove {x y : Carrier} (hx : (s.call k).carrier = x) (hwork : x.isAtWork = true)
      (hy : y.isAtWork = true) (hsent : y.isSent = x.isSent)
      (hout : y.isSettingOut = true → x.isSettingOut = true) : Quiet isOpen s (s.wakeCarrier k y) := by
    subst hx
    exact quiet_wakeCarrier (.move hwork hy hsent hout)
  unfold Session.cancelCarrier
  split
  · rename_i hx
    exact hmove hx rfl rfl rfl id
  · rename_i hx
    exact hmove hx rfl rfl rfl id
  · rename_i hx
    exact hmove hx rfl rfl rfl id
  · rename_i hx
    exact hmove hx rfl rfl rfl id
  · exact quiet_refl
  · exact quiet_refl
  · split
    · rename_i hx hp
      have hset : Quiet isOpen s (s.updateCall k fun c => { c with response := some .withdrawn }) :=
        quiet_updateCall fun _ => .withdraw hx hp
      unfold Session.setResponse
      simp only
      split
      · exact hset.trans quiet_enqueue
      · exact hset
    · exact quiet_updateCall fun _ => .flag (s.call k).guardCancelled true

-- ---------------------------------------------------------------------------
-- Guards
-- ---------------------------------------------------------------------------

theorem quiet_setGuard (hg : (s.call k).guard.isFinished = false) (hg' : g.isFinished = false) :
    Quiet isOpen s (s.setGuard k g) :=
  quiet_updateCall fun _ => .watch hg hg'

theorem quiet_finishGuard
    (h : Step isOpen (s.standing k) ⟨{ s.call k with guard := .finished o }, s.isNoted k⟩) :
    Quiet isOpen s (s.finishGuard k o) :=
  (quiet_updateCall fun _ => h).trans quiet_enqueue

theorem quiet_stop (hg : (s.call k).guard.isFinished = false) :
    Quiet isOpen s (s.stop k timedOut) :=
  (quiet_setGuard hg rfl).trans quiet_cancelCarrier

theorem quiet_number (hopen : isOpen = true) (hg : (s.call k).guard = .fresh)
    (hx : (s.call k).carrier = .absent) : Quiet isOpen s (s.number k) := by
  have hset : Quiet isOpen s (s.updateCall k fun c =>
      { c with id := some s.nextId, guard := .waiting .pending }) :=
    quiet_updateCall fun _ => .number hopen hg hx
  exact hset.trans (quiet_congr rfl rfl rfl rfl rfl rfl (.inl rfl) rfl)

theorem quiet_startCarrier (hopen : isOpen = true) (hg : (s.call k).guard.isFinished = false)
    (hx : (s.call k).carrier = .absent) : Quiet isOpen s (s.startCarrier k) :=
  quiet_wakeCarrier (.launch hopen hg hx)

theorem quiet_alarms (a : Alarms) : Quiet isOpen s { s with alarms := a } :=
  quiet_congr rfl rfl rfl rfl rfl rfl (.inl rfl) rfl

theorem quiet_startCall (hopen : s.closed = false → isOpen = true) (hk : k < s.calls.length)
    (hg : (s.call k).guard = .fresh) (hx : (s.call k).carrier = .absent) :
    Quiet isOpen s (s.startCall k) := by
  have hunfinished : (s.call k).guard.isFinished = false := by
    rw [hg]
    rfl
  unfold Session.startCall
  split
  · exact quiet_finishGuard (.refuse hunfinished hx)
  · rename_i hclosed
    have hopen := hopen (by simpa using hclosed)
    split
    · exact quiet_finishGuard (.refuse hunfinished hx)
    · have hnumber : Quiet isOpen s (s.number k) := quiet_number hopen hg hx
      have hcall : (s.number k).call k =
          { s.call k with id := some s.nextId, guard := .waiting .pending } := by
        rw [call_number, if_pos ⟨rfl, hk⟩]
      have hg' : ((s.number k).call k).guard.isFinished = false := by
        rw [hcall]
        rfl
      have hx' : ((s.number k).call k).carrier = .absent := by
        rw [hcall]
        exact hx
      simp only
      split
      · exact hnumber.trans (quiet_finishGuard (.refuse hg' hx'))
      · have hstarted : Quiet isOpen s ((s.number k).startCarrier k) :=
          hnumber.trans (quiet_startCarrier hopen hg' hx')
        refine hstarted.trans (quiet_stop ?_)
        change (((s.number k).setCarrier k .fresh).call k).guard.isFinished = false
        rw [call_setCarrier_self (by simpa [Session.number] using hk)]
        exact hg'
      · exact (hnumber.trans (quiet_alarms _)).trans (quiet_startCarrier hopen hg' hx')

theorem quiet_timeOut (h : Correlated handled s) (hg : (s.call k).guard.isFinished = false)
    (hx : (s.call k).carrier.isFinished = true) : Quiet isOpen s (s.timeOut k) := by
  refine quiet_forget.trans (quiet_finishGuard ?_)
  rw [standing, h.not_isNoted_forget]
  exact .timeOut hg hx

theorem quiet_stepGuard (hopen : s.closed = false → isOpen = true) (h : Correlated handled s)
    (hs : Scheduled [.guard k] s) : Quiet isOpen s (s.stepGuard k) := by
  obtain ⟨hlt, hready⟩ := hs.guard_isReady (List.mem_singleton.mpr rfl)
  unfold Session.stepGuard
  simp only
  generalize hs' : s.updateCall k (fun c => { c with guardCancelled := false }) = s'
  have hquiet : Quiet isOpen s s' := by
    rw [← hs']
    exact quiet_updateCall fun _ => .flag false (s.call k).carrierCancelled
  have h' : Correlated handled s' := by
    rw [← hs']
    exact h.keep fun _ => ⟨rfl, rfl, rfl, rfl, rfl⟩
  have hcall : s'.call k = { s.call k with guardCancelled := false } := by
    rw [← hs', call_updateCall_self hlt]
  have hguard : (s'.call k).guard = (s.call k).guard := by rw [hcall]
  have hcarrier : (s'.call k).carrier = (s.call k).carrier := by rw [hcall]
  have hunfinished : (s'.call k).guard.isFinished = false := by
    rw [hguard]
    exact Guard.isFinished_of_isReady hready
  split
  · rename_i hg
    split
    · exact hquiet.trans (quiet_finishGuard (.giveUp hunfinished))
    · refine hquiet.trans (quiet_startCall ?_ ?_ (hguard.trans hg) ?_)
      · rw [hquiet.closed]
        exact hopen
      · rw [← hs', length_updateCall]
        exact hlt
      · exact hcarrier.trans (h.absent hg)
  · split
    · rename_i ho
      exact hquiet.trans (quiet_finishGuard (.conclude hunfinished (hcarrier.trans ho)))
    · exact hquiet.trans (quiet_stop hunfinished)
  · rename_i timedOut signal hg
    split
    · exact hquiet.trans (quiet_finishGuard (.giveUp hunfinished))
    · rename_i hstays
      have hw : signal.isWithdrawn = false := by
        simp only [Bool.or_eq_true, not_or] at hstays
        simpa using hstays.1.2
      have hfinished : (s'.call k).carrier.isFinished = true := by
        rw [hcarrier]
        rw [hg] at hready
        exact hs.released k (hg ▸ isReleased_of_isReady hready hw)
      split
      · exact hquiet.trans (quiet_timeOut h' hunfinished hfinished)
      · rename_i ho
        exact hquiet.trans (quiet_finishGuard (.conclude hunfinished (hcarrier.trans ho)))
      · exact hquiet.trans (quiet_timeOut h' hunfinished hfinished)
  · exact hquiet

theorem quiet_wakeGuard (hg : (s.call k).guard.isFinished = false) (hg' : g.isFinished = false) :
    Quiet isOpen s (s.wakeGuard k g) :=
  (quiet_setGuard hg hg').trans quiet_enqueue

theorem quiet_releaseGuard : Quiet isOpen s (s.releaseGuard k) := by
  unfold Session.releaseGuard
  split
  · rename_i hg
    exact quiet_wakeGuard (by rw [hg]; rfl) rfl
  · rename_i hg
    exact quiet_wakeGuard (by rw [hg]; rfl) rfl
  · exact quiet_refl

theorem quiet_ringAlarm : Quiet isOpen s (s.ringAlarm k) := by
  unfold Session.ringAlarm
  split
  · rename_i hg
    exact quiet_wakeGuard (by rw [hg]; rfl) rfl
  · exact quiet_refl

theorem quiet_cancel : Quiet isOpen s (s.cancel k).1 := by
  unfold Session.cancel
  split
  · exact quiet_refl
  · rename_i hg
    exact quiet_wakeGuard (by rw [hg]; rfl) rfl
  · rename_i hg
    exact quiet_wakeGuard (by rw [hg]; rfl) rfl
  · exact quiet_updateCall fun _ => .flag true (s.call k).carrierCancelled

-- ---------------------------------------------------------------------------
-- Frames and readers
-- ---------------------------------------------------------------------------

/-- A call that is not noted any more gets its response. -/
theorem quiet_respond (hn : s.isNoted k = false) : Quiet isOpen s (s.respond k r) := by
  unfold Session.respond
  split
  · rename_i hp
    have hset : Quiet isOpen s (s.updateCall k fun c => { c with response := some (.kept r) }) := by
      refine quiet_updateCall fun _ => ?_
      rw [standing, hn]
      exact .respond hp
    unfold Session.setResponse
    simp only
    split
    · exact hset.trans quiet_enqueue
    · exact hset
  · exact quiet_refl

theorem quiet_failPending : Quiet isOpen s (s.failPending f) := by
  have hinv := failPending_induction (P := fun t => Quiet isOpen s t ∧ t.pending = []) s f
    ⟨quiet_pending (List.nil_subset _), rfl⟩ fun t k ⟨ht, hpending⟩ => by
      have hn : t.isNoted k = false := by rw [isNoted, hpending]; rfl
      exact ⟨ht.trans (quiet_respond hn), by rw [pending_respond, hpending]⟩
  exact hinv.1

theorem quiet_notify : Quiet isOpen s (s.notify name data) := by
  unfold Session.notify
  split
  · exact quiet_refl
  · exact quiet_note rfl
  · exact (quiet_note rfl).trans (quiet_note rfl)
  · split
    · exact quiet_enqueue
    · exact quiet_refl

theorem quiet_answer (h : Correlated handled s) (hmem : (n, k) ∈ s.pending) :
    Quiet isOpen s (s.answer n k r) := by
  have hid := h.pending _ hmem
  have hn : (s.forget n).isNoted k = false := by
    have hforget := h.not_isNoted_forget (k := k)
    rwa [hid] at hforget
  exact quiet_forget.trans (quiet_respond hn)

theorem quiet_handle (h : Correlated handled s) (f : Frame) : Quiet isOpen s (s.handle f) := by
  unfold Session.handle
  split
  · exact quiet_refl
  · exact quiet_note rfl
  · split
    · rename_i hpending
      exact quiet_answer h (pendingCall?_mem hpending).1
    · split
      · exact quiet_notify
      · exact quiet_refl

theorem quiet_handleAll (h : Correlated handled s) (fs : List Frame) :
    Quiet isOpen s (fs.foldl Session.handle s) := by
  induction fs generalizing handled s with
  | nil => exact quiet_refl
  | cons f fs ih => exact (quiet_handle h f).trans (ih (h.handle f))

theorem quiet_release : Quiet isOpen s (s.release l) := by
  unfold Session.release
  split
  · exact quiet_congr rfl rfl rfl rfl rfl rfl (.inr rfl) rfl
  · exact quiet_refl

theorem quiet_endReader : Quiet isOpen s (s.endReader l f) := by
  unfold Session.endReader
  simp only
  split
  · exact quiet_updateConnection.trans quiet_enqueue
  · exact quiet_updateConnection

theorem quiet_lose : Quiet isOpen s (s.lose l fault f) :=
  (quiet_release.trans quiet_failPending).trans quiet_endReader

theorem quiet_connectionEnded : Quiet isOpen s (s.connectionEnded l f) := by
  obtain ⟨fault, failure, heq⟩ := connectionEnded_eq s l f
  rw [heq]
  exact quiet_lose

theorem quiet_wakeReader : Quiet isOpen s (s.wakeReader l) := by
  unfold Session.wakeReader
  split
  · exact quiet_updateConnection.trans quiet_enqueue
  · exact quiet_refl

theorem quiet_stepReader (h : Correlated handled s) : Quiet isOpen s (s.stepReader l) := by
  have hdrained : Quiet isOpen s (s.drained l) := by
    have hemptied : Correlated handled (s.emptied l) := h.updateConnection
    exact quiet_updateConnection.trans (quiet_handleAll hemptied _)
  unfold Session.stepReader
  simp only
  split
  · exact quiet_refl
  · split
    · split
      · exact quiet_endReader
      · exact quiet_lose
    · split
      · exact hdrained.trans quiet_connectionEnded
      · exact hdrained

-- ---------------------------------------------------------------------------
-- Callers and the network
-- ---------------------------------------------------------------------------

theorem quiet_reportCall : Quiet isOpen s (s.reportCall k) := by
  unfold Session.reportCall
  simp only
  split
  · exact quiet_note rfl
  · exact quiet_refl

theorem quiet_begin : Quiet isOpen s (s.begin r callback) := by
  refine ⟨⟨fun k => ?_, rfl, rfl⟩, List.Subset.refl _, rfl, rfl, .inl rfl, rfl⟩
  rw [standing, standing, call_begin]
  split
  · rename_i hk
    rw [call_of_length_le (Nat.le_of_eq hk.symm)]
    exact .single .made
  · exact .refl

theorem quiet_reply : Quiet isOpen s (s.reply r a).1 := by
  unfold Session.reply
  split
  · exact quiet_refl
  · split
    · rename_i hx
      split
      · refine quiet_wakeCarrier (.move ?_ rfl ?_ fun h => by cases h) <;> rw [hx] <;> rfl
      · exact quiet_refl
    · exact quiet_refl

theorem quiet_settle : Quiet isOpen s (s.settle a f).1 := by
  unfold Session.settle
  split
  · exact quiet_refl
  · split
    · rename_i hx
      split
      · refine quiet_wakeCarrier (.move ?_ rfl ?_ fun _ => ?_) <;> rw [hx] <;> rfl
      · exact quiet_refl
    · exact quiet_refl

theorem quiet_flush : Quiet isOpen s (s.flush k f) := by
  unfold Session.flush
  split
  · rename_i hx
    refine quiet_wakeCarrier (.move ?_ rfl ?_ fun h => by cases h) <;> rw [hx] <;> rfl
  · exact quiet_refl

theorem quiet_arrive : Quiet isOpen s (s.arrive l f) := by
  unfold Session.arrive
  split
  · exact quiet_refl
  · exact quiet_updateConnection.trans quiet_wakeReader

theorem quiet_drop : Quiet isOpen s (s.drop l f) := by
  unfold Session.drop
  split
  · exact quiet_refl
  · exact quiet_updateConnection.trans quiet_wakeReader

end Session

end Farcall
