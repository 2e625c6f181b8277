import Farcall.Proofs.Session.Calls
import Farcall.Proofs.Session.Moves

/-!
# Responses belong to their calls

A number is given to one call only, and a number that is pending is that of its call. So a frame that
is a response completes the call it names and no other, and a call over the socket that has a value
has got it from such a frame.
-/

namespace Farcall

def Request.AsksSocket (r : Request) : Prop :=
  r.transport = .socket ∧ r.expectReturn = true

namespace Session

-- ---------------------------------------------------------------------------
-- Where values come from
-- ---------------------------------------------------------------------------

/-- A frame was the response to a pending call: it names the number of the call, has no error other
than null, and its result is `v`. -/
structure Handling.Answers (h : Handling) (k id : Nat) (v : Value) : Prop where
  pending : (id, k) ∈ h.before.pending
  waiting : (h.before.call k).response = some .pending
  frame : ∃ r, h.frame.inbound = .record r ∧ Response.id? r = some (id : Int) ∧
    Value.getD r "error" = .null ∧ Value.getD r "result" = v
  effect : ((h.before.handle h.frame).call k).response = some (.kept (.ok v))

/-- One of some frames was the response to a call. -/
def Sourced (handled : List Handling) (k : Nat) (c : Call) (v : Value) : Prop :=
  ∃ id, c.id = some id ∧ ∃ h ∈ handled, h.Answers k id v

/-- What can be said of the place where the carrier of a call stands. -/
def CarrierOk (handled : List Handling) (k : Nat) (c : Call) : Carrier → Prop
  | .posting _ _ => c.request.transport = .http
  | .sending _ => c.request.expectReturn = true → c.response ≠ none
  | .finished (.value v) => c.request.AsksSocket → Sourced handled k c v
  | _ => True

/-- A call without a number has not begun, and each of its values has a source. -/
structure CallOk (handled : List Handling) (k : Nat) (c : Call) : Prop where
  begun : c.id = none → c.carrier = .absent ∧ c.response = none
  fresh : c.guard = .fresh → c.id = none
  carrier : CarrierOk handled k c c.carrier
  response : ∀ v, c.response = some (.kept (.ok v)) → Sourced handled k c v
  guard : ∀ v, c.guard = .finished (.value v) → c.request.AsksSocket → Sourced handled k c v

/-- Numbers, calls and pending entries belong together, and values have sources. -/
structure Correlated (handled : List Handling) (s : Session) : Prop where
  bound : ∀ k id, (s.call k).id = some id → id < s.nextId
  distinct : ∀ j k id, (s.call j).id = some id → (s.call k).id = some id → j = k
  pending : ∀ e ∈ s.pending, (s.call e.2).id = some e.1
  call : ∀ k, CallOk handled k (s.call k)

variable {s t : Session} {handled more : List Handling} {c c' : Call}

theorem Sourced.append (h : Sourced handled k c v) : Sourced (handled ++ more) k c v := by
  obtain ⟨id, hid, x, hx, ha⟩ := h
  exact ⟨id, hid, x, List.mem_append_left _ hx, ha⟩

theorem Sourced.of_id (h : Sourced handled k c v) (hid : c'.id = c.id) :
    Sourced handled k c' v := by
  obtain ⟨id, hc, hx⟩ := h
  exact ⟨id, hid.trans hc, hx⟩

theorem CarrierOk.append {x : Carrier} (h : CarrierOk handled k c x) :
    CarrierOk (handled ++ more) k c x := by
  cases x with
  | finished o =>
    cases o with
    | value v => exact fun hc => (h hc).append
    | _ => trivial
  | _ => exact h

/-- Of the call, its request, its number and whether there is a response matter. -/
theorem CarrierOk.of_call {x : Carrier} (h : CarrierOk handled k c x)
    (hrequest : c'.request = c.request) (hid : c'.id = c.id)
    (hresponse : c.response ≠ none → c'.response ≠ none) : CarrierOk handled k c' x := by
  cases x with
  | posting _ _ => exact (congrArg Request.transport hrequest).trans h
  | sending _ => exact fun hc => hresponse (h (hrequest ▸ hc))
  | finished o =>
    cases o with
    | value v => exact fun hc => (h (hrequest ▸ hc)).of_id hid
    | _ => trivial
  | _ => trivial

theorem CallOk.append (h : CallOk handled k c) : CallOk (handled ++ more) k c :=
  { h with
    carrier := h.carrier.append
    response := fun v hv => (h.response v hv).append
    guard := fun v hv hc => (h.guard v hv hc).append }

theorem Correlated.append (h : Correlated handled s) : Correlated (handled ++ more) s :=
  { h with call := fun k => (h.call k).append }

-- ---------------------------------------------------------------------------
-- Changing one call
-- ---------------------------------------------------------------------------

/-- What does not touch calls, numbers or pending entries does not matter here. -/
theorem Correlated.congr (h : Correlated handled s) (hcalls : t.calls = s.calls)
    (hpending : t.pending ⊆ s.pending) (hnext : t.nextId = s.nextId) : Correlated handled t := by
  have hcall (k : Nat) : t.call k = s.call k := by rw [Session.call, hcalls, Session.call]
  refine ⟨?_, ?_, ?_, ?_⟩
  · simpa only [hcall, hnext] using h.bound
  · simpa only [hcall] using h.distinct
  · exact fun e he => by simpa only [hcall] using h.pending e (hpending he)
  · simpa only [hcall] using h.call

theorem id_updateCall (hf : ∀ c, (f c).id = c.id) :
    ((s.updateCall k f).call j).id = (s.call j).id := by
  rw [call_updateCall]
  split
  · rename_i hj
    rw [hf, hj.1]
  · rfl

theorem Correlated.updateCall (h : Correlated handled s) (hid : ∀ c, (f c).id = c.id)
    (hf : CallOk handled k (f (s.call k))) : Correlated handled (s.updateCall k f) := by
  refine ⟨?_, ?_, ?_, ?_⟩
  · simp only [id_updateCall hid]
    exact h.bound
  · simp only [id_updateCall hid]
    exact h.distinct
  · simp only [id_updateCall hid]
    exact h.pending
  · intro j
    rw [call_updateCall]
    split
    · rename_i hj
      exact hj.1 ▸ hf
    · exact h.call j

/-- A call changes in a way that does not matter here. -/
theorem Correlated.keep (h : Correlated handled s)
    (hf : ∀ c, (f c).request = c.request ∧ (f c).id = c.id ∧ (f c).response = c.response ∧
      (f c).guard = c.guard ∧ (f c).carrier = c.carrier) :
    Correlated handled (s.updateCall k f) := by
  obtain ⟨hrequest, hid, hresponse, hguard, hcarrier⟩ := hf (s.call k)
  obtain ⟨hbegun, hfresh, hok, hvalues, hends⟩ := h.call k
  refine h.updateCall (fun c => (hf c).2.1) ⟨?_, ?_, ?_, fun v hv => ?_, fun v hv hasks => ?_⟩
  · rwa [hid, hcarrier, hresponse]
  · rwa [hguard, hid]
  · rw [hcarrier]
    exact hok.of_call hrequest hid fun hr => hresponse ▸ hr
  · exact (hvalues v (hresponse ▸ hv)).of_id hid
  · exact (hends v (hguard ▸ hv) (hrequest ▸ hasks)).of_id hid

theorem Correlated.setCarrier (h : Correlated handled s) (hid : (s.call k).id ≠ none)
    (hx : CarrierOk handled k (s.call k) x) : Correlated handled (s.setCarrier k x) :=
  h.updateCall (fun _ => rfl)
    { h.call k with
      begun := fun hn => (hid hn).elim
      carrier := hx.of_call rfl rfl id }

theorem Correlated.setGuard (h : Correlated handled s) (hg : g ≠ .fresh)
    (hv : ∀ v, g = .finished (.value v) → (s.call k).request.AsksSocket →
      Sourced handled k (s.call k) v) : Correlated handled (s.setGuard k g) :=
  h.updateCall (fun _ => rfl)
    { h.call k with
      fresh := fun hn => (hg hn).elim
      carrier := (h.call k).carrier.of_call rfl rfl id
      guard := hv }

theorem Correlated.updateResponse (h : Correlated handled s) (hid : (s.call k).id ≠ none)
    (hp : ∀ v, p = .kept (.ok v) → Sourced handled k (s.call k) v) :
    Correlated handled (s.updateCall k fun c => { c with response := some p }) :=
  h.updateCall (fun _ => rfl)
    { h.call k with
      begun := fun hn => (hid hn).elim
      carrier := (h.call k).carrier.of_call rfl rfl fun _ => Option.some_ne_none _
      response := fun v hv => hp v (Option.some.inj hv) }

-- ---------------------------------------------------------------------------
-- Carriers
-- ---------------------------------------------------------------------------

theorem Correlated.enqueue (h : Correlated handled s) : Correlated handled (s.enqueue j) :=
  h.congr rfl (List.Subset.refl _) rfl

theorem Correlated.note (h : Correlated handled s) : Correlated handled (s.note x) :=
  h.congr rfl (List.Subset.refl _) rfl

theorem Correlated.forget (h : Correlated handled s) : Correlated handled (s.forget n) :=
  h.congr rfl List.filter_sublist.subset rfl

theorem Correlated.wakeCarrier (h : Correlated handled s) (hid : (s.call k).id ≠ none)
    (hx : CarrierOk handled k (s.call k) x) : Correlated handled (s.wakeCarrier k x) :=
  (h.setCarrier hid hx).enqueue

theorem Correlated.finishCarrier (h : Correlated handled s) (hid : (s.call k).id ≠ none)
    (hx : CarrierOk handled k (s.call k) (.finished o)) :
    Correlated handled (s.finishCarrier k o) := by
  unfold Session.finishCarrier
  simp only
  split
  · exact (h.setCarrier hid hx).enqueue
  · exact (h.setCarrier hid hx).enqueue
  · exact h.setCarrier hid hx

theorem Correlated.setResponse (h : Correlated handled s) (hid : (s.call k).id ≠ none)
    (hp : ∀ v, p = .kept (.ok v) → Sourced handled k (s.call k) v) :
    Correlated handled (s.setResponse k p) := by
  unfold Session.setResponse
  simp only
  split
  · exact (h.updateResponse hid hp).enqueue
  · exact h.updateResponse hid hp

/-- Where the carrier of a call has got to somewhere, the call has a number. -/
theorem Correlated.id_of_carrier (h : Correlated handled s) (hx : (s.call k).carrier ≠ .absent) :
    (s.call k).id ≠ none :=
  fun hid => hx ((h.call k).begun hid).1

theorem Correlated.id_of_response (h : Correlated handled s) (hp : (s.call k).response = some p) :
    (s.call k).id ≠ none := by
  intro hid
  rw [((h.call k).begun hid).2] at hp
  cases hp

theorem Correlated.respond (h : Correlated handled s)
    (hr : ∀ v, (s.call k).response = some .pending → r = .ok v → Sourced handled k (s.call k) v) :
    Correlated handled (s.respond k r) := by
  unfold Session.respond
  split
  · rename_i hp
    refine h.setResponse (h.id_of_response hp) fun v hv => ?_
    cases hv
    exact hr v hp rfl
  · exact h

theorem Correlated.failPending (h : Correlated handled s) : Correlated handled (s.failPending f) :=
  failPending_induction s f (h.congr rfl (List.nil_subset _) rfl) fun _ _ ht =>
    ht.respond fun v _ hv => by cases hv

theorem Correlated.passTurn (h : Correlated handled s) : Correlated handled s.passTurn := by
  unfold Session.passTurn
  split
  · exact h
  · split
    · rename_i hx
      exact h.wakeCarrier (h.id_of_carrier (by simp [hx])) trivial
    · exact h

theorem Correlated.unlock (h : Correlated handled s) : Correlated handled s.unlock :=
  passTurn (h.congr rfl (List.Subset.refl _) rfl)

theorem Correlated.notePending (h : Correlated handled s) (hid : (s.call k).id = some n) :
    Correlated handled { s with pending := s.pending ++ [(n, k)] } := by
  refine { h with pending := ?_ }
  intro e he
  rcases List.mem_append.mp he with he | he
  · exact h.pending e he
  · obtain rfl := List.mem_singleton.mp he
    exact hid

theorem Correlated.addPending (h : Correlated handled s) (hid : (s.call k).id ≠ none) :
    Correlated handled (s.addPending k) := by
  unfold Session.addPending
  split
  · refine (h.updateResponse hid fun v hv => by cases hv).notePending ?_
    obtain ⟨n, hn⟩ := Option.ne_none_iff_exists'.mp hid
    rw [id_updateCall, hn, Option.getD_some]
    exact fun _ => rfl
  · exact h

theorem Correlated.awaitResponse (h : Correlated handled s) (hid : (s.call k).id ≠ none)
    (hresponse : (s.call k).request.expectReturn = true → (s.call k).response ≠ none) :
    Correlated handled (s.awaitResponse k) := by
  unfold Session.awaitResponse
  split
  · rename_i hnone
    exact h.finishCarrier hid fun hasks => (hresponse hasks.2 hnone).elim
  · exact h.setCarrier hid trivial
  · rename_i r hr
    refine h.finishCarrier hid ?_
    cases r with
    | ok v => exact fun _ => (h.call k).response v hr
    | error e => trivial
  · exact h.finishCarrier hid trivial

theorem Correlated.sendFailed (h : Correlated handled s) (hid : (s.call k).id ≠ none) :
    Correlated handled (s.sendFailed k f) := by
  unfold Session.sendFailed
  simp only
  split
  · exact h.forget.finishCarrier hid trivial
  · exact h.finishCarrier hid trivial

theorem Correlated.register (h : Correlated handled s) (hid : (s.call k).id ≠ none) :
    Correlated handled (s.register k l) := by
  have hlink : Correlated handled (s.updateCall k fun x => { x with link := some l }) :=
    h.keep fun _ => ⟨rfl, rfl, rfl, rfl, rfl⟩
  refine hlink.addPending ?_
  rw [id_updateCall]
  · exact hid
  · exact fun _ => rfl

theorem Correlated.transmit (h : Correlated handled s) (hid : (s.call k).id ≠ none)
    (hresponse : (s.call k).request.expectReturn = true → (s.call k).response ≠ none) :
    Correlated handled (s.transmit k l) := by
  unfold Session.transmit
  simp only
  split
  · exact h.finishCarrier hid trivial
  · split
    · exact h.sendFailed hid
    · split
      · refine h.note.setCarrier hid ?_
        exact hresponse
      · exact h.note.awaitResponse hid hresponse

theorem Correlated.send (h : Correlated handled s) (hid : (s.call k).id ≠ none) :
    Correlated handled (s.send k l) := by
  refine (h.register hid).transmit ?_ ?_
  · rwa [id_of_card card_register]
  · rw [request_of_card card_register]
    intro hreturn
    rw [response_register hid hreturn]
    exact Option.some_ne_none _

theorem Correlated.openConnection (h : Correlated handled s) :
    Correlated handled s.openConnection :=
  h.congr rfl (List.Subset.refl _) rfl

theorem Correlated.connected (h : Correlated handled s) (hid : (s.call k).id ≠ none) :
    Correlated handled (s.connected k) := by
  refine h.openConnection.unlock.send ?_
  rw [id_of_card card_unlock]
  exact hid

theorem Correlated.notConnected (h : Correlated handled s) (hid : (s.call k).id ≠ none) :
    Correlated handled (s.notConnected k f) :=
  h.unlock.finishCarrier (by rwa [id_of_card card_unlock]) trivial

theorem Correlated.connect (h : Correlated handled s) (hid : (s.call k).id ≠ none) :
    Correlated handled (s.connect k) := by
  unfold Session.connect
  simp only
  split
  · exact connected (note (h.congr rfl (List.Subset.refl _) rfl)) hid
  · exact setCarrier (note (h.congr rfl (List.Subset.refl _) rfl)) hid trivial
  · exact notConnected (note (h.congr rfl (List.Subset.refl _) rfl)) hid

theorem Correlated.useSocket (h : Correlated handled s) (hid : (s.call k).id ≠ none) :
    Correlated handled (s.useSocket k) := by
  have hlocked : Correlated handled { s with locked := true } :=
    h.congr rfl (List.Subset.refl _) rfl
  unfold Session.useSocket
  simp only
  split
  · refine hlocked.unlock.send ?_
    rw [id_of_card card_unlock]
    exact hid
  · exact hlocked.connect hid

theorem Correlated.takeTurn (h : Correlated handled s) (hid : (s.call k).id ≠ none) :
    Correlated handled (s.takeTurn k) := by
  unfold Session.takeTurn
  split
  · exact h.useSocket hid
  · exact setCarrier (h.congr rfl (List.Subset.refl _) rfl) hid trivial

theorem Correlated.post (h : Correlated handled s) (hid : (s.call k).id ≠ none)
    (hhttp : (s.call k).request.transport = .http) : Correlated handled (s.post k) := by
  unfold Session.post
  simp only
  split
  · exact finishCarrier (h.congr rfl (List.Subset.refl _) rfl) hid trivial
  · exact setCarrier (note (h.congr rfl (List.Subset.refl _) rfl)) hid hhttp

theorem Correlated.endQueueing (h : Correlated handled s) (hid : (s.call k).id ≠ none) :
    Correlated handled (s.endQueueing k cancelled) := by
  have hleft : Correlated handled { s with queue := s.queue.erase k } :=
    h.congr rfl (List.Subset.refl _) rfl
  unfold Session.endQueueing
  simp only
  split
  · split
    · exact hleft.finishCarrier hid trivial
    · refine hleft.passTurn.finishCarrier ?_ trivial
      rw [id_of_card card_passTurn]
      exact hid
  · exact hleft.useSocket hid

theorem Correlated.stepCarrier (h : Correlated handled s) :
    Correlated handled (s.stepCarrier k) := by
  by_cases hid : (s.call k).id = none
  · unfold Session.stepCarrier
    simp only [((h.call k).begun hid).1]
    exact h.keep fun _ => ⟨rfl, rfl, rfl, rfl, rfl⟩
  unfold Session.stepCarrier
  simp only
  generalize hs' : s.updateCall k (fun c => { c with carrierCancelled := false }) = s'
  have hcall : s'.call k = { s.call k with carrierCancelled := false } := by
    rw [← hs', call_updateCall_self (lt_of_id hid)]
  have h' : Correlated handled s' := by
    rw [← hs']
    exact h.keep fun _ => ⟨rfl, rfl, rfl, rfl, rfl⟩
  have hid' : (s'.call k).id ≠ none := by
    rwa [hcall]
  have hok := (h.call k).carrier
  split
  · split
    · exact h'.finishCarrier hid' trivial
    · split
      · rename_i hhttp
        exact h'.post hid' (by rwa [hcall])
      · exact h'.takeTurn hid'
  · exact h'.endQueueing hid'
  · split
    · exact h'.connected hid'
    · exact h'.notConnected hid'
    · exact h'.unlock.finishCarrier (by rwa [id_of_card card_unlock]) trivial
  · rename_i hcarrier
    rw [hcarrier] at hok
    split
    · refine h'.finishCarrier hid' ?_
      cases Response.ofAnswer _ _ _ with
      | ok v => 
        intro hasks
        rw [hcall] at hasks
        exact absurd (hok.symm.trans hasks.1) (by decide)
      | error e => trivial
    · exact h'.finishCarrier hid' trivial
  · rename_i hcarrier
    rw [hcarrier] at hok
    split
    · exact h'.awaitResponse hid' (by rwa [hcall])
    · exact h'.sendFailed hid'
    · exact h'.finishCarrier hid' trivial
  · split
    · rename_i r _ hr
      refine h'.finishCarrier hid' ?_
      cases r with
      | ok v => exact fun _ => ((h.call k).response v hr).of_id (by rw [hcall])
      | error e => trivial
    · exact h'.finishCarrier hid' trivial
  · exact h'
  · exact h'

theorem Correlated.cancelCarrier (h : Correlated handled s) :
    Correlated handled (s.cancelCarrier k) := by
  have hflag : Correlated handled (s.updateCall k fun c => { c with carrierCancelled := true }) :=
    h.keep fun _ => ⟨rfl, rfl, rfl, rfl, rfl⟩
  have hok := (h.call k).carrier
  unfold Session.cancelCarrier
  split
  · rename_i hx
    exact h.wakeCarrier (h.id_of_carrier (by simp [hx])) trivial
  · rename_i hx
    exact h.wakeCarrier (h.id_of_carrier (by simp [hx])) trivial
  · rename_i hx
    rw [hx] at hok
    exact h.wakeCarrier (h.id_of_carrier (by simp [hx])) hok
  · rename_i hx
    rw [hx] at hok
    exact h.wakeCarrier (h.id_of_carrier (by simp [hx])) hok
  · exact h
  · exact h
  · split
    · rename_i hr
      exact h.setResponse (h.id_of_response hr) fun v hv => by cases hv
    · exact hflag

-- ---------------------------------------------------------------------------
-- Guards
-- ---------------------------------------------------------------------------

theorem Correlated.wakeGuard (h : Correlated handled s) (hg : g ≠ .fresh)
    (hv : ∀ v, g ≠ .finished (.value v)) : Correlated handled (s.wakeGuard k g) :=
  (h.setGuard hg fun v hf => (hv v hf).elim).enqueue

theorem Correlated.finishGuard (h : Correlated handled s)
    (hv : ∀ v, o = .value v → (s.call k).request.AsksSocket → Sourced handled k (s.call k) v) :
    Correlated handled (s.finishGuard k o) := by
  refine (h.setGuard (by simp) fun v hg => hv v ?_).enqueue
  cases hg
  rfl

theorem Correlated.stop (h : Correlated handled s) : Correlated handled (s.stop k timedOut) :=
  (h.setGuard (by simp) fun v hg => by cases hg).cancelCarrier

theorem Correlated.number (h : Correlated handled s) (hfresh : (s.call k).guard = .fresh) :
    Correlated handled (s.number k) := by
  have hnone := (h.call k).fresh hfresh
  obtain ⟨habsent, hresponse⟩ := (h.call k).begun hnone
  have hid (j n : Nat) (hj : ((s.number k).call j).id = some n) :
      (j = k ∧ n = s.nextId) ∨ (s.call j).id = some n := by
    rw [call_number] at hj
    split at hj
    · rename_i hjk
      exact .inl ⟨hjk.1, (Option.some.inj hj).symm⟩
    · exact .inr hj
  refine ⟨?_, ?_, ?_, ?_⟩
  · intro j n hj
    rcases hid j n hj with ⟨-, rfl⟩ | hj
    · exact Nat.lt_succ_self _
    · exact Nat.lt_succ_of_lt (h.bound j n hj)
  · intro i j n hi hj
    rcases hid i n hi with ⟨rfl, rfl⟩ | hi'
    · rcases hid j _ hj with ⟨rfl, -⟩ | hj'
      · rfl
      · exact absurd (h.bound j _ hj') (Nat.lt_irrefl _)
    · rcases hid j n hj with ⟨rfl, rfl⟩ | hj'
      · exact absurd (h.bound i _ hi') (Nat.lt_irrefl _)
      · exact h.distinct i j n hi' hj'
  · intro e he
    have hold := h.pending e he
    rw [call_number, if_neg]
    · exact hold
    · rintro ⟨rfl, -⟩
      simp [hnone] at hold
  · intro j
    rw [call_number]
    split
    · rename_i hjk
      rw [hjk.1]
      exact
        { begun := fun hn => by cases hn
          fresh := fun hn => by cases hn
          carrier := by
            rw [habsent]
            trivial
          response := fun v hv => by simp [hresponse] at hv
          guard := fun v hv => by cases hv }
    · exact h.call j

theorem Correlated.startCarrier (h : Correlated handled s) (hid : (s.call k).id ≠ none) :
    Correlated handled (s.startCarrier k) :=
  h.wakeCarrier hid trivial

theorem Correlated.startCall (h : Correlated handled s) (hfresh : (s.call k).guard = .fresh)
    (hk : k < s.calls.length) : Correlated handled (s.startCall k) := by
  unfold Session.startCall
  split
  · exact h.finishGuard fun v hv => by cases hv
  · split
    · exact h.finishGuard fun v hv => by cases hv
    · have hid : ((s.number k).call k).id ≠ none := by
        rw [call_number, if_pos ⟨rfl, hk⟩]
        exact Option.some_ne_none _
      have hn := h.number hfresh
      simp only
      split
      · exact hn.finishGuard fun v hv => by cases hv
      · exact (hn.startCarrier hid).stop
      · exact startCarrier (hn.congr rfl (List.Subset.refl _) rfl) hid

theorem Correlated.timeOut (h : Correlated handled s) : Correlated handled (s.timeOut k) :=
  h.forget.finishGuard fun v hv => by cases hv

theorem Correlated.stepGuard (h : Correlated handled s) (hk : k < s.calls.length) :
    Correlated handled (s.stepGuard k) := by
  unfold Session.stepGuard
  simp only
  generalize hs' : s.updateCall k (fun c => { c with guardCancelled := false }) = s'
  have hcall : s'.call k = { s.call k with guardCancelled := false } := by
    rw [← hs', call_updateCall_self hk]
  have h' : Correlated handled s' := by
    rw [← hs']
    exact h.keep fun _ => ⟨rfl, rfl, rfl, rfl, rfl⟩
  have hvalue : ∀ v, (s.call k).carrier = .finished (.value v) →
      (s'.call k).request.AsksSocket → Sourced handled k (s'.call k) v := by
    intro v hv hasks
    have hok := (h.call k).carrier
    rw [hv] at hok
    rw [hcall] at hasks ⊢
    exact (hok hasks).of_id rfl
  have hfinished {o} (ho : (s.call k).carrier = .finished o) :
      Correlated handled (s'.finishGuard k o) :=
    h'.finishGuard fun v hv => hvalue v (hv ▸ ho)
  split
  · rename_i hfresh
    split
    · exact h'.finishGuard fun v hv => by cases hv
    · exact h'.startCall (by rw [hcall, hfresh]) (by simpa [← hs'] using hk)
  · split
    · rename_i ho
      exact hfinished ho
    · exact h'.stop
  · split
    · exact h'.finishGuard fun v hv => by cases hv
    · split
      · exact h'.timeOut
      · rename_i ho
        exact hfinished ho
      · exact h'.timeOut
  · exact h'

theorem Correlated.releaseGuard (h : Correlated handled s) :
    Correlated handled (s.releaseGuard k) := by
  unfold Session.releaseGuard
  split
  · exact h.wakeGuard (by simp) (by simp)
  · exact h.wakeGuard (by simp) (by simp)
  · exact h

theorem Correlated.ringAlarm (h : Correlated handled s) : Correlated handled (s.ringAlarm k) := by
  unfold Session.ringAlarm
  split
  · exact h.wakeGuard (by simp) (by simp)
  · exact h

theorem Correlated.cancel (h : Correlated handled s) : Correlated handled (s.cancel k).1 := by
  unfold Session.cancel
  split
  · exact h
  · exact h.wakeGuard (by simp) (by simp)
  · exact h.wakeGuard (by simp) (by simp)
  · exact h.keep fun _ => ⟨rfl, rfl, rfl, rfl, rfl⟩

-- ---------------------------------------------------------------------------
-- Frames
-- ---------------------------------------------------------------------------

theorem pendingCall?_mem (h : s.pendingCall? r = some (n, k)) :
    (n, k) ∈ s.pending ∧ Response.id? r = some (n : Int) := by
  obtain ⟨i, hi, hfind⟩ := Option.bind_eq_some_iff.mp h
  have hn := List.find?_some hfind
  simp only [beq_iff_eq] at hn
  exact ⟨List.mem_of_find?_eq_some hfind, hn ▸ hi⟩

theorem ofRecord_ok : Response.ofRecord r = .ok v ↔
    Value.getD r "error" = .null ∧ Value.getD r "result" = v := by
  unfold Response.ofRecord
  split
  · rename_i herror
    simp [herror]
  · rename_i hnull
    simp only [reduceCtorEq, false_iff]
    exact fun h => hnull h.1

theorem Correlated.notify (h : Correlated handled s) : Correlated handled (s.notify name data) := by
  unfold Session.notify
  split
  · exact h
  · exact h.note
  · exact h.note.note
  · split
    · exact h.enqueue
    · exact h

theorem handle_of_pending (hr : f.inbound = .record r) (hp : s.pendingCall? r = some (n, k)) :
    s.handle f = s.answer n k r := by
  simp only [Session.handle, hr, hp]

theorem Correlated.handle (h : Correlated handled s) (f : Frame) :
    Correlated (handled ++ [⟨s, f⟩]) (s.handle f) := by
  unfold Session.handle
  split
  · exact h.append
  · exact h.append.note
  · rename_i r hr
    split
    · rename_i n k hpending
      obtain ⟨hmem, hid⟩ := pendingCall?_mem hpending
      refine h.append.forget.respond fun v hwaiting hv => ?_
      refine ⟨n, h.pending _ hmem, _, List.mem_append_right _ (List.mem_singleton.mpr rfl), ?_⟩
      refine ⟨hmem, hwaiting, ⟨r, hr, hid, ofRecord_ok.mp hv⟩, ?_⟩
      rw [handle_of_pending hr hpending, ← hv]
      exact response_respond (isWaiting_iff.mpr hwaiting)
    · split
      · exact h.append.notify
      · exact h.append

theorem call_notify : (s.notify name data).call k = s.call k := by
  unfold Session.notify
  split
  · rfl
  · rfl
  · rfl
  · split <;> rfl

/-- A frame changes no call but the pending one that it names. -/
theorem pendingCall?_of_handle (h : (s.handle f).call k ≠ s.call k) :
    ∃ r n, f.inbound = .record r ∧ s.pendingCall? r = some (n, k) := by
  unfold Session.handle at h
  split at h
  · exact (h rfl).elim
  · exact (h rfl).elim
  · rename_i r hr
    split at h
    · rename_i n j hpending
      by_cases hk : k = j
      · exact ⟨r, n, hr, hk ▸ hpending⟩
      · exact (h (call_respond_ne hk)).elim
    · split at h
      · exact (h call_notify).elim
      · exact (h rfl).elim

theorem Correlated.handleAll (h : Correlated handled s) (fs : List Frame) :
    Correlated (handled ++ s.handlings fs) (fs.foldl Session.handle s) := by
  induction fs generalizing handled s with
  | nil => simpa [handlings] using h
  | cons f fs ih => simpa [handlings] using ih (h.handle f)

theorem Correlated.handlings (h : Correlated handled s) (hx : x ∈ s.handlings fs) :
    ∃ earlier, Correlated earlier x.before := by
  induction fs generalizing handled s with
  | nil => cases hx
  | cons f fs ih =>
    rcases List.mem_cons.mp hx with rfl | hx
    · exact ⟨handled, h⟩
    · exact ih (h.handle f) hx

-- ---------------------------------------------------------------------------
-- Readers
-- ---------------------------------------------------------------------------

theorem Correlated.release (h : Correlated handled s) : Correlated handled (s.release l) := by
  unfold Session.release
  split
  · exact h.congr rfl (List.Subset.refl _) rfl
  · exact h

theorem Correlated.updateConnection (h : Correlated handled s) :
    Correlated handled (s.updateConnection l g) :=
  h.congr rfl (List.Subset.refl _) rfl

theorem Correlated.endReader (h : Correlated handled s) : Correlated handled (s.endReader l f) := by
  unfold Session.endReader
  simp only
  split
  · exact h.updateConnection.enqueue
  · exact h.updateConnection

theorem Correlated.connectionEnded (h : Correlated handled s) :
    Correlated handled (s.connectionEnded l f) := by
  unfold Session.connectionEnded
  simp only
  split
  · exact h.release.failPending.endReader
  · split
    · exact h.release.failPending.endReader
    · exact h.release.failPending.endReader

theorem Correlated.wakeReader (h : Correlated handled s) : Correlated handled (s.wakeReader l) := by
  unfold Session.wakeReader
  split
  · exact h.updateConnection.enqueue
  · exact h

theorem Correlated.stepReader (h : Correlated handled s) :
    Correlated (handled ++ s.readings l) (s.stepReader l) := by
  unfold Session.stepReader readings hasEnded
  simp only
  cases hreader : (s.connection l).reader with
  | finished f => simpa [Reader.isFinished] using h
  | _ =>
    simp only [Reader.isFinished, Bool.false_or]
    split
    · simp only [List.append_nil]
      first
        | exact h.endReader
        | exact h.release.failPending.endReader
    · have hall := Correlated.handleAll (s := s.emptied l) h.updateConnection (s.connection l).inbox
      split
      · exact hall.connectionEnded
      · exact hall

-- ---------------------------------------------------------------------------
-- Closing
-- ---------------------------------------------------------------------------

theorem Correlated.endClosing (h : Correlated handled s) : Correlated handled (s.endClosing f) :=
  h.failPending.congr rfl (List.Subset.refl _) rfl

theorem Correlated.finishClosing (h : Correlated handled s) :
    Correlated handled (s.finishClosing held) := by
  unfold Session.finishClosing
  split
  · exact h.endClosing
  · simp only
    split
    · exact h.note.endClosing
    · split
      · exact h.congr rfl (List.Subset.refl _) rfl
      · exact h.note.endClosing

theorem Correlated.stepClosing (h : Correlated handled s) : Correlated handled s.stepClosing := by
  unfold Session.stepClosing
  split
  · split
    · exact h.note.finishClosing
    · exact h.finishClosing
  · exact h.endClosing
  · exact h

theorem Correlated.close (h : Correlated handled s) : Correlated handled s.close := by
  unfold Session.close
  split
  · exact h
  · have hclosed : Correlated handled
        { s with closed := true, httpOpen := false, reader := none, socket := none } :=
      h.congr rfl (List.Subset.refl _) rfl
    simp only
    split
    · exact hclosed.finishClosing
    · split
      · exact hclosed.note.finishClosing
      · exact hclosed.finishClosing
      · exact wakeReader (updateConnection (hclosed.congr rfl (List.Subset.refl _) rfl))

-- ---------------------------------------------------------------------------
-- Runs
-- ---------------------------------------------------------------------------

theorem Correlated.reportCall (h : Correlated handled s) : Correlated handled (s.reportCall k) := by
  unfold Session.reportCall
  simp only
  split
  · exact h.note
  · exact h

theorem Correlated.handledBy (h : Correlated handled s) (hx : x ∈ s.handledBy j) :
    ∃ earlier, Correlated earlier x.before := by
  cases j with
  | reader l =>
    simp only [Session.handledBy, readings] at hx
    split at hx
    · cases hx
    · exact handlings (s := s.emptied l) h.updateConnection hx
  | _ => cases hx

theorem Correlated.perform (h : Correlated handled s) (hk : ∀ k, j = .guard k → k < s.calls.length) :
    Correlated (handled ++ s.handledBy j) (s.perform j) := by
  cases j with
  | guard k => simpa [Session.handledBy, Session.perform] using h.stepGuard (hk k rfl)
  | carrier k => simpa [Session.handledBy, Session.perform] using h.stepCarrier
  | release k => simpa [Session.handledBy, Session.perform] using h.releaseGuard
  | alarm k => simpa [Session.handledBy, Session.perform] using h.ringAlarm
  | report k => simpa [Session.handledBy, Session.perform] using h.reportCall
  | reader l => exact h.stepReader
  | closing => simpa [Session.handledBy, Session.perform] using h.stepClosing
  | deliver event data => simpa [Session.handledBy, Session.perform] using h.note

theorem Correlated.next (h : Correlated handled s) (hj : s.next = some (j, t)) :
    Correlated handled t := by
  obtain ⟨_, _, _, rfl⟩ := next_eq hj
  exact h.congr rfl (List.Subset.refl _) rfl

theorem callOk_made (handled : List Handling) (k : Nat) (r : Request) (callback : Option Value) :
    CallOk handled k (Call.made r callback) where
  begun _ := ⟨rfl, rfl⟩
  fresh _ := rfl
  carrier := trivial
  response v hv := by cases hv
  guard v hv := by cases hv

theorem Correlated.begin (h : Correlated handled s) : Correlated handled (s.begin r callback) := by
  have hold {j n} (hj : ((s.begin r callback).call j).id = some n) : (s.call j).id = some n := by
    rw [call_begin] at hj
    split at hj
    · cases hj
    · exact hj
  refine ⟨?_, ?_, ?_, ?_⟩
  · exact fun k n hk => h.bound k n (hold hk)
  · exact fun i j n hi hj => h.distinct i j n (hold hi) (hold hj)
  · intro e he
    have hmade : e.2 < s.calls.length := lt_of_id (by simp [h.pending e he])
    rw [call_begin, if_neg (Nat.ne_of_lt hmade)]
    exact h.pending e he
  · intro k
    rw [call_begin]
    split
    · exact callOk_made handled k r callback
    · exact h.call k

theorem Correlated.reply (h : Correlated handled s) : Correlated handled (s.reply r a).1 := by
  unfold Session.reply
  split
  · exact h
  · rename_i k _
    have hok := (h.call k).carrier
    split
    · rename_i hx
      rw [hx] at hok
      split
      · exact h.wakeCarrier (h.id_of_carrier (by simp [hx])) hok
      · exact h
    · exact h

theorem Correlated.settle (h : Correlated handled s) : Correlated handled (s.settle a f).1 := by
  unfold Session.settle
  split
  · exact h
  · split
    · rename_i hx
      split
      · exact h.wakeCarrier (h.id_of_carrier (by simp [hx])) trivial
      · exact h
    · exact h

theorem Correlated.flush (h : Correlated handled s) : Correlated handled (s.flush k f) := by
  have hok := (h.call k).carrier
  unfold Session.flush
  split
  · rename_i hx
    rw [hx] at hok
    exact h.wakeCarrier (h.id_of_carrier (by simp [hx])) hok
  · exact h

theorem Correlated.endHangUp (h : Correlated handled s) : Correlated handled (s.endHangUp f) := by
  unfold Session.endHangUp
  split
  · exact h.congr rfl (List.Subset.refl _) rfl
  · exact h

theorem Correlated.arrive (h : Correlated handled s) : Correlated handled (s.arrive l f) := by
  unfold Session.arrive
  split
  · exact h
  · exact h.updateConnection.wakeReader

theorem Correlated.drop (h : Correlated handled s) : Correlated handled (s.drop l f) := by
  unfold Session.drop
  split
  · exact h
  · exact h.updateConnection.wakeReader

end Session

end Farcall
