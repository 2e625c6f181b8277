import Farcall.Proofs.Session.Conclusions
import Farcall.Proofs.Session.Entries
import Farcall.Proofs.Session.Receiving

/-!
# Responses over both transports

An object that answers a request and an object in a frame that names a pending call come to the same
end. A call that is to have no value has none, over both transports, once its message is delivered.
-/

namespace Farcall

def Outcome.ofResponse (r : List (Value × Value)) : Outcome :=
  match Value.getD r "error" with
  | .null => .value (Value.getD r "result")
  | e => .failed (.package (PackageError.ofResponse e))

theorem Outcome.ofExcept_ofRecord (r : List (Value × Value)) :
    Outcome.ofExcept (Response.ofRecord r) = .ofResponse r := by
  unfold Response.ofRecord Outcome.ofResponse
  cases Value.getD r "error" <;> rfl

theorem Outcome.ofExcept_unwrap (r : List (Value × Value)) :
    Outcome.ofExcept (Response.unwrap (.map r)) = .ofResponse r := by
  unfold Response.unwrap Outcome.ofResponse
  simp only
  cases Value.getD r "error" <;> rfl

namespace Carrier

def isPosting (q : Nat) : Carrier → Bool
  | .posting r .pending => r == q
  | _ => false

def isAwaiting : Carrier → Bool
  | .awaiting => true
  | .sending .pending => true
  | .sending (.kept none) => true
  | _ => false

theorem isPosting_iff {x : Carrier} : x.isPosting q ↔ x = .posting q .pending := by
  unfold isPosting
  split <;> simp_all

theorem isAwaiting_iff {x : Carrier} : x.isAwaiting ↔
    x = .awaiting ∨ x = .sending .pending ∨ x = .sending (.kept none) := by
  unfold isAwaiting
  split <;> simp_all

end Carrier

-- ---------------------------------------------------------------------------
-- Requests for a response
-- ---------------------------------------------------------------------------

/-- Only a call that is to have a response gets one. -/
def Standing.Modest (x : Standing) : Prop :=
  x.call.request.expectReturn = false → x.call.response = none

theorem Standing.Modest.step (h : Standing.Modest x) (hstep : Standing.Step isOpen x y) :
    Standing.Modest y := by
  unfold Standing.Modest at h ⊢
  cases hstep <;> simp_all [Call.made]

theorem Standing.modest_of_steps (h : Standing.Modest x) (hsteps : Standing.Steps isOpen x y) :
    Standing.Modest y := by
  induction hsteps with
  | refl => exact h
  | tail _ hstep ih => exact ih.step hstep

namespace Session

variable {s t : Session} {o : Outcome} {handled : List Handling}

-- ---------------------------------------------------------------------------
-- Requests
-- ---------------------------------------------------------------------------

/-- A call waits for the answer to its request. -/
structure Posted (s : Session) (q k : Nat) : Prop where
  request : s.requests[q]? = some k
  carrier : (s.call k).carrier.isPosting q
  underWay : (s.call k).UnderWay

instance : Decidable (Posted s q k) :=
  decidable_of_iff (s.requests[q]? = some k ∧ (s.call k).carrier.isPosting q ∧ (s.call k).UnderWay)
    ⟨fun ⟨hrequest, hx, hway⟩ => ⟨hrequest, hx, hway⟩,
      fun ⟨hrequest, hx, hway⟩ => ⟨hrequest, hx, hway⟩⟩

theorem Posted.concludes (h : Posted s q k) (hs : Run handled s) {a : Answer}
    (ho : ∀ address, Outcome.ofExcept (Response.ofAnswer (s.call k).request address a) = o) :
    Concludes k o (s.after (.reply q a)) := by
  have hx := Carrier.isPosting_iff.mp h.carrier
  have hk : k < s.calls.length := lt_of_carrier (by simp [hx])
  have hresponse : (s.call k).response = none := (hs.held k).waiting (by
    show (s.call k).carrier.isSent = false
    rw [hx]
    rfl)
  have hcall : (s.after (.reply q a)).call k =
      { s.call k with carrier := .posting q (.kept a) } := by
    simp only [Session.after, Session.reply, h.request, hx, if_true]
    exact call_setCarrier_self hk
  refine .carried (hcall ▸ h.underWay.goOn _ _ _) ?_
  exact .answer (by rw [hcall]) (by rw [hcall, hresponse]) (by rwa [hcall])

theorem ofAnswer_of_success {request : Request} (hstatus : Status.isSuccess status = true)
    (address : String) (location : Option String) (body : List UInt8) :
    Response.ofAnswer request address (.response status location body) =
      if request.expectReturn then Response.ofBody request.method body else .ok .null := by
  simp only [Response.ofAnswer, hstatus]
  cases request.expectReturn <;> rfl

theorem Posted.endsWith (h : Posted s q k) (hs : Run handled s)
    (hreturn : (s.call k).request.expectReturn = true) (hstatus : Status.isSuccess status = true)
    (location : Option String) (body : List UInt8) :
    EndsWith k (.ofExcept (Response.ofBody (s.call k).request.method body))
      (s.after (.reply q (.response status location body))) := by
  refine (h.concludes hs fun address => ?_).endsWith (hs.move _)
  rw [ofAnswer_of_success hstatus, if_pos hreturn]

-- ---------------------------------------------------------------------------
-- Frames
-- ---------------------------------------------------------------------------

/-- A call waits for its response over the socket, perhaps while its frame is still being sent. -/
structure Awaits (s : Session) (n k : Nat) : Prop where
  pending : (n, k) ∈ s.pending
  waits : (s.call k).isWaiting
  carrier : (s.call k).carrier.isAwaiting
  underWay : (s.call k).UnderWay

instance : Decidable (Awaits s n k) :=
  decidable_of_iff ((n, k) ∈ s.pending ∧ (s.call k).isWaiting ∧ (s.call k).carrier.isAwaiting ∧
      (s.call k).UnderWay)
    ⟨fun ⟨hpending, hwaits, hx, hway⟩ => ⟨hpending, hwaits, hx, hway⟩,
      fun ⟨hpending, hwaits, hx, hway⟩ => ⟨hpending, hwaits, hx, hway⟩⟩

theorem Awaits.concludes (h : Awaits s n k) (hs : Correlated handled s)
    (hr : f.inbound = .record r) (hid : Response.id? r = some (n : Int)) :
    Concludes k (.ofResponse r) (s.handle f) := by
  have hpending : s.pendingCall? r = some (n, k) := by
    cases hcall : s.pendingCall? r with
    | none =>
      have hnone := pendingCall?_eq_none_iff.mp hcall
      exact (hnone _ h.pending hid).elim
    | some e =>
      obtain ⟨n', k'⟩ := e
      obtain ⟨hmem, hid'⟩ := pendingCall?_mem hcall
      obtain rfl := id?_inj hid hid'
      rw [hs.distinct k' k n (hs.pending _ hmem) (hs.pending _ h.pending)]
  have hcall : (s.handle f).call k =
      { s.call k with response := some (.kept (Response.ofRecord r)) } := by
    rw [handle_of_pending hr hpending, answer, call_respond, if_pos ⟨rfl, h.waits⟩]
    rfl
  refine .carried (hcall ▸ h.underWay.goOn _ _ _) ?_
  have ho : ((s.handle f).call k).gain? = some (.ofResponse r) := by
    simp only [Call.gain?, hcall, Outcome.ofExcept_ofRecord]
  rcases Carrier.isAwaiting_iff.mp h.carrier with hx | hx | hx
  · exact .response (by rw [hcall, hx]) (by rw [hcall]) (Outcome.ofExcept_ofRecord r)
  · exact .sending (by rw [hcall, hx]) (.inl rfl) ho
  · exact .sending (by rw [hcall, hx]) (.inr rfl) ho

/-- A frame that is not read as an object is logged at most. -/
theorem Awaits.handle (h : Awaits s n k) (hf : ∀ r, f.read ≠ .ok (.map r)) :
    Awaits (s.handle f) n k := by
  unfold Session.handle
  cases hin : f.inbound with
  | record r => exact (hf r (Frame.inbound_eq_record_iff.mp hin)).elim
  | other => exact h
  | unreadable => exact ⟨h.pending, h.waits, h.carrier, h.underWay⟩

theorem changes_of_mem_handlings (hx : x ∈ s.handlings fs) :
    Changes who (x.before.handle x.frame) (fs.foldl Session.handle s) := by
  induction fs generalizing s with
  | nil => cases hx
  | cons f fs ih =>
    rcases List.mem_cons.mp hx with rfl | hx
    · exact changes_handleAll fs
    · exact ih hx

theorem changes_of_mem_readings (hx : x ∈ s.readings c) :
    Changes who (x.before.handle x.frame) (s.stepReader c) := by
  unfold readings at hx
  split at hx
  · cases hx
  · rename_i hgoes
    rw [Bool.not_eq_true, Bool.or_eq_false_iff] at hgoes
    rw [stepReader_eq hgoes.1 hgoes.2]
    split
    · exact (changes_of_mem_handlings hx).trans changes_connectionEnded
    · exact changes_of_mem_handlings hx

theorem changes_of_mem_handledIn (hx : x ∈ s.handledIn m) :
    Changes who (x.before.handle x.frame) (s.after m) := by
  cases m with
  | work =>
    simp only [handledIn] at hx
    simp only [Session.after, step]
    cases hj : s.next with
    | none => simp [hj] at hx
    | some next =>
      obtain ⟨j, t⟩ := next
      simp only [hj] at hx
      cases j with
      | reader c => exact changes_of_mem_readings hx
      | _ => cases hx
  | _ => cases hx

-- ---------------------------------------------------------------------------
-- Calls without a response
-- ---------------------------------------------------------------------------

/-- A call has no response to wait for, and a carrier at work that nobody stops. -/
structure SendsOnly (s : Session) (k : Nat) : Prop where
  lt : k < s.calls.length
  expectReturn : (s.call k).request.expectReturn = false
  response : (s.call k).response = none
  carrier : (s.call k).carrier ≠ .queueing .pending
  underWay : (s.call k).UnderWay

/-- No frame is sent, or a call has all it takes to end without a value. -/
def Delivers (k : Nat) (s t : Session) : Prop :=
  t.frames = s.frames ∨ Concludes k (.value .null) t

theorem Delivers.after (h : Delivers k t u) (hframes : t.frames = s.frames) : Delivers k s u :=
  h.imp_left fun hsame => hsame.trans hframes

theorem delivers_steady (h : Steady none s t) : Delivers k s t := .inl h.frames

theorem frames_finishCarrier : (s.finishCarrier k o).frames = s.frames := by
  unfold Session.finishCarrier
  simp only
  split <;> rfl

theorem frames_awaitResponse : (s.awaitResponse k).frames = s.frames := by
  unfold Session.awaitResponse
  split
  · exact frames_finishCarrier
  · rfl
  · exact frames_finishCarrier
  · exact frames_finishCarrier

theorem frames_note (h : x.frame? = none) : (s.note x).frames = s.frames := by
  simp [Session.frames, Session.note, h]

theorem frames_post : (s.post k).frames = s.frames := by
  unfold Session.post
  simp only
  split
  · exact frames_finishCarrier
  · exact frames_note rfl

namespace SendsOnly

theorem congr (h : SendsOnly s k) (hlength : t.calls.length = s.calls.length)
    (hcall : t.call k = s.call k) : SendsOnly t k where
  lt := hlength ▸ h.lt
  expectReturn := hcall ▸ h.expectReturn
  response := hcall ▸ h.response
  carrier := hcall ▸ h.carrier
  underWay := hcall ▸ h.underWay

theorem beside (h : SendsOnly s k) (hchanges : Changes none s t) (hsteady : Steady none s t) :
    SendsOnly t k :=
  h.congr hsteady.silent.length
    (call_of_changes hchanges (by simp) ⟨by simp [h.response], h.carrier⟩)

/-- Once the frame of the call is sent there is nothing to wait for but the end of sending. -/
theorem send (h : SendsOnly s k) : Delivers k s (s.send k l) := by
  have hregistered : Steady (some k) s (s.registered k l) := steady_registered
  have hcall : (s.registered k l).call k =
      { s.call k with link := some l, carrier := .sending .pending } := by
    rw [call_registered h.lt, if_pos rfl, h.expectReturn]
    rfl
  have hlength : k < (s.registered k l).calls.length := hregistered.silent.length ▸ h.lt
  rw [send_eq h.lt]
  refine Delivers.after ?_ hregistered.frames
  generalize s.registered k l = r at hcall hlength
  have hway : (r.call k).UnderWay := by
    rw [hcall]
    exact h.underWay.goOn _ _ _
  have hgain : (r.call k).gain? = some (.value .null) := by
    rw [Call.gain?, hcall]
    simp only [h.response]
  unfold Session.transmit
  simp only
  split
  · exact .inl frames_finishCarrier
  · rename_i text _
    split
    · exact delivers_steady steady_sendFailed
    · split
      · have hsending : ((r.note (.sent l text)).setCarrier k (.sending .pending)).call k =
            { r.call k with carrier := .sending .pending } := call_setCarrier_self hlength
        refine .inr (.carried ?_ (.sending (by rw [hsending]) (.inl rfl) ?_))
        · rw [hsending]
          exact hway.goOn _ _ _
        · rw [hsending]
          exact hgain
      · exact .inr (concludes_awaitResponse hlength hway hgain)

theorem sendAfter (h : SendsOnly s k) (hchanges : Changes none s t) (hsteady : Steady none s t) :
    Delivers k s (t.send k l) :=
  (h.beside hchanges hsteady).send.after hsteady.frames

theorem connected (h : SendsOnly s k) : Delivers k s (s.connected k) :=
  h.sendAfter (changes_openConnection.trans changes_unlock)
    (steady_openConnection.trans steady_unlock)

theorem connect (h : SendsOnly s k) : Delivers k s (s.connect k) := by
  unfold Session.connect
  simp only
  generalize hattempt : Session.note _ _ = t
  have hframes : t.frames = s.frames := by
    rw [← hattempt]
    exact frames_note rfl
  have ht : SendsOnly t k := by
    rw [← hattempt]
    exact h.congr rfl rfl
  split
  · exact ht.connected.after hframes
  · exact .inl hframes
  · exact (delivers_steady steady_notConnected).after hframes

theorem useSocket (h : SendsOnly s k) : Delivers k s (s.useSocket k) := by
  have hlocked : SendsOnly { s with locked := true } k := h.congr rfl rfl
  unfold Session.useSocket
  simp only
  split
  · exact hlocked.sendAfter changes_unlock steady_unlock
  · exact hlocked.connect

theorem takeTurn (h : SendsOnly s k) : Delivers k s (s.takeTurn k) := by
  unfold Session.takeTurn
  split
  · exact h.useSocket
  · exact .inl rfl

theorem endQueueing (h : SendsOnly s k) : Delivers k s (s.endQueueing k cancelled) := by
  have hleft : SendsOnly { s with queue := s.queue.erase k } k := h.congr rfl rfl
  unfold Session.endQueueing
  simp only
  split
  · refine .inl (frames_finishCarrier.trans ?_)
    split
    · rfl
    · exact (steady_passTurn : Steady none _ _).frames
  · exact hleft.useSocket

/-- If a frame is sent in the work of the carrier, its call has all it takes to end. -/
theorem stepCarrier (h : SendsOnly s k) : Delivers k s (s.stepCarrier k) := by
  unfold Session.stepCarrier
  simp only
  generalize hset : s.updateCall k (fun c => { c with carrierCancelled := false }) = t
  have hflag : SendsOnly t k := by
    rw [← hset]
    exact h.congr length_updateCall (call_uncancelled h.underWay.carrierCancelled k)
  have hframes : t.frames = s.frames := by
    rw [← hset]
    rfl
  refine Delivers.after ?_ hframes
  have hfinished {o} : Delivers k t (t.finishCarrier k o) := .inl frames_finishCarrier
  split
  · split
    · exact hfinished
    · split
      · exact .inl frames_post
      · exact hflag.takeTurn
  · exact hflag.endQueueing
  · split
    · exact hflag.connected
    · exact delivers_steady steady_notConnected
    · exact .inl (frames_finishCarrier.trans (steady_unlock : Steady none _ _).frames)
  · split
    · exact hfinished
    · exact hfinished
  · split
    · exact .inl frames_awaitResponse
    · exact delivers_steady steady_sendFailed
    · exact hfinished
  · split
    · exact hfinished
    · exact hfinished
  · exact .inl rfl
  · exact .inl rfl

end SendsOnly

-- ---------------------------------------------------------------------------
-- Runs
-- ---------------------------------------------------------------------------

theorem Run.modest (h : Run handled s) (k : Nat) : (s.standing k).Modest := by
  induction h with
  | new address customEncryption timeout notices =>
    rw [standing, call_of_length_le (Nat.zero_le k)]
    exact fun _ => rfl
  | move hrun m ih => exact Standing.modest_of_steps ih (hrun.sound.steps m k)

/-- The next job sends the frame of a call that is to have no value. -/
structure Dispatches (s : Session) (k : Nat) : Prop where
  next : s.next.any (fun (j, _) => j.isCarrier k)
  sent : (s.after .work).frames ≠ s.frames
  expectReturn : (s.call k).request.expectReturn = false
  underWay : (s.call k).UnderWay

instance : Decidable (Dispatches s k) :=
  decidable_of_iff (s.next.any (fun (j, _) => j.isCarrier k) ∧ (s.after .work).frames ≠ s.frames ∧
      (s.call k).request.expectReturn = false ∧ (s.call k).UnderWay)
    ⟨fun ⟨hnext, hsent, hreturn, hway⟩ => ⟨hnext, hsent, hreturn, hway⟩,
      fun ⟨hnext, hsent, hreturn, hway⟩ => ⟨hnext, hsent, hreturn, hway⟩⟩

theorem Dispatches.concludes (h : Dispatches s k) (hs : Run handled s) :
    Concludes k (.value .null) (s.after .work) := by
  obtain ⟨t, hj⟩ : ∃ t, s.next = some (.carrier k, t) := by
    obtain ⟨⟨j, t⟩, hj, hk⟩ := (Option.any_eq_true _ _).mp h.next
    cases j with
    | carrier i => exact ⟨t, hj.trans (by rw [eq_of_beq hk])⟩
    | _ => cases hk
  have hready := (hs.sound.scheduled.next hj).1.isReady (List.mem_singleton.mpr rfl)
  have hcall : t.call k = s.call k := by
    obtain ⟨_, _, _, rfl⟩ := next_eq hj
    rfl
  have hframes : t.frames = s.frames := by
    obtain ⟨_, _, _, rfl⟩ := next_eq hj
    rfl
  have hsends : SendsOnly t k := by
    refine ⟨lt_of_isReady hready, hcall ▸ h.expectReturn, ?_, fun hx => ?_, hcall ▸ h.underWay⟩
    · rw [hcall]
      exact hs.modest k h.expectReturn
    · simp [Call.isReady, hx, Carrier.isReady, Promise.isPending] at hready
  have hafter : s.after .work = t.stepCarrier k := by
    simp only [Session.after, step, hj]
    rfl
  have hsent := h.sent
  rw [hafter] at hsent ⊢
  exact (hsends.stepCarrier.after hframes).resolve_left hsent

end Session

end Farcall
