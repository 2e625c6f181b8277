import Farcall.Proofs.Session.Arrivals
import Farcall.Proofs.Session.Changes

/-!
# How calls come to their end

A carrier that has all it takes ends in one way. From there on the call comes to that end whatever
else happens, unless it is cancelled, its time runs out, or its frame turns out not to be sent; and it
has come to it once there is nothing left to do.
-/

namespace Farcall

def Guard.isWaiting : Guard → Bool
  | .waiting .pending => true
  | _ => false

theorem Guard.isWaiting_iff {g : Guard} : g.isWaiting ↔ g = .waiting .pending := by
  unfold Guard.isWaiting
  split <;> simp_all

namespace Call

/-- The guard waits for the carrier or the alarm, and nobody has asked for an end. -/
structure UnderWay (c : Call) : Prop where
  guard : c.guard = .waiting .pending
  guardCancelled : c.guardCancelled = false
  carrierCancelled : c.carrierCancelled = false

instance (c : Call) : Decidable c.UnderWay :=
  decidable_of_iff (c.guard.isWaiting ∧ c.guardCancelled = false ∧ c.carrierCancelled = false)
    ⟨fun ⟨hg, hflag, hcancelled⟩ => ⟨Guard.isWaiting_iff.mp hg, hflag, hcancelled⟩,
      fun ⟨hg, hflag, hcancelled⟩ => ⟨Guard.isWaiting_iff.mpr hg, hflag, hcancelled⟩⟩

theorem UnderWay.goOn {c : Call} (h : c.UnderWay) (l : Option Nat)
    (p : Option (Promise (Except Failure Value))) (x : Carrier) :
    UnderWay { c with link := l, response := p, carrier := x } :=
  ⟨h.guard, h.guardCancelled, h.carrierCancelled⟩

/-- How a call ends whose frame is sent, if there is nothing to wait for. -/
def gain? (c : Call) : Option Outcome :=
  match c.response with
  | none => some (.value .null)
  | some (.kept r) => some (.ofExcept r)
  | _ => none

/-- The carrier of a call has what it takes to end in some way. -/
inductive Holds (c : Call) (o : Outcome) : Prop
  | answer (hx : c.carrier = .posting q (.kept a)) (hp : c.response = none)
    (ho : ∀ address, Outcome.ofExcept (Response.ofAnswer c.request address a) = o)
  | response (hx : c.carrier = .awaiting) (hp : c.response = some (.kept r))
    (ho : Outcome.ofExcept r = o)
  | sending (hx : c.carrier = .sending p) (hp : p = .pending ∨ p = .kept none)
    (ho : c.gain? = some o)

theorem Holds.settled {c : Call} (h : c.Holds o) : c.Settled := by
  cases h with
  | answer hx hp _ => simp [Settled, hx, hp]
  | response hx hp _ => simp [Settled, hx, hp]
  | sending hx _ ho =>
    refine ⟨fun hp => ?_, by simp [hx]⟩
    simp [gain?, hp] at ho

theorem Holds.not_isFinished {c : Call} (h : c.Holds o) : c.carrier.isFinished = false := by
  cases h with
  | answer hx => rw [hx]; rfl
  | response hx => rw [hx]; rfl
  | sending hx => rw [hx]; rfl

theorem Holds.isReady {c : Call} (h : c.Holds o) (hsent : c.carrier ≠ .sending .pending) :
    c.isReady = true := by
  unfold Call.isReady
  cases h with
  | answer hx => simp [hx, Carrier.isReady, Promise.isPending]
  | response hx hp => simp [hx, hp, Carrier.isReady]
  | sending hx hp =>
    rcases hp with rfl | rfl
    · exact (hsent hx).elim
    · simp [hx, Carrier.isReady, Promise.isPending]

end Call

namespace Session

variable {s t : Session} {o : Outcome} {active : List Job} {handled : List Handling}

/-- A call comes to its end: its carrier has what it takes, then has ended, then the guard is told, and
then the call has ended. -/
inductive Concludes (k : Nat) (o : Outcome) (s : Session) : Prop
  | carried (hway : (s.call k).UnderWay) (h : (s.call k).Holds o)
  | carrierEnded (hway : (s.call k).UnderWay) (hx : (s.call k).carrier = .finished o)
    (hp : (s.call k).response ≠ some .pending) (hrelease : .release k ∈ s.ready)
  | guardTold (hg : (s.call k).guard = .waiting (.kept ()))
    (hflag : (s.call k).guardCancelled = false) (hx : (s.call k).carrier = .finished o)
    (hp : (s.call k).response ≠ some .pending)
  | ended (hg : (s.call k).guard = .finished o) (hx : (s.call k).carrier = .finished o)
    (hp : (s.call k).response ≠ some .pending)

namespace Concludes

theorem settled (h : Concludes k o s) : (s.call k).Settled := by
  cases h with
  | carried _ h => exact h.settled
  | carrierEnded _ hx hp _ => exact ⟨hp, by simp [hx]⟩
  | guardTold _ _ hx hp => exact ⟨hp, by simp [hx]⟩
  | ended _ hx hp => exact ⟨hp, by simp [hx]⟩

theorem carrier_eq (h : Concludes k o s) :
    (s.call k).Holds o ∨ (s.call k).carrier = .finished o := by
  cases h with
  | carried _ h => exact .inl h
  | carrierEnded _ hx _ _ => exact .inr hx
  | guardTold _ _ hx _ => exact .inr hx
  | ended _ hx _ => exact .inr hx

theorem lt (h : Concludes k o s) : k < s.calls.length := by
  refine lt_of_carrier fun habsent => ?_
  rcases h.carrier_eq with hholds | hx
  · cases hholds with
    | answer hx => simp [habsent] at hx
    | response hx => simp [habsent] at hx
    | sending hx => simp [habsent] at hx
  · simp [habsent] at hx

theorem congr (h : Concludes k o s) (hcall : t.call k = s.call k)
    (hrelease : .release k ∈ s.ready → .release k ∈ t.ready) : Concludes k o t := by
  cases h with
  | carried hway h => exact .carried (hcall ▸ hway) (hcall ▸ h)
  | carrierEnded hway hx hp hready =>
    exact .carrierEnded (hcall ▸ hway) (hcall ▸ hx) (hcall ▸ hp) (hrelease hready)
  | guardTold hg hflag hx hp =>
    exact .guardTold (hcall ▸ hg) (hcall ▸ hflag) (hcall ▸ hx) (hcall ▸ hp)
  | ended hg hx hp => exact .ended (hcall ▸ hg) (hcall ▸ hx) (hcall ▸ hp)

theorem changes (h : Concludes k o s) (hchanges : Changes who s t) (hk : who ≠ some k) :
    Concludes k o t :=
  h.congr (call_of_changes hchanges hk h.settled) fun hin => (ready_of_changes hchanges).subset hin

theorem beside (h : Concludes k o s) (hchanges : Changes none s t) : Concludes k o t :=
  h.changes hchanges (by simp)

end Concludes

-- ---------------------------------------------------------------------------
-- Jobs
-- ---------------------------------------------------------------------------

theorem concludes_finishCarrier (hk : k < s.calls.length) (hway : (s.call k).UnderWay)
    (hp : (s.call k).response ≠ some .pending) : Concludes k o (s.finishCarrier k o) := by
  have hcall : (s.finishCarrier k o).call k = { s.call k with carrier := .finished o } := by
    rw [call_finishCarrier, call_setCarrier_self hk]
  refine .carrierEnded ?_ (by rw [hcall]) (by rwa [hcall]) ?_
  · rw [hcall]
    exact hway.goOn _ _ _
  · unfold Session.finishCarrier
    simp only [call_setCarrier_self hk, hway.guard, ready_enqueue]
    simp

theorem concludes_awaitResponse (hk : k < s.calls.length) (hway : (s.call k).UnderWay)
    (ho : (s.call k).gain? = some o) : Concludes k o (s.awaitResponse k) := by
  unfold Session.awaitResponse
  unfold Call.gain? at ho
  split at ho
  · rename_i hp
    cases ho
    rw [hp]
    exact concludes_finishCarrier hk hway (by simp [hp])
  · rename_i r hp
    cases ho
    rw [hp]
    exact concludes_finishCarrier hk hway (by simp [hp])
  · cases ho

theorem call_uncancelled (h : (s.call k).carrierCancelled = false) (j : Nat) :
    (s.updateCall k fun c => { c with carrierCancelled := false }).call j = s.call j := by
  rw [call_updateCall]
  split
  · rename_i hj
    rw [hj.1, ← h]
  · rfl

theorem concludes_stepCarrier (hk : k < s.calls.length) (hway : (s.call k).UnderWay)
    (h : (s.call k).Holds o) (hsent : (s.call k).carrier ≠ .sending .pending) :
    Concludes k o (s.stepCarrier k) := by
  have hcall := call_uncancelled hway.carrierCancelled
  have hlength : k < (s.updateCall k fun c => { c with carrierCancelled := false }).calls.length := by
    simpa using hk
  unfold Session.stepCarrier
  simp only [hway.carrierCancelled]
  have hway' := hway
  have hp := h.settled.1
  rw [← hcall k] at hway' hp
  cases h with
  | answer hx _ ho =>
    simp only [hx, ho]
    exact concludes_finishCarrier hlength hway' hp
  | response hx hr ho =>
    simp only [hx, hr, ho]
    exact concludes_finishCarrier hlength hway' hp
  | sending hx hp' ho =>
    rcases hp' with rfl | rfl
    · exact (hsent hx).elim
    · simp only [hx]
      exact concludes_awaitResponse hlength hway' (by rwa [hcall])

theorem concludes_stepGuard (hk : k < s.calls.length) (hg : (s.call k).guard = .waiting (.kept ()))
    (hx : (s.call k).carrier = .finished o) (hp : (s.call k).response ≠ some .pending) :
    Concludes k o (s.stepGuard k) := by
  have hcall : (s.stepGuard k).call k =
      { s.call k with guardCancelled := false, guard := .finished o } := by
    unfold Session.stepGuard
    simp only [hg, hx]
    refine (call_setGuard (by simpa using hk)).trans ?_
    rw [if_pos rfl, call_updateCall_self hk]
    simp only [hx]
  exact .ended (by rw [hcall]) (by rwa [hcall]) (by rwa [hcall])

theorem concludes_releaseGuard (hk : k < s.calls.length) (hway : (s.call k).UnderWay)
    (hx : (s.call k).carrier = .finished o) (hp : (s.call k).response ≠ some .pending) :
    Concludes k o (s.releaseGuard k) := by
  have hcall : (s.releaseGuard k).call k = { s.call k with guard := .waiting (.kept ()) } := by
    unfold Session.releaseGuard
    simp only [hway.guard]
    exact (call_setGuard hk).trans (if_pos rfl)
  refine .guardTold (by rw [hcall]) ?_ (by rwa [hcall]) (by rwa [hcall])
  rw [hcall]
  exact hway.guardCancelled

theorem Concludes.stepCarrier (h : Concludes k o t) (hs : Scheduled [.carrier k] t) :
    Concludes k o (t.stepCarrier k) := by
  have hready := hs.isReady (List.mem_singleton.mpr rfl)
  have hunfinished := not_isFinished_of_isReady hready
  have hended (hx : (t.call k).carrier = .finished o) : False := by
    simp [hx, Carrier.isFinished] at hunfinished
  cases h with
  | carried hway hholds =>
    refine concludes_stepCarrier (lt_of_isReady hready) hway hholds fun hsent => ?_
    simp [Call.isReady, hsent, Carrier.isReady, Promise.isPending] at hready
  | carrierEnded _ hx _ _ => exact (hended hx).elim
  | guardTold _ _ hx _ => exact (hended hx).elim
  | ended _ hx _ => exact (hended hx).elim

theorem Concludes.stepGuard (h : Concludes k o t) (hs : Scheduled [.guard k] t) :
    Concludes k o (t.stepGuard k) := by
  obtain ⟨hk, hready⟩ := hs.guard_isReady (List.mem_singleton.mpr rfl)
  have hwaiting (hway : (t.call k).UnderWay) : False := by
    simp [hway.guard, Guard.isReady, Promise.isPending] at hready
  cases h with
  | carried hway _ => exact (hwaiting hway).elim
  | carrierEnded hway _ _ _ => exact (hwaiting hway).elim
  | guardTold hg _ hx hp => exact concludes_stepGuard hk hg hx hp
  | ended hg _ _ => simp [hg, Guard.isReady] at hready

/-- A job takes a call on to its end, or has nothing to do with it. -/
theorem Concludes.perform (h : Concludes k o s) (hs : Scheduled [j] t) (halarm : j ≠ .alarm k)
    (hcalls : t.calls = s.calls) (hready : s.ready ⊆ j :: t.ready) :
    Concludes k o (t.perform j) := by
  have hcall : t.call k = s.call k := by rw [Session.call, hcalls, Session.call]
  have hlength : k < t.calls.length := hcalls ▸ h.lt
  have hothers (hj : j ≠ .release k) : Concludes k o t := h.congr hcall fun hin =>
    (List.mem_cons.mp (hready hin)).resolve_left hj.symm
  by_cases hj : whom j = some k
  · cases j with
    | guard i =>
      obtain rfl := Option.some.inj hj
      exact (hothers (by simp)).stepGuard hs
    | carrier i =>
      obtain rfl := Option.some.inj hj
      exact (hothers (by simp)).stepCarrier hs
    | release i =>
      obtain rfl := Option.some.inj hj
      have hfinished := hs.releases i (List.mem_cons_self)
      cases h with
      | carried _ hholds =>
        rw [hcall, hholds.not_isFinished] at hfinished
        cases hfinished
      | carrierEnded hway hx hp _ =>
        exact concludes_releaseGuard hlength (hcall ▸ hway) (hcall ▸ hx) (hcall ▸ hp)
      | guardTold hg hflag hx hp =>
        have ht : Concludes i o t := .guardTold (hcall ▸ hg) (hcall ▸ hflag) (hcall ▸ hx) (hcall ▸ hp)
        simpa only [Session.perform, Session.releaseGuard, hcall, hg] using ht
      | ended hg hx hp =>
        have ht : Concludes i o t := .ended (hcall ▸ hg) (hcall ▸ hx) (hcall ▸ hp)
        simpa only [Session.perform, Session.releaseGuard, hcall, hg] using ht
    | alarm i => exact absurd (congrArg Job.alarm (Option.some.inj hj)) halarm
    | _ => cases hj
  · refine (hothers ?_).changes (changes_perform j) hj
    rintro rfl
    exact hj rfl

-- ---------------------------------------------------------------------------
-- Moves
-- ---------------------------------------------------------------------------

/-- The moves by which a call may come to another end: it is cancelled, its time runs out, or its frame
turns out not to be sent. -/
def Disturbs (s : Session) (k : Nat) : Move → Prop
  | .cancel j => j = k
  | .flush j (some _) => j = k
  | .work => ∃ t, s.next = some (.alarm k, t)
  | _ => False

theorem Concludes.work (h : Concludes k o s) (hs : Scheduled [] s) (hm : ¬s.Disturbs k .work) :
    Concludes k o (s.after .work) := by
  simp only [Session.after, step]
  cases hj : s.next with
  | none =>
    obtain ⟨ks, hready⟩ := ready_beginRound (jobs_of_next_eq_none hj)
    refine h.congr rfl fun hin => ?_
    exact hready ▸ List.mem_append_left _ hin
  | some next =>
    obtain ⟨j, t⟩ := next
    obtain ⟨ks, hready⟩ := ready_next hj
    refine h.perform (hs.next hj).1 ?_ ?_ ?_
    · rintro rfl
      exact hm ⟨t, hj⟩
    · obtain ⟨_, _, _, rfl⟩ := next_eq hj
      rfl
    · rw [List.singleton_append] at hready
      rw [hready]
      exact List.subset_append_left _ _

theorem Concludes.reply (h : Concludes k o s) (r : Nat) (a : Answer) :
    Concludes k o (s.reply r a).1 := by
  unfold Session.reply
  split
  · exact h
  · rename_i j _
    split
    · rename_i hx
      split
      · refine h.changes (changes_wakeCarrier (k := j)) fun hj => ?_
        obtain rfl := Option.some.inj hj
        rcases h.carrier_eq with hholds | hfinished
        · cases hholds <;> simp_all
        · simp [hx] at hfinished
      · exact h
    · exact h

theorem Concludes.settle (h : Concludes k o s) (a : Nat) (f : Option LinkFailure) :
    Concludes k o (s.settle a f).1 := by
  unfold Session.settle
  split
  · exact h
  · rename_i j _
    split
    · rename_i hx
      split
      · refine h.changes (changes_wakeCarrier (k := j)) fun hj => ?_
        obtain rfl := Option.some.inj hj
        rcases h.carrier_eq with hholds | hfinished
        · cases hholds <;> simp_all
        · simp [hx] at hfinished
      · exact h
    · exact h

theorem Concludes.flush (h : Concludes k o s) : Concludes k o (s.flush k none) := by
  unfold Session.flush
  split
  · rename_i hx
    have hcall : (s.wakeCarrier k (.sending (.kept none))).call k =
        { s.call k with carrier := .sending (.kept none) } := call_setCarrier_self h.lt
    cases h with
    | carried hway hholds =>
      refine .carried (hcall ▸ hway.goOn _ _ _) ?_
      cases hholds with
      | sending _ _ ho => exact .sending (by rw [hcall]) (.inr rfl) (by rwa [hcall])
      | answer hx' => simp [hx] at hx'
      | response hx' => simp [hx] at hx'
    | carrierEnded _ hfinished _ _ => simp [hx] at hfinished
    | guardTold _ _ hfinished _ => simp [hx] at hfinished
    | ended _ hfinished _ => simp [hx] at hfinished
  · exact h

/-- A call stays on its way to its end, whatever else happens. -/
theorem Concludes.after (h : Concludes k o s) (hs : Sound handled s) {m : Move}
    (hm : ¬s.Disturbs k m) : Concludes k o (s.after m) := by
  have hothers {j : Nat} (hj : j ≠ k) : some j ≠ some k := fun heq => hj (Option.some.inj heq)
  cases m with
  | work => exact h.work hs.scheduled hm
  | begin r callback =>
    refine h.congr (call_begin_of_lt h.lt) fun hin => ?_
    rw [Session.after, ready_begin]
    exact List.mem_append_left _ hin
  | cancel j => exact h.changes changes_cancel (hothers hm)
  | close => exact h.beside changes_close
  | reply r a => exact h.reply r a
  | settle a f => exact h.settle a f
  | flush j f =>
    by_cases hj : j = k
    · subst hj
      cases f with
      | none => exact h.flush
      | some f => exact (hm rfl).elim
    · exact h.changes changes_flush (hothers hj)
  | endHangUp f => exact h.beside changes_endHangUp
  | arrive l f => exact h.beside changes_arrive
  | drop l f => exact h.beside changes_drop
  | deliver event data => exact h.beside changes_enqueue
  | advance seconds => exact h.congr rfl id
  | network n => exact h.congr rfl id
  | observe => exact h.congr rfl id

/-- Some moves of which none may take a call to another end. -/
def Undisturbed (k : Nat) : Session → List Move → Prop
  | _, [] => True
  | s, m :: ms => ¬s.Disturbs k m ∧ (s.after m).Undisturbed k ms

theorem Concludes.afterAll (h : Concludes k o s) (hs : Run handled s) (ms : List Move)
    (hms : Undisturbed k s ms) : Concludes k o (s.afterAll ms) := by
  induction ms generalizing handled s with
  | nil => exact h
  | cons m ms ih => exact ih (h.after hs.sound hms.1) (hs.move m) hms.2

-- ---------------------------------------------------------------------------
-- Ends
-- ---------------------------------------------------------------------------

theorem Concludes.outcome_eq (h : Concludes k o s) (ho : (s.call k).outcome? = some o') : o' = o := by
  cases h with
  | carried hway _ => simp [Call.outcome?, hway.guard] at ho
  | carrierEnded hway _ _ _ => simp [Call.outcome?, hway.guard] at ho
  | guardTold hg _ _ _ => simp [Call.outcome?, hg] at ho
  | ended hg _ _ => simpa [Call.outcome?, hg, eq_comm] using ho

/-- Once there is nothing left to do, the call has ended, unless its frame is still being sent. -/
theorem Concludes.outcome (h : Concludes k o s) (hs : Scheduled [] s) (hidle : s.next = none)
    (hsent : (s.call k).carrier ≠ .sending .pending) : (s.call k).outcome? = some o := by
  have hnone := ready_of_next_eq_none hidle
  cases h with
  | carried hway hholds =>
    have hcount := hs.carriers k
    rw [hnone, if_pos (hholds.isReady hsent)] at hcount
    cases hcount
  | carrierEnded _ _ _ hrelease =>
    rw [hnone] at hrelease
    cases hrelease
  | guardTold hg _ hx _ =>
    have hk : k < s.calls.length := lt_of_carrier (by simp [hx])
    have hcount := hs.guards k
    rw [hnone, if_pos ⟨hk, by simp [hg, Guard.isReady, Promise.isPending]⟩] at hcount
    cases hcount
  | ended hg _ _ => simp [Call.outcome?, hg]

/-- A call ends in one way in all that may follow. -/
def EndsWith (k : Nat) (o : Outcome) (s : Session) : Prop :=
  ∀ ms, Undisturbed k s ms → let t := s.afterAll ms
    (∀ o', (t.call k).outcome? = some o' → o' = o) ∧
      (t.next = none → (t.call k).carrier ≠ .sending .pending → (t.call k).outcome? = some o)

theorem Concludes.endsWith (h : Concludes k o s) (hs : Run handled s) : EndsWith k o s := by
  intro ms hms t
  have ht : Concludes k o t := h.afterAll hs ms hms
  obtain ⟨more, hrun⟩ := hs.moves ms
  exact ⟨fun o' => ht.outcome_eq, ht.outcome hrun.sound.scheduled⟩

end Session

end Farcall
