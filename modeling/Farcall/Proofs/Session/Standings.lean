import Farcall.Proofs.Session.Schedule
import Mathlib.Logic.Relation

/-!
# Where calls stand

Whatever happens to a session, to one call it is one of a few things: its guard or its carrier goes on,
it is noted as pending, its response comes. They are listed here once, with all that has to be the case
for them. What holds of every call in every run, and which calls are still on their way to the network,
follows from the list.
-/

namespace Farcall

namespace Carrier

/-- Whether a carrier is on its way to the network: it may yet connect, post or send. -/
def isSettingOut : Carrier → Bool
  | .fresh => true
  | .queueing _ => true
  | .connecting _ _ => true
  | _ => false

def isSent : Carrier → Bool
  | .sending _ => true
  | .awaiting => true
  | .finished _ => true
  | _ => false

def isAtWork : Carrier → Bool
  | .absent => false
  | .finished _ => false
  | _ => true

end Carrier

def Guard.isFinished : Guard → Bool
  | .finished _ => true
  | _ => false

theorem Guard.isFinished_of_isReady {g : Guard} (h : g.isReady = true) : g.isFinished = false := by
  cases g <;> first | rfl | cases h

/-- How a call may end without its number being taken from the pending ones: it is cancelled, its
message has no JSON text, or sending fails with something else than an error of the protocol. -/
inductive Call.Leaves (c : Call) : Outcome → Prop
  | cancelled : Leaves c .cancelled
  | unwritable (h : Json.write Json.spaced (c.request.message (c.id.getD 0)) = .error e) :
    Leaves c (.failed (.fault e.fault))
  | unsent {f : LinkFailure} (h : f.isProtocol = false) : Leaves c (.failed f.failure)

theorem Call.Leaves.congr {c c' : Call} (h : c.Leaves o) (hrequest : c'.request = c.request)
    (hid : c'.id = c.id) : c'.Leaves o := by
  cases h with
  | cancelled => exact .cancelled
  | unwritable h => exact .unwritable (by rwa [hrequest, hid])
  | unsent h => exact .unsent h

/-- A call, and whether it is noted as pending. -/
structure Standing where
  call : Call
  noted : Bool

namespace Standing

/-- What can happen to a call at once. A call gets its number and its carrier only while the session
is open. -/
inductive Step (isOpen : Bool) : Standing → Standing → Prop
  | made : Step isOpen ⟨default, n⟩ ⟨.made request callback, n⟩
  | flag (guardCancelled carrierCancelled : Bool) : Step isOpen ⟨c, n⟩
      ⟨{ c with guardCancelled := guardCancelled, carrierCancelled := carrierCancelled }, n⟩
  | number (hopen : isOpen = true) (hg : c.guard = .fresh) (hx : c.carrier = .absent) :
    Step isOpen ⟨c, n⟩ ⟨{ c with id := some i, guard := .waiting .pending }, n⟩
  | launch (hopen : isOpen = true) (hg : c.guard.isFinished = false) (hx : c.carrier = .absent) :
    Step isOpen ⟨c, n⟩ ⟨{ c with carrier := .fresh }, n⟩
  /-- The guard goes on. -/
  | watch (hg : c.guard.isFinished = false) (hg' : g.isFinished = false) :
    Step isOpen ⟨c, n⟩ ⟨{ c with guard := g }, n⟩
  /-- The call fails before it has a carrier. -/
  | refuse (hg : c.guard.isFinished = false) (hx : c.carrier = .absent) :
    Step isOpen ⟨c, n⟩ ⟨{ c with guard := .finished (.failed e) }, n⟩
  | giveUp (hg : c.guard.isFinished = false) :
    Step isOpen ⟨c, n⟩ ⟨{ c with guard := .finished .cancelled }, n⟩
  /-- The call ends the way its carrier did. -/
  | conclude (hg : c.guard.isFinished = false) (hx : c.carrier = .finished o) :
    Step isOpen ⟨c, n⟩ ⟨{ c with guard := .finished o }, n⟩
  | timeOut (hg : c.guard.isFinished = false) (hx : c.carrier.isFinished = true) :
    Step isOpen ⟨c, false⟩ ⟨{ c with guard := .finished (.failed e) }, false⟩
  /-- The carrier goes on, and does not turn back. -/
  | move (hx : c.carrier.isAtWork = true) (hy : y.isAtWork = true)
    (hsent : y.isSent = c.carrier.isSent)
    (hout : y.isSettingOut = true → c.carrier.isSettingOut = true) :
    Step isOpen ⟨c, n⟩ ⟨{ c with carrier := y }, n⟩
  /-- The call comes to the point of sending, and is noted as pending if it is to have a response. -/
  | register (hx : c.carrier.isSettingOut = true) :
    Step isOpen ⟨c, n⟩
      ⟨{ c with
        link := some l
        response := if c.request.expectReturn then some .pending else c.response
        carrier := .sending .pending }, n || c.request.expectReturn⟩
  | finish (hx : c.carrier.isAtWork = true)
    (ho : c.carrier.isSent = true → n = true →
      c.response = some .pending ∨ c.response = some .withdrawn → c.Leaves o) :
    Step isOpen ⟨c, n⟩ ⟨{ c with carrier := .finished o }, n⟩
  /-- The call is not noted as pending any more. -/
  | forget : Step isOpen ⟨c, n⟩ ⟨c, false⟩
  | respond (hp : c.response = some .pending) :
    Step isOpen ⟨c, false⟩ ⟨{ c with response := some (.kept r) }, false⟩
  /-- The call does not wait for its response any more. -/
  | withdraw (hx : c.carrier = .awaiting) (hp : c.response = some .pending) :
    Step isOpen ⟨c, n⟩ ⟨{ c with response := some .withdrawn }, n⟩

/-- What can happen to a call. -/
abbrev Steps (isOpen : Bool) : Standing → Standing → Prop := Relation.ReflTransGen (Step isOpen)

variable {x y : Standing} {isOpen : Bool}

-- ---------------------------------------------------------------------------
-- Calls on their way
-- ---------------------------------------------------------------------------

theorem Step.settingOut (h : Step false x y) (hy : y.call.carrier.isSettingOut = true) :
    x.call.carrier.isSettingOut = true := by
  cases h with
  | move hx _ _ hout => exact hout hy
  | number hopen => cases hopen
  | launch hopen => cases hopen
  | made => cases hy
  | register => cases hy
  | finish => cases hy
  | _ => exact hy

theorem Step.noted (h : Step isOpen x y) (hy : y.noted = true) :
    x.noted = true ∨ x.call.carrier.isSettingOut = true := by
  cases h with
  | register hx => exact .inr hx
  | forget => cases hy
  | timeOut => cases hy
  | respond => cases hy
  | _ => exact .inl hy

theorem settingOut_of_steps (h : Steps false x y) (hy : y.call.carrier.isSettingOut = true) :
    x.call.carrier.isSettingOut = true := by
  induction h with
  | refl => exact hy
  | tail _ hstep ih => exact ih (hstep.settingOut hy)

theorem noted_of_steps (h : Steps false x y) (hy : y.noted = true) :
    x.noted = true ∨ x.call.carrier.isSettingOut = true := by
  induction h with
  | refl => exact .inl hy
  | tail hsteps hstep ih =>
    rcases hstep.noted hy with hy | hy
    · exact ih hy
    · exact .inr (settingOut_of_steps hsteps hy)

-- ---------------------------------------------------------------------------
-- Pending calls
-- ---------------------------------------------------------------------------

/-- What holds of a call, noted as pending or not, at any time. -/
structure Held (x : Standing) : Prop where
  waiting : x.call.carrier.isSent = false → x.call.response = none
  noted : x.noted = true → x.call.response = some .pending ∨ x.call.response = some .withdrawn
  carried : ∀ o, x.noted = true → x.call.carrier = .finished o → x.call.Leaves o
  settled : ∀ o, x.call.guard = .finished o →
    o = .cancelled ∨ x.call.carrier.isFinished = true ∨ x.call.carrier = .absent
  ended : ∀ o, x.noted = true → x.call.guard = .finished o → x.call.Leaves o

/-- Of a call that is not noted as pending, not much is to be shown. -/
theorem held_of_not_noted (hwaiting : c.carrier.isSent = false → c.response = none)
    (hsettled : ∀ o, c.guard = .finished o →
      o = .cancelled ∨ c.carrier.isFinished = true ∨ c.carrier = .absent) : Held ⟨c, false⟩ where
  waiting := hwaiting
  noted h := by cases h
  carried _ h := by cases h
  settled := hsettled
  ended _ h := by cases h

/-- A call whose carrier has not come to the point of sending is not pending. -/
theorem Held.not_noted (h : Held x) (hx : x.call.carrier.isSent = false) : x.noted = false := by
  by_contra hn
  have hresponse := h.noted (by simpa using hn)
  rw [h.waiting hx] at hresponse
  simp at hresponse

theorem not_isFinished_of_isAtWork {x : Carrier} (h : x.isAtWork = true) : x.isFinished = false := by
  cases x <;> first | rfl | cases h

theorem not_isSent_of_isSettingOut {x : Carrier} (h : x.isSettingOut = true) : x.isSent = false := by
  cases x <;> first | rfl | cases h

theorem isAtWork_of_isSettingOut {x : Carrier} (h : x.isSettingOut = true) : x.isAtWork = true := by
  cases x <;> first | rfl | cases h

theorem Held.eq_cancelled (h : Held x) (hx : x.call.carrier.isAtWork = true)
    (hg : x.call.guard = .finished o) : o = .cancelled := by
  rcases h.settled o hg with ho | ho | ho
  · exact ho
  · rw [not_isFinished_of_isAtWork hx] at ho
    cases ho
  · rw [ho] at hx
    cases hx

theorem not_finished_of_unfinished {g : Guard} (h : g.isFinished = false) : g ≠ .finished o := by
  rintro rfl
  cases h

theorem Held.step (h : Held x) (hstep : Step isOpen x y) : Held y := by
  cases hstep with
  | made =>
    have hn := h.not_noted rfl
    subst hn
    exact held_of_not_noted (fun _ => rfl) fun o ho => by cases ho
  | flag =>
    exact ⟨h.waiting, h.noted, fun o hn hx => (h.carried o hn hx).congr rfl rfl, h.settled,
      fun o hn hg => (h.ended o hn hg).congr rfl rfl⟩
  | number hopen hg hx =>
    have hn := h.not_noted (by rw [hx]; rfl)
    subst hn
    exact held_of_not_noted h.waiting fun o ho => by cases ho
  | launch hopen hg hx =>
    have hn := h.not_noted (by rw [hx]; rfl)
    subst hn
    exact held_of_not_noted (fun _ => h.waiting (by rw [hx]; rfl)) fun o ho =>
      (not_finished_of_unfinished hg ho).elim
  | watch hg hg' =>
    exact ⟨h.waiting, h.noted, fun o hn hx => (h.carried o hn hx).congr rfl rfl,
      fun o ho => (not_finished_of_unfinished hg' ho).elim,
      fun o hn ho => (not_finished_of_unfinished hg' ho).elim⟩
  | refuse hg hx =>
    have hn := h.not_noted (by rw [hx]; rfl)
    subst hn
    exact held_of_not_noted h.waiting fun o ho => .inr (.inr hx)
  | giveUp hg =>
    refine ⟨h.waiting, h.noted, fun o hn hx => (h.carried o hn hx).congr rfl rfl, fun o ho => ?_,
      fun o hn ho => ?_⟩
    · cases ho
      exact .inl rfl
    · cases ho
      exact .cancelled
  | conclude hg hx =>
    refine ⟨h.waiting, h.noted, fun o hn hx => (h.carried o hn hx).congr rfl rfl, fun o ho => ?_,
      fun o hn ho => ?_⟩
    · exact .inr (.inl (by rw [hx]; rfl))
    · cases ho
      exact (h.carried _ hn hx).congr rfl rfl
  | timeOut hg hx => exact held_of_not_noted h.waiting fun o ho => .inr (.inl hx)
  | move hx hy hsent hout =>
    refine ⟨fun hy => h.waiting (hsent ▸ hy), h.noted, fun o hn ho => ?_, fun o ho => ?_,
      fun o hn ho => (h.ended o hn ho).congr rfl rfl⟩
    · cases ho
      cases hy
    · exact .inl (h.eq_cancelled hx ho)
  | register hx =>
    have hn := h.not_noted (not_isSent_of_isSettingOut hx)
    subst hn
    refine ⟨fun hsent => ?_, fun hn => ?_, fun o _ ho => ?_, fun o ho => ?_, fun o _ ho => ?_⟩
    · cases hsent
    · have hreturn : _ = true := (Bool.false_or _).symm.trans hn
      exact .inl (if_pos hreturn)
    · cases ho
    · exact .inl (h.eq_cancelled (isAtWork_of_isSettingOut hx) ho)
    · rw [h.eq_cancelled (isAtWork_of_isSettingOut hx) ho]
      exact .cancelled
  | finish hx ho =>
    refine ⟨fun hsent => ?_, h.noted, fun o hn heq => ?_, fun o _ => .inr (.inl rfl),
      fun o hn hg => (h.ended o hn hg).congr rfl rfl⟩
    · cases hsent
    · cases heq
      refine (ho ?_ hn (h.noted hn)).congr rfl rfl
      by_contra hsent
      have hno := h.not_noted (by simpa using hsent)
      exact Bool.false_ne_true (hno.symm.trans hn)
  | forget => exact held_of_not_noted h.waiting h.settled
  | respond hp =>
    refine held_of_not_noted (fun hsent => ?_) h.settled
    rw [h.waiting hsent] at hp
    cases hp
  | withdraw hx hp =>
    refine ⟨fun hsent => ?_, fun _ => .inr rfl, fun o hn ho => ?_, h.settled,
      fun o hn ho => (h.ended o hn ho).congr rfl rfl⟩
    · simp only [hx] at hsent
      cases hsent
    · simp only [hx] at ho
      cases ho

theorem Step.outcome (h : Step isOpen x y) (ho : x.call.outcome? = some o) :
    y.call.outcome? = some o := by
  have hended {g : Guard} (hg : g.isFinished = false) : g ≠ .finished o :=
    not_finished_of_unfinished hg
  have hx : x.call.guard = .finished o := by
    unfold Call.outcome? at ho
    split at ho
    · cases ho
      assumption
    · cases ho
  cases h with
  | made => cases hx
  | number _ hg => exact absurd (hg.symm.trans hx) (by simp)
  | watch hg => exact (hended hg hx).elim
  | refuse hg => exact (hended hg hx).elim
  | giveUp hg => exact (hended hg hx).elim
  | conclude hg => exact (hended hg hx).elim
  | timeOut hg => exact (hended hg hx).elim
  | _ => exact ho

/-- A call that has succeeded has done so because its carrier has. -/
def Deserved (x : Standing) : Prop :=
  ∀ v, x.call.guard = .finished (.value v) → x.call.carrier = .finished (.value v)

theorem Deserved.step (h : Deserved x) (hstep : Step isOpen x y) : Deserved y := by
  have hworking {c : Call} {v : Value} (hc : c.guard = .finished (.value v) → c.carrier =
      .finished (.value v)) (hx : c.carrier.isAtWork = true) : c.guard ≠ .finished (.value v) := by
    intro hg
    rw [hc hg] at hx
    cases hx
  intro v hv
  cases hstep with
  | made => cases hv
  | number => cases hv
  | launch _ hg => exact (not_finished_of_unfinished hg hv).elim
  | watch _ hg => exact (not_finished_of_unfinished hg hv).elim
  | refuse => cases hv
  | giveUp => cases hv
  | conclude _ hx =>
    cases hv
    exact hx
  | timeOut => cases hv
  | move hx => exact (hworking (h v) hx hv).elim
  | register hx => exact (hworking (h v) (isAtWork_of_isSettingOut hx) hv).elim
  | finish hx => exact (hworking (h v) hx hv).elim
  | _ => exact h v hv

theorem deserved_of_steps (h : Deserved x) (hsteps : Steps isOpen x y) : Deserved y := by
  induction hsteps with
  | refl => exact h
  | tail _ hstep ih => exact ih.step hstep

theorem Held.response_step (h : Held x) (hstep : Step isOpen x y) (hp : x.call.response = some p)
    (hdone : p.isPending = false) : y.call.response = some p := by
  have hpending (hwaits : x.call.response = some .pending) : False := by
    rw [hp] at hwaits
    cases hwaits
    cases hdone
  cases hstep with
  | made => cases hp
  | register hx =>
    rw [h.waiting (not_isSent_of_isSettingOut hx)] at hp
    cases hp
  | respond hwaits => exact (hpending hwaits).elim
  | withdraw _ hwaits => exact (hpending hwaits).elim
  | _ => exact hp

theorem held_of_steps (h : Held x) (hsteps : Steps isOpen x y) : Held y := by
  induction hsteps with
  | refl => exact h
  | tail _ hstep ih => exact ih.step hstep

theorem Held.response_of_steps (h : Held x) (hsteps : Steps isOpen x y)
    (hp : x.call.response = some p) (hdone : p.isPending = false) : y.call.response = some p := by
  induction hsteps with
  | refl => exact hp
  | tail hsteps hstep ih => exact (held_of_steps h hsteps).response_step hstep ih hdone

end Standing

end Farcall
