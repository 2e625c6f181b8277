import Farcall.Session.Run

/-!
# Calls under change

Each change of a session concerns one call at a time. What the other calls look like, and what a
change never touches, is said here once.
-/

namespace Farcall

def Call.isWaiting (c : Call) : Bool :=
  match c.response with
  | some .pending => true
  | _ => false

namespace Session

variable {s t : Session}

-- ---------------------------------------------------------------------------
-- Changing one call
-- ---------------------------------------------------------------------------

theorem call_updateCall : (s.updateCall k f).call j =
    if j = k ∧ k < s.calls.length then f (s.call k) else s.call j := by
  unfold updateCall call
  rw [List.getD_eq_getElem?_getD, List.getElem?_modify]
  by_cases hj : j = k
  · subst hj
    by_cases hlen : j < s.calls.length
    · simp [hlen]
    · simp [hlen]
  · simp [hj, Ne.symm hj]

theorem call_updateCall_self (h : k < s.calls.length) :
    (s.updateCall k f).call k = f (s.call k) := by
  simp [call_updateCall, h]

theorem call_updateCall_ne (h : j ≠ k) : (s.updateCall k f).call j = s.call j := by
  simp [call_updateCall, h]

theorem call_number : (s.number k).call j = if j = k ∧ k < s.calls.length then
    { s.call k with id := some s.nextId, guard := .waiting .pending } else s.call j :=
  call_updateCall

@[simp] theorem length_updateCall : (s.updateCall k f).calls.length = s.calls.length := by
  simp [updateCall]

theorem call_of_length_le (h : s.calls.length ≤ k) : s.call k = default := by
  simp [call, List.getD_eq_getElem?_getD, List.getElem?_eq_none h]

theorem lt_of_id (h : (s.call k).id ≠ none) : k < s.calls.length :=
  Nat.lt_of_not_le fun hk => h (by rw [call_of_length_le hk]; rfl)

theorem call_begin : (s.begin r callback).call k =
    if k = s.calls.length then Call.made r callback else s.call k := by
  unfold begin call enqueue
  simp only [List.getD_eq_getElem?_getD]
  by_cases hk : k = s.calls.length
  · simp [hk]
  · by_cases hlt : k < s.calls.length
    · simp [hk, List.getElem?_append_left hlt]
    · have hle : s.calls.length + 1 ≤ k := by omega
      simp [hk, List.getElem?_eq_none (Nat.le_of_not_lt hlt),
        List.getElem?_eq_none (show (s.calls ++ [Call.made r callback]).length ≤ k by simpa using hle)]

-- ---------------------------------------------------------------------------
-- Responses
-- ---------------------------------------------------------------------------

theorem isWaiting_iff {c : Call} : c.isWaiting ↔ c.response = some .pending := by
  unfold Call.isWaiting
  split <;> simp_all

theorem lt_of_response (h : (s.call k).response ≠ none) : k < s.calls.length :=
  Nat.lt_of_not_le fun hk => h (by rw [call_of_length_le hk]; rfl)

theorem call_setResponse : (s.setResponse k p).call j =
    if j = k ∧ k < s.calls.length then { s.call k with response := some p } else s.call j := by
  unfold setResponse
  simp only
  split
  · exact call_updateCall
  · exact call_updateCall

/-- A response goes to the call it is for, and only if that call waits for it. -/
theorem call_respond : (s.respond k r).call j =
    if j = k ∧ (s.call k).isWaiting then { s.call k with response := some (.kept r) }
    else s.call j := by
  unfold respond
  split
  · rename_i hp
    have hk : k < s.calls.length := lt_of_response (by simp [hp])
    simp [call_setResponse, hk, isWaiting_iff, hp]
  · rename_i hp
    have hno : ¬(s.call k).isWaiting := fun hw => hp (isWaiting_iff.mp hw)
    simp [hno]

theorem call_respond_ne (h : j ≠ k) : (s.respond k r).call j = s.call j := by
  simp [call_respond, h]

theorem response_respond (h : (s.call k).isWaiting) :
    ((s.respond k r).call k).response = some (.kept r) := by
  simp [call_respond, h]

theorem respond_eq (s : Session) (k : Nat) (r : Except Failure Value) : ∃ calls upcoming,
    s.respond k r = { s with calls := calls, upcoming := upcoming } := by
  unfold respond setResponse
  split
  · simp only
    split
    · exact ⟨_, _, rfl⟩
    · exact ⟨_, s.upcoming, rfl⟩
  · exact ⟨s.calls, s.upcoming, rfl⟩

theorem failPending_induction {P : Session → Prop} (s : Session) (f : TransportFault)
    (hclear : P { s with pending := [] })
    (hrespond : ∀ t k, P t → P (t.respond k (.error (.transport f)))) : P (s.failPending f) := by
  unfold failPending
  generalize ({ s with pending := [] } : Session) = t at hclear
  induction s.pending generalizing t with
  | nil => exact hclear
  | cons e es ih => exact ih _ (hrespond t e.2 hclear)

theorem failPending_eq (s : Session) (f : TransportFault) : ∃ calls upcoming,
    s.failPending f = { s with pending := [], calls := calls, upcoming := upcoming } := by
  refine failPending_induction (P := fun t => ∃ calls upcoming,
    t = { s with pending := [], calls := calls, upcoming := upcoming }) s f
    ⟨s.calls, s.upcoming, rfl⟩ ?_
  rintro _ k ⟨calls, upcoming, rfl⟩
  exact respond_eq _ k _

/-- Exactly the calls that are noted as pending and wait for a response fail. -/
theorem call_failPending : (s.failPending f).call k =
    if k ∈ s.pending.map Prod.snd ∧ (s.call k).isWaiting then
      { s.call k with response := some (.kept (.error (.transport f))) }
    else s.call k := by
  have hfold : ∀ (es : List (Nat × Nat)) (t : Session),
      (es.foldl (fun s e => s.respond e.2 (.error (.transport f))) t).call k =
        if k ∈ es.map Prod.snd ∧ (t.call k).isWaiting then
          { t.call k with response := some (.kept (.error (.transport f))) }
        else t.call k := by
    intro es
    induction es with
    | nil => simp
    | cons e es ih =>
      intro t
      rw [List.foldl_cons, ih]
      by_cases hk : k = e.2
      · subst hk
        rw [call_respond]
        by_cases hw : (t.call e.2).isWaiting
        · simp [hw]
        · simp [hw]
      · have hmem : k ∈ (e :: es).map Prod.snd ↔ k ∈ es.map Prod.snd := by simp [hk]
        rw [call_respond_ne hk]
        simp only [hmem]
  exact hfold s.pending { s with pending := [] }

-- ---------------------------------------------------------------------------
-- Numbers and requests
-- ---------------------------------------------------------------------------

def card (s : Session) (k : Nat) : Request × Option Nat :=
  ((s.call k).request, (s.call k).id)

theorem card_updateCall (hf : ∀ c, (f c).request = c.request ∧ (f c).id = c.id) :
    (s.updateCall k f).card j = s.card j := by
  unfold card
  rw [call_updateCall]
  split
  · rename_i hj
    rw [hj.1, (hf _).1, (hf _).2]
  · rfl

@[simp] theorem card_enqueue : (s.enqueue j).card k = s.card k := rfl

@[simp] theorem card_setCarrier : (s.setCarrier k x).card j = s.card j :=
  card_updateCall fun _ => ⟨rfl, rfl⟩

@[simp] theorem card_passTurn : s.passTurn.card j = s.card j := by
  unfold passTurn
  split
  · rfl
  · split
    · rw [wakeCarrier, card_enqueue, card_setCarrier]
    · rfl

@[simp] theorem card_unlock : s.unlock.card j = s.card j := card_passTurn

@[simp] theorem card_register : (s.register k l).card j = s.card j := by
  unfold register addPending
  split
  · refine (card_updateCall ?_).trans (card_updateCall ?_) <;> exact fun _ => ⟨rfl, rfl⟩
  · exact card_updateCall fun _ => ⟨rfl, rfl⟩

theorem id_of_card (h : t.card j = s.card j) : (t.call j).id = (s.call j).id :=
  congrArg Prod.snd h

theorem request_of_card (h : t.card j = s.card j) : (t.call j).request = (s.call j).request :=
  congrArg Prod.fst h

/-- A call that is to have a response waits for it from when it is noted. -/
theorem response_register (hid : (s.call k).id ≠ none)
    (hreturn : (s.call k).request.expectReturn = true) :
    ((s.register k l).call k).response = some .pending := by
  have hk := lt_of_id hid
  unfold register addPending
  rw [if_pos (by simpa [call_updateCall, hk] using hreturn)]
  exact congrArg Call.response (call_updateCall_self (by simpa using hk))

end Session

end Farcall
