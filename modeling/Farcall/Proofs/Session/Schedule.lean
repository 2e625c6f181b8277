import Farcall.Proofs.Session.Calls
import Farcall.Proofs.Session.Moves
import Mathlib.Tactic.ByContra

/-!
# Jobs and turns

Whoever can go on has one job that is ready, and whoever waits has none. Of the carriers, at most one
uses the socket or has its turn, and only where no connection is in use is one being opened.
-/

namespace Farcall

namespace Job

def isCarrier (k : Nat) : Job → Bool
  | .carrier j => j == k
  | _ => false

def isGuard (k : Nat) : Job → Bool
  | .guard j => j == k
  | _ => false

end Job

namespace Carrier

def isFinished : Carrier → Bool
  | .finished _ => true
  | _ => false

def isConnecting : Carrier → Bool
  | .connecting _ _ => true
  | _ => false

def isReady (response : Option (Promise (Except Failure Value))) : Carrier → Bool
  | .fresh => true
  | .queueing turn => !turn.isPending
  | .connecting _ result => !result.isPending
  | .posting _ answer => !answer.isPending
  | .sending sent => !sent.isPending
  | .awaiting =>
    match response with
    | some .pending => false
    | _ => true
  | .absent => false
  | .finished _ => false

def isSuspended : Carrier → Bool
  | .queueing .pending => true
  | .connecting _ .pending => true
  | .posting _ .pending => true
  | .sending .pending => true
  | _ => false

/-- Whether it is the turn of a carrier that has not gone on yet. -/
def hasTurn : Carrier → Bool
  | .queueing (.kept ()) => true
  | _ => false

end Carrier

def Guard.isReady : Guard → Bool
  | .fresh => true
  | .waiting signal => !signal.isPending
  | .stopping _ signal => !signal.isPending
  | .finished _ => false

def Guard.isReleased : Guard → Bool
  | .stopping _ (.kept ()) => true
  | _ => false

def Call.isReady (c : Call) : Bool := c.carrier.isReady c.response

namespace Session

def ready (s : Session) : List Job := s.jobs ++ s.upcoming

/-- While some jobs are being done, everybody who can go on has one job, and the carriers take turns.
A carrier that is at work just now may have given up its turn already. -/
structure Scheduled (active : List Job) (s : Session) : Prop where
  carriers : ∀ k, (active ++ s.ready).countP (Job.isCarrier k) =
    if (s.call k).isReady then 1 else 0
  guards : ∀ k, (active ++ s.ready).countP (Job.isGuard k) =
    if k < s.calls.length ∧ (s.call k).guard.isReady then 1 else 0
  releases : ∀ k, .release k ∈ active ++ s.ready → (s.call k).carrier.isFinished
  released : ∀ k, (s.call k).guard.isReleased → (s.call k).carrier.isFinished
  connecting : ∀ k, .carrier k ∉ active → (s.call k).carrier.isConnecting →
    s.locked = true ∧ s.socket = none
  oneConnecting : ∀ j k, .carrier j ∉ active → .carrier k ∉ active →
    (s.call j).carrier.isConnecting → (s.call k).carrier.isConnecting → j = k
  turn : ∀ k, .carrier k ∉ active → (s.call k).carrier.hasTurn →
    s.locked = false ∧ s.queue.head? = some k

/-- No carrier but one uses the socket or has its turn. -/
def Alone (s : Session) (k : Nat) : Prop :=
  ∀ j, j ≠ k → (s.call j).carrier.isConnecting = false ∧ (s.call j).carrier.hasTurn = false

variable {s t : Session} {active : List Job}

-- ---------------------------------------------------------------------------
-- Counting jobs
-- ---------------------------------------------------------------------------

@[simp] theorem ready_enqueue : (s.enqueue j).ready = s.ready ++ [j] := by
  simp [ready, enqueue]

@[simp] theorem ready_updateCall : (s.updateCall k f).ready = s.ready := rfl

@[simp] theorem ready_setCarrier : (s.setCarrier k x).ready = s.ready := rfl

@[simp] theorem ready_setGuard : (s.setGuard k g).ready = s.ready := rfl

-- ---------------------------------------------------------------------------
-- Who can go on
-- ---------------------------------------------------------------------------

theorem lt_of_carrier (hx : (s.call k).carrier ≠ .absent) : k < s.calls.length :=
  Nat.lt_of_not_le fun hk => hx (by rw [call_of_length_le hk]; rfl)

theorem lt_of_isReady (h : (s.call k).isReady) : k < s.calls.length :=
  Nat.lt_of_not_le fun hk => by
    rw [call_of_length_le hk] at h
    cases h

theorem not_isFinished_of_isReady {c : Call} (h : c.isReady) : c.carrier.isFinished = false := by
  unfold Call.isReady at h
  cases hx : c.carrier <;> simp_all [Carrier.isReady, Carrier.isFinished]

theorem isReady_of_hasTurn {x : Carrier} (h : x.hasTurn) : x.isReady p := by
  unfold Carrier.hasTurn at h
  split at h
  · rfl
  · cases h

theorem Scheduled.isReady (h : Scheduled active s) (hk : .carrier k ∈ active) :
    (s.call k).isReady := by
  have hcount := h.carriers k
  have hpos : 0 < (active ++ s.ready).countP (Job.isCarrier k) :=
    List.countP_pos_iff.mpr ⟨_, List.mem_append_left _ hk, by simp [Job.isCarrier]⟩
  by_contra hno
  rw [hcount, if_neg hno] at hpos
  exact Nat.lt_irrefl _ hpos

theorem Scheduled.guard_isReady (h : Scheduled active s) (hk : .guard k ∈ active) :
    k < s.calls.length ∧ (s.call k).guard.isReady := by
  have hcount := h.guards k
  have hpos : 0 < (active ++ s.ready).countP (Job.isGuard k) :=
    List.countP_pos_iff.mpr ⟨_, List.mem_append_left _ hk, by simp [Job.isGuard]⟩
  by_contra hno
  rw [hcount, if_neg hno] at hpos
  exact Nat.lt_irrefl _ hpos

-- ---------------------------------------------------------------------------
-- Small changes
-- ---------------------------------------------------------------------------

/-- Jobs for others than carriers and guards may become ready, and what jobs and turns do not depend
on may change. -/
theorem Scheduled.addJobs (h : Scheduled active s) (js : List Job) (hcalls : t.calls = s.calls)
    (hready : t.ready = s.ready ++ js) (hlocked : t.locked = s.locked) (hqueue : t.queue = s.queue)
    (hsocket : t.socket = s.socket)
    (hothers : ∀ j ∈ js, ∀ k, j.isCarrier k = false ∧ j.isGuard k = false)
    (hreleases : ∀ k, .release k ∈ js → (s.call k).carrier.isFinished) : Scheduled active t := by
  have hcall (k : Nat) : t.call k = s.call k := by rw [Session.call, hcalls, Session.call]
  have hcarriers (k : Nat) : js.countP (Job.isCarrier k) = 0 :=
    List.countP_eq_zero.mpr fun j hj => by simp [(hothers j hj k).1]
  have hguards (k : Nat) : js.countP (Job.isGuard k) = 0 :=
    List.countP_eq_zero.mpr fun j hj => by simp [(hothers j hj k).2]
  constructor
  · intro k
    rw [hready, hcall, ← List.append_assoc, List.countP_append, hcarriers, h.carriers, Nat.add_zero]
  · intro k
    rw [hready, hcall, hcalls, ← List.append_assoc, List.countP_append, hguards, h.guards,
      Nat.add_zero]
  · intro k hk
    rw [hready, ← List.append_assoc, List.mem_append] at hk
    rw [hcall]
    exact hk.elim (h.releases k) (hreleases k)
  · simpa only [hcall] using h.released
  · simpa only [hcall, hlocked, hsocket] using h.connecting
  · simpa only [hcall] using h.oneConnecting
  · simpa only [hcall, hlocked, hqueue] using h.turn

theorem Scheduled.congr (h : Scheduled active s) (hcalls : t.calls = s.calls)
    (hready : t.ready = s.ready) (hlocked : t.locked = s.locked) (hqueue : t.queue = s.queue)
    (hsocket : t.socket = s.socket) : Scheduled active t :=
  h.addJobs [] hcalls (by simpa using hready) hlocked hqueue hsocket
    (fun _ hj => (List.not_mem_nil hj).elim) fun _ hj => (List.not_mem_nil hj).elim

theorem Scheduled.note (h : Scheduled active s) : Scheduled active (s.note x) :=
  h.congr rfl rfl rfl rfl rfl

theorem Scheduled.enqueue (h : Scheduled active s)
    (hother : ∀ k, j.isCarrier k = false ∧ j.isGuard k = false)
    (hrelease : ∀ k, j = .release k → (s.call k).carrier.isFinished) :
    Scheduled active (s.enqueue j) :=
  h.addJobs _ rfl ready_enqueue rfl rfl rfl
    (fun _ hi => List.mem_singleton.mp hi ▸ hother)
    fun k hk => hrelease k (List.mem_singleton.mp hk).symm

theorem Scheduled.only_connecting (h : Scheduled active s) (hk : .carrier k ∉ active)
    (hc : (s.call k).carrier.isConnecting) : s.locked = true ∧ s.socket = none ∧
      ∀ j, j ≠ k → .carrier j ∉ active → (s.call j).carrier.isConnecting = false := by
  obtain ⟨hlocked, hsocket⟩ := h.connecting k hk hc
  refine ⟨hlocked, hsocket, fun j hjk hj => Bool.eq_false_iff.mpr fun hjc => ?_⟩
  exact hjk (h.oneConnecting j k hj hk hjc hc)

/-- One call changes, and perhaps jobs with it. What is to be shown concerns that call alone, and
that nobody else gains or loses a job. -/
theorem Scheduled.change {c : Call} (h : Scheduled active s)
    (hcall : ∀ j, t.call j = if j = k then c else s.call j)
    (hsame : t.calls.length = s.calls.length ∧ t.locked = s.locked ∧ t.queue = s.queue ∧
      t.socket = s.socket)
    (hactive : ∀ j, j ≠ k → .carrier j ∉ active' → .carrier j ∉ active)
    (hcarriers : ∀ j, (active' ++ t.ready).countP (Job.isCarrier j) =
      if j = k then if c.isReady then 1 else 0 else (active ++ s.ready).countP (Job.isCarrier j))
    (hguards : ∀ j, (active' ++ t.ready).countP (Job.isGuard j) =
      if j = k then if k < s.calls.length ∧ c.guard.isReady then 1 else 0
      else (active ++ s.ready).countP (Job.isGuard j))
    (hreleases : ∀ j, .release j ∈ active' ++ t.ready → .release j ∈ active ++ s.ready)
    (hfinished : (s.call k).carrier.isFinished → c.carrier.isFinished)
    (hreleased : c.guard.isReleased → c.carrier.isFinished)
    (hconnecting : .carrier k ∉ active' → c.carrier.isConnecting →
      s.locked = true ∧ s.socket = none ∧
        ∀ j, j ≠ k → .carrier j ∉ active' → (s.call j).carrier.isConnecting = false)
    (hturn : .carrier k ∉ active' → c.carrier.hasTurn →
      s.locked = false ∧ s.queue.head? = some k) : Scheduled active' t := by
  obtain ⟨hlength, hlocked, hqueue, hsocket⟩ := hsame
  constructor
  · intro j
    rw [hcarriers, hcall]
    split
    · rfl
    · exact h.carriers j
  · intro j
    rw [hguards, hcall, hlength]
    split
    · rename_i hj
      rw [hj]
    · exact h.guards j
  · intro j hj
    have hold := h.releases j (hreleases j hj)
    rw [hcall]
    split
    · rename_i hjk
      exact hfinished (hjk ▸ hold)
    · exact hold
  · intro j hj
    rw [hcall] at hj ⊢
    split at hj
    · rename_i hjk
      rw [if_pos hjk]
      exact hreleased hj
    · rename_i hjk
      rw [if_neg hjk]
      exact h.released j hj
  · intro j hj hx
    rw [hcall] at hx
    rw [hlocked, hsocket]
    split at hx
    · rename_i hjk
      exact ⟨(hconnecting (hjk ▸ hj) hx).1, (hconnecting (hjk ▸ hj) hx).2.1⟩
    · rename_i hjk
      exact h.connecting j (hactive j hjk hj) hx
  · intro i j hi hj hxi hxj
    rw [hcall] at hxi hxj
    split at hxi <;> split at hxj <;> rename_i hik hjk
    · rw [hik, hjk]
    · simp [(hconnecting (hik ▸ hi) hxi).2.2 j hjk hj] at hxj
    · simp [(hconnecting (hjk ▸ hj) hxj).2.2 i hik hi] at hxi
    · exact h.oneConnecting i j (hactive i hik hi) (hactive j hjk hj) hxi hxj
  · intro j hj hx
    rw [hcall] at hx
    rw [hlocked, hqueue]
    split at hx
    · rename_i hjk
      exact hjk ▸ hturn (hjk ▸ hj) hx
    · rename_i hjk
      exact h.turn j (hactive j hjk hj) hx

theorem call_setCarrier (hk : k < s.calls.length) : (s.setCarrier k x).call j =
    if j = k then { s.call k with carrier := x } else s.call j := by
  simp [setCarrier, call_updateCall, hk]

theorem call_setGuard (hk : k < s.calls.length) : (s.setGuard k g).call j =
    if j = k then { s.call k with guard := g } else s.call j := by
  simp [setGuard, call_updateCall, hk]

theorem Scheduled.setCarrier (h : Scheduled [.carrier k] s)
    (hx : x.isReady (s.call k).response = false)
    (hconnecting : x.isConnecting → s.locked = true ∧ s.socket = none ∧ s.Alone k) :
    Scheduled [] (s.setCarrier k x) := by
  have hready := h.isReady (List.mem_singleton.mpr rfl)
  have hunfinished := not_isFinished_of_isReady hready
  refine h.change (fun j => call_setCarrier (lt_of_isReady hready)) ⟨?_, rfl, rfl, rfl⟩ ?_ ?_ ?_ ?_
    ?_ ?_ ?_ ?_
  · simp [Session.setCarrier]
  · simp
  · intro j
    have hold := h.carriers j
    simp only [List.singleton_append, List.countP_cons, Job.isCarrier] at hold ⊢
    by_cases hj : j = k
    · subst hj
      simp_all [Call.isReady]
    · simp [hj, Ne.symm hj]
  · intro j
    have hold := h.guards j
    simp only [List.singleton_append, List.countP_cons, Job.isGuard] at hold ⊢
    by_cases hj : j = k
    · subst hj
      simpa using hold
    · simp [hj]
  · exact fun j hj => List.mem_cons_of_mem _ hj
  · simp [hunfinished]
  · intro hg
    simp [h.released k hg] at hunfinished
  · intro _ hc
    obtain ⟨hlocked, hsocket, halone⟩ := hconnecting hc
    exact ⟨hlocked, hsocket, fun j hj _ => (halone j hj).1⟩
  · intro _ hturn
    simp [isReady_of_hasTurn hturn] at hx

theorem Scheduled.wake {c : Call} (h : Scheduled active s)
    (hcall : ∀ j, t.call j = if j = k then c else s.call j)
    (hsame : t.calls.length = s.calls.length ∧ t.locked = s.locked ∧ t.queue = s.queue ∧
      t.socket = s.socket)
    (hjobs : t.ready = s.ready ++ [.carrier k]) (hwaits : (s.call k).isReady = false)
    (hunfinished : (s.call k).carrier.isFinished = false) (hready : c.isReady)
    (hguard : c.guard = (s.call k).guard)
    (hconnecting : c.carrier.isConnecting → (s.call k).carrier.isConnecting)
    (hturn : c.carrier.hasTurn → s.locked = false ∧ s.queue.head? = some k) :
    Scheduled active t := by
  have hactive : Job.carrier k ∉ active := fun hk => by simp [h.isReady hk] at hwaits
  refine h.change hcall hsame (fun _ _ hj => hj) ?_ ?_ ?_ ?_ ?_ ?_ fun _ => hturn
  · intro j
    have hold := h.carriers j
    rw [hjobs, ← List.append_assoc, List.countP_append]
    by_cases hj : j = k
    · subst hj
      simp [hold, hwaits, hready, Job.isCarrier]
    · simp [hj, Ne.symm hj, Job.isCarrier]
  · intro j
    have hold := h.guards j
    rw [hjobs, ← List.append_assoc, List.countP_append]
    by_cases hj : j = k
    · subst hj
      simp [hold, hguard, Job.isGuard]
    · simp [hj, Job.isGuard]
  · intro j hj
    rw [hjobs] at hj
    simpa using hj
  · simp [hunfinished]
  · intro hg
    rw [hguard] at hg
    simp [h.released k hg] at hunfinished
  · exact fun _ hc => h.only_connecting hactive (hconnecting hc)

theorem Scheduled.wakeCarrier (h : Scheduled active s) (hlt : k < s.calls.length)
    (hwaits : (s.call k).isReady = false) (hunfinished : (s.call k).carrier.isFinished = false)
    (hready : x.isReady (s.call k).response = true)
    (hconnecting : x.isConnecting → (s.call k).carrier.isConnecting)
    (hturn : x.hasTurn → s.locked = false ∧ s.queue.head? = some k) :
    Scheduled active (s.wakeCarrier k x) :=
  h.wake (fun _ => call_setCarrier hlt) ⟨by simp [Session.wakeCarrier, Session.enqueue,
    Session.setCarrier], rfl, rfl, rfl⟩ ready_enqueue hwaits hunfinished hready rfl hconnecting hturn

theorem unfinished_of_isSuspended {x : Carrier} (h : x.isSuspended) :
    x ≠ .absent ∧ x.isFinished = false ∧ ∀ p, x.isReady p = false := by
  unfold Carrier.isSuspended at h
  split at h
  · exact ⟨by simp, rfl, fun _ => rfl⟩
  · exact ⟨by simp, rfl, fun _ => rfl⟩
  · exact ⟨by simp, rfl, fun _ => rfl⟩
  · exact ⟨by simp, rfl, fun _ => rfl⟩
  · cases h

theorem Scheduled.resume (h : Scheduled active s) (hx : (s.call k).carrier.isSuspended)
    (hready : x.isReady (s.call k).response)
    (hconnecting : x.isConnecting → (s.call k).carrier.isConnecting)
    (hturn : x.hasTurn → s.locked = false ∧ s.queue.head? = some k) :
    Scheduled active (s.wakeCarrier k x) := by
  obtain ⟨hmade, hunfinished, hwaits⟩ := unfinished_of_isSuspended hx
  exact h.wakeCarrier (lt_of_carrier hmade) (hwaits _) hunfinished hready hconnecting hturn

/-- A call changes in a way that does not matter here. -/
theorem Scheduled.keep {c : Call} (h : Scheduled active s)
    (hcall : ∀ j, t.call j = if j = k then c else s.call j)
    (hsame : t.calls.length = s.calls.length ∧ t.locked = s.locked ∧ t.queue = s.queue ∧
      t.socket = s.socket) (hjobs : t.ready = s.ready) (hready : c.isReady = (s.call k).isReady)
    (hcarrier : c.carrier = (s.call k).carrier) (hguard : c.guard = (s.call k).guard) :
    Scheduled active t := by
  refine h.change hcall hsame (fun _ _ hj => hj) ?_ ?_ ?_ ?_ ?_ ?_ ?_
  · intro j
    rw [hjobs, hready]
    split
    · rename_i hj
      rw [hj, h.carriers]
    · rfl
  · intro j
    rw [hjobs, hguard]
    split
    · rename_i hj
      rw [hj, h.guards]
    · rfl
  · intro j hj
    rwa [hjobs] at hj
  · rw [hcarrier]
    exact id
  · rw [hguard, hcarrier]
    exact h.released k
  · intro hk hc
    rw [hcarrier] at hc
    exact h.only_connecting hk hc
  · intro hk hc
    rw [hcarrier] at hc
    exact h.turn k hk hc

theorem Scheduled.updateCall (h : Scheduled active s)
    (hf : ∀ c, (f c).carrier = c.carrier ∧ (f c).response = c.response ∧ (f c).guard = c.guard) :
    Scheduled active (s.updateCall k f) := by
  have hk : ((s.updateCall k f).call k).carrier = (s.call k).carrier ∧
      ((s.updateCall k f).call k).response = (s.call k).response ∧
      ((s.updateCall k f).call k).guard = (s.call k).guard := by
    rw [call_updateCall]
    split
    · exact hf _
    · exact ⟨rfl, rfl, rfl⟩
  refine h.keep (c := (s.updateCall k f).call k) (fun j => ?_) ⟨length_updateCall, rfl, rfl, rfl⟩
    rfl ?_ hk.1 hk.2.2
  · split
    · rename_i hj
      rw [hj]
    · rename_i hj
      exact call_updateCall_ne hj
  · rw [Call.isReady, hk.1, hk.2.1, Call.isReady]

/-- Once something has come of a response, whoever waits for it can go on. -/
theorem Scheduled.setResponse (h : Scheduled active s) (hp : (s.call k).response = some .pending)
    (hdone : p.isPending = false) : Scheduled active (s.setResponse k p) := by
  have hlt : k < s.calls.length := lt_of_response (by simp [hp])
  have hcall (j : Nat) : (s.updateCall k fun c => { c with response := some p }).call j =
      if j = k then { s.call k with response := some p } else s.call j := by
    simp [call_updateCall, hlt]
  unfold Session.setResponse
  simp only
  split
  · rename_i hx
    rw [hcall, if_pos rfl] at hx
    refine h.wake hcall ⟨length_updateCall, rfl, rfl, rfl⟩ ready_enqueue ?_ ?_ ?_ rfl ?_ ?_
    · simp_all [Call.isReady, Carrier.isReady]
    · simp_all [Carrier.isFinished]
    · cases p <;> simp_all [Call.isReady, Carrier.isReady, Promise.isPending]
    · exact id
    · simp_all [Carrier.hasTurn]
  · rename_i hx
    rw [hcall, if_pos rfl] at hx
    refine h.keep hcall ⟨length_updateCall, rfl, rfl, rfl⟩ rfl ?_ rfl rfl
    cases hc : (s.call k).carrier <;> simp_all [Call.isReady, Carrier.isReady]

theorem Scheduled.respond (h : Scheduled active s) : Scheduled active (s.respond k r) := by
  unfold Session.respond
  split
  · rename_i hp
    exact h.setResponse hp rfl
  · exact h

theorem Scheduled.failPending (h : Scheduled active s) : Scheduled active (s.failPending f) :=
  failPending_induction s f (h.congr rfl rfl rfl rfl rfl) fun _ _ ht => ht.respond

theorem Scheduled.finishCarrier (h : Scheduled [.carrier k] s) :
    Scheduled [] (s.finishCarrier k o) := by
  have hk := lt_of_isReady (h.isReady (List.mem_singleton.mpr rfl))
  have hset : Scheduled [] (s.setCarrier k (.finished o)) :=
    h.setCarrier rfl fun hc => by cases hc
  have hrelease : Scheduled [] ((s.setCarrier k (.finished o)).enqueue (.release k)) := by
    refine hset.enqueue (fun _ => ⟨rfl, rfl⟩) fun j hj => ?_
    cases hj
    simp [call_setCarrier hk, Carrier.isFinished]
  unfold Session.finishCarrier
  simp only
  split
  · exact hrelease
  · exact hrelease
  · exact hset

-- ---------------------------------------------------------------------------
-- Turns
-- ---------------------------------------------------------------------------

/-- The lock may change as it likes while the carrier at work is alone with it. -/
theorem Scheduled.of_alone (h : Scheduled [.carrier k] s) (ha : s.Alone k)
    (hcalls : t.calls = s.calls) (hready : t.ready = s.ready) : Scheduled [.carrier k] t := by
  have hcall (j : Nat) : t.call j = s.call j := by rw [Session.call, hcalls, Session.call]
  have hother {j : Nat} (hj : Job.carrier j ∉ [Job.carrier k]) : j ≠ k := fun h => hj (by simp [h])
  constructor
  · simpa only [hcall, hready] using h.carriers
  · simpa only [hcall, hready, hcalls] using h.guards
  · simpa only [hcall, hready] using h.releases
  · simpa only [hcall] using h.released
  · intro j hj hc
    rw [hcall] at hc
    simp [(ha j (hother hj)).1] at hc
  · simpa only [hcall] using h.oneConnecting
  · intro j hj hc
    rw [hcall] at hc
    simp [(ha j (hother hj)).2] at hc

theorem Scheduled.passTurn (h : Scheduled active s) (hlocked : s.locked = false) :
    Scheduled active s.passTurn := by
  unfold Session.passTurn
  split
  · exact h
  · rename_i k rest hqueue
    split
    · rename_i hx
      refine h.resume (by rw [hx]; rfl) rfl (fun hc => by cases hc) fun _ => ⟨hlocked, ?_⟩
      rw [hqueue]
      rfl
    · exact h

theorem Scheduled.unlock (h : Scheduled [.carrier k] s) (ha : s.Alone k) :
    Scheduled [.carrier k] s.unlock :=
  Scheduled.passTurn (h.of_alone ha rfl rfl) rfl

theorem Scheduled.requeue (h : Scheduled [.carrier k] s)
    (hq : ∀ j, j ≠ k → s.queue.head? = some j → q.head? = some j) :
    Scheduled [.carrier k] { s with queue := q } :=
  { h with
    turn := fun j hj hc => by
      obtain ⟨hlocked, hhead⟩ := h.turn j hj hc
      exact ⟨hlocked, hq j (fun hjk => hj (by simp [hjk])) hhead⟩ }

/-- Where nobody uses the socket and everybody has left the queue, a carrier is alone. -/
theorem Scheduled.alone (h : Scheduled [.carrier k] s) (hlocked : s.locked = false)
    (hleft : s.queue.all s.hasLeft) : s.Alone k := by
  intro j hj
  have hactive : Job.carrier j ∉ [Job.carrier k] := by simpa using hj
  refine ⟨Bool.eq_false_iff.mpr fun hc => ?_, Bool.eq_false_iff.mpr fun hc => ?_⟩
  · have hbusy := (h.connecting j hactive hc).1
    simp [hlocked] at hbusy
  · obtain ⟨-, hhead⟩ := h.turn j hactive hc
    have hmem := List.all_eq_true.mp hleft j (List.mem_of_head? hhead)
    unfold Carrier.hasTurn at hc
    unfold hasLeft at hmem
    split at hc
    · rename_i hx
      simp [hx, Promise.isWithdrawn] at hmem
    · cases hc

end Session

end Farcall
