import Farcall.Proofs.Session.Entries
import Farcall.Proofs.Session.Order

/-!
# Reports

When a call ends, a job becomes ready that reports its end, and no other job does. So every call is
reported once at most, after its end, and the way it ended. Whatever happens later changes neither the
end of the call nor a response that has come to it.
-/

namespace Farcall

/-- What is told about the end of a call, if somebody is to be told and it has ended. -/
def Call.report? (c : Call) : Option (String × Value × Outcome) :=
  match c.callback, c.outcome? with
  | some callback, some o => some (c.request.method, callback, o)
  | _, _ => none

namespace Session

open Standing (Steps)

variable {s t u : Session} {active : List Job} {past : List Trace} {handled : List Handling}
  {told : List Nat} {x y : Standing}

/-- While some jobs are done, a call that has ended has been told about or has one job that tells about
it; no other call is told about. What was told is how the calls that were told about have ended. -/
structure Told (past : List Trace) (active : List Job) (s : Session) (told : List Nat) : Prop where
  count : ∀ k, told.count k + (active ++ s.ready).countP (Job.isReport k) = if s.isOver k then 1 else 0
  reports : past.filterMap Trace.report? ++ s.reports = told.filterMap fun k => (s.call k).report?

/-- One call ends, and is to be told about. -/
structure Ends (k : Nat) (s t : Session) : Prop where
  others : ∀ j, j ≠ k → SameEnd (s.call j) (t.call j)
  before : s.isOver k = false
  after : t.isOver k = true
  waiting : ∀ j, t.ready.countP (Job.isReport j) =
    s.ready.countP (Job.isReport j) + if j = k then 1 else 0
  reports : t.reports = s.reports

-- ---------------------------------------------------------------------------
-- Ends of calls
-- ---------------------------------------------------------------------------

theorem SameEnd.report?_eq {c c' : Call} (h : SameEnd c c') : c'.report? = c.report? := by
  rw [Call.report?, h.callback, h.outcome, h.request, Call.report?]

theorem Silent.isOver_eq (h : Silent s t) (k : Nat) : t.isOver k = s.isOver k := by
  rw [isOver, (h.ends k).outcome, isOver]

theorem Silent.then_ends (h : Silent s t) (h' : Ends k t u) : Ends k s u where
  others j hj := (h.ends j).trans (h'.others j hj)
  before := h.isOver_eq k ▸ h'.before
  after := h'.after
  waiting j := by rw [h'.waiting, h.waiting]
  reports := h'.reports.trans h.reports

theorem ends_finishGuard (hk : k < s.calls.length) (h : s.isOver k = false) :
    Ends k s (s.finishGuard k o) where
  others j hj := by
    show SameEnd _ ((s.setGuard k (.finished o)).call j)
    rw [call_setGuard hk, if_neg hj]
    exact sameEnd_refl _
  before := h
  after := by
    show (((s.setGuard k (.finished o)).call k).outcome?).isSome = true
    rw [call_setGuard hk, if_pos rfl]
    rfl
  waiting j := by
    show ((s.setGuard k (.finished o)).enqueue (.report k)).ready.countP (Job.isReport j) = _
    rw [ready_enqueue, List.countP_append, ready_setGuard]
    by_cases hj : j = k
    · simp [hj, Job.isReport]
    · simp [hj, Ne.symm hj, Job.isReport]
  reports := rfl

theorem silent_number (h : s.isOver k = false) : Silent s (s.number k) := by
  have hset : Silent s
      (s.updateCall k fun c => { c with id := some s.nextId, guard := .waiting .pending }) := by
    refine silent_updateCall ⟨rfl, rfl, ?_⟩
    exact (Option.not_isSome_iff_eq_none.mp (Bool.eq_false_iff.mp h)).symm
  exact hset.trans (silent_congr rfl rfl rfl)

theorem silent_startCarrier : Silent s (s.startCarrier k) :=
  (silent_updateCall ⟨rfl, rfl, rfl⟩).trans (silent_enqueue fun _ => rfl)

/-- What the work of a guard comes to: its call ends, or nothing changes that anybody is told. -/
def SilentOrEnds (k : Nat) (s t : Session) : Prop :=
  Silent s t ∨ Ends k s t

theorem Silent.then (h : Silent s t) (h' : SilentOrEnds k t u) : SilentOrEnds k s u :=
  h'.imp h.trans h.then_ends

theorem isOver_of_isReady (h : (s.call k).guard.isReady = true) : s.isOver k = false := by
  unfold Session.isOver Call.outcome?
  split
  · rename_i hg
    rw [hg] at h
    cases h
  · rfl

theorem outcome?_of_isOver (h : s.isOver k = false) : (s.call k).outcome? = none :=
  Option.not_isSome_iff_eq_none.mp (Bool.eq_false_iff.mp h)

theorem silent_stop (h : s.isOver k = false) : Silent s (s.stop k timedOut) :=
  have hsteady : Steady none s (s.stop k timedOut) := steady_stop (outcome?_of_isOver h)
  hsteady.silent

theorem silentOrEnds_startCall (hk : k < s.calls.length) (h : s.isOver k = false) :
    SilentOrEnds k s (s.startCall k) := by
  have hnumber := silent_number h
  have hlength : k < (s.number k).calls.length := by rwa [hnumber.length]
  have hopen : (s.number k).isOver k = false := (hnumber.isOver_eq k).trans h
  unfold Session.startCall
  split
  · exact .inr (ends_finishGuard hk h)
  · split
    · exact .inr (ends_finishGuard hk h)
    · simp only
      split
      · exact hnumber.then (.inr (ends_finishGuard hlength hopen))
      · have hstarted := hnumber.trans (silent_startCarrier (k := k))
        exact hstarted.then (.inl (silent_stop ((hstarted.isOver_eq k).trans h)))
      · have halarms {a} : Silent (s.number k) { s.number k with alarms := a } :=
          silent_congr rfl rfl rfl
        exact hnumber.then (.inl (halarms.trans silent_startCarrier))

theorem silentOrEnds_stepGuard (hk : k < s.calls.length) (hready : (s.call k).guard.isReady = true) :
    SilentOrEnds k s (s.stepGuard k) := by
  have hflag : Silent s (s.updateCall k fun c => { c with guardCancelled := false }) :=
    have hsteady : Steady none s _ := steady_flagGuard
    hsteady.silent
  have hopen := (hflag.isOver_eq k).trans (isOver_of_isReady hready)
  have hlength := hflag.length.symm ▸ hk
  unfold Session.stepGuard
  simp only
  generalize s.updateCall k (fun c => { c with guardCancelled := false }) = t at *
  have hends {o} : SilentOrEnds k s (t.finishGuard k o) :=
    hflag.then (.inr (ends_finishGuard hlength hopen))
  have htimed : SilentOrEnds k s (t.timeOut k) := by
    have hforget {n} : Silent t (t.forget n) := silent_congr rfl rfl rfl
    exact (hflag.trans hforget).then (.inr (ends_finishGuard hlength hopen))
  split
  · split
    · exact hends
    · exact hflag.then (silentOrEnds_startCall hlength hopen)
  · split
    · exact hends
    · exact hflag.then (.inl (silent_stop hopen))
  · split
    · exact hends
    · split
      · exact htimed
      · exact hends
      · exact htimed
  · exact .inl hflag

-- ---------------------------------------------------------------------------
-- Reports of calls
-- ---------------------------------------------------------------------------

theorem Told.silent (h : Told past active s told)
    (hactive : ∀ k, active.countP (Job.isReport k) = 0) (h' : Silent s t) : Told past [] t told where
  count k := by
    have hcount := h.count k
    rw [List.countP_append, hactive, Nat.zero_add] at hcount
    rwa [List.nil_append, h'.waiting, h'.isOver_eq]
  reports := by
    rw [h'.reports, h.reports]
    exact List.filterMap_congr fun k _ => ((h'.ends k).report?_eq).symm

/-- A call that ends has not been told about, and will be. -/
theorem Told.ends (h : Told past active s told) (hactive : ∀ k, active.countP (Job.isReport k) = 0)
    (h' : Ends k s t) : Told past [] t told where
  count j := by
    have hcount := h.count j
    rw [List.countP_append, hactive, Nat.zero_add] at hcount
    rw [List.nil_append, h'.waiting, ← Nat.add_assoc, hcount]
    by_cases hj : j = k
    · rw [hj, h'.before, h'.after, if_pos rfl, if_pos rfl, if_neg (by decide)]
    · rw [isOver, isOver, (h'.others j hj).outcome, if_neg hj, Nat.add_zero]
  reports := by
    have hnew : k ∉ told := fun hk => by
      have hcount := h.count k
      have hpos := List.count_pos_iff.mpr hk
      rw [h'.before, if_neg (by decide)] at hcount
      omega
    rw [h'.reports, h.reports]
    refine List.filterMap_congr fun j hj => ?_
    exact ((h'.others j (ne_of_mem_of_not_mem hj hnew)).report?_eq).symm

theorem Told.silentOrEnds (h : Told past active s told)
    (hactive : ∀ k, active.countP (Job.isReport k) = 0) (h' : SilentOrEnds k s t) :
    Told past [] t told :=
  h'.elim (h.silent hactive) (h.ends hactive)

theorem reports_reportCall : (s.reportCall k).reports = s.reports ++ (s.call k).report?.toList := by
  unfold Session.reportCall Call.report?
  simp only
  split <;> simp_all [Session.reports, Session.note, Trace.report?]

theorem Told.report (h : Told past [.report k] s told) :
    Told past [] (s.reportCall k) (told ++ [k]) := by
  obtain ⟨hcalls, hready⟩ :
      (s.reportCall k).calls = s.calls ∧ (s.reportCall k).ready = s.ready := by
    unfold Session.reportCall
    simp only
    split <;> exact ⟨rfl, rfl⟩
  have hcall (j : Nat) : (s.reportCall k).call j = s.call j := by
    rw [Session.call, hcalls, Session.call]
  refine ⟨fun j => ?_, ?_⟩
  · have hcount := h.count j
    rw [isOver, hcall, List.nil_append, hready, List.count_append, Nat.add_assoc]
    rwa [List.countP_append] at hcount
  · simp only [hcall]
    rw [reports_reportCall, ← List.append_assoc, h.reports, List.filterMap_append]
    cases hreport : (s.call k).report? <;> simp [hreport]

theorem Told.alarms {ks : List Nat} (h : Told past active s told) (hcalls : t.calls = s.calls)
    (htraces : t.traces = s.traces)
    (hready : active' ++ t.ready = active ++ s.ready ++ ks.map .alarm) : Told past active' t told := by
  have hcall (k : Nat) : t.call k = s.call k := by rw [Session.call, hcalls, Session.call]
  have halarms (k : Nat) : (ks.map Job.alarm).countP (Job.isReport k) = 0 := by
    simp [List.countP_eq_zero, Job.isReport]
  refine ⟨fun k => ?_, ?_⟩
  · rw [hready, List.countP_append, halarms, isOver, hcall]
    exact h.count k
  · simp only [hcall, Session.reports, htraces]
    exact h.reports

theorem Told.next (h : Told past [] s told) (hj : s.next = some (j, t)) : Told past [j] t told := by
  obtain ⟨ks, hready⟩ := ready_next hj
  obtain ⟨_, _, _, rfl⟩ := next_eq hj
  exact h.alarms rfl rfl hready

theorem Told.idle (h : Told past [] s told) (hj : s.next = none) : Told past [] s.idle told := by
  obtain ⟨ks, hready⟩ := ready_beginRound (jobs_of_next_eq_none hj)
  exact h.alarms rfl rfl hready

theorem Told.begin (h : Told past [] s told) : Told past [] (s.begin r callback) told := by
  have hnew : s.call s.calls.length = default := call_of_length_le (Nat.le_refl _)
  have hcall (k : Nat) : ((s.begin r callback).call k).outcome? = (s.call k).outcome? ∧
      ((s.begin r callback).call k).report? = (s.call k).report? := by
    rw [call_begin]
    split
    · rename_i hk
      rw [hk, hnew]
      cases callback <;> exact ⟨rfl, rfl⟩
    · exact ⟨rfl, rfl⟩
  refine ⟨fun k => ?_, ?_⟩
  · have hready : (s.begin r callback).ready = s.ready ++ [.guard s.calls.length] := ready_enqueue
    rw [isOver, (hcall k).1, List.nil_append, hready, List.countP_append]
    exact h.count k
  · simp only [(hcall _).2]
    exact h.reports

-- ---------------------------------------------------------------------------
-- Moves
-- ---------------------------------------------------------------------------

theorem Told.perform (h : Told past [j] s told) (hs : Scheduled [j] s) (hbegun : s.QueueBegun) :
    ∃ more, Told past [] (s.perform j) (told ++ more) := by
  have hsame {t} (h' : Told past [] t told) : ∃ more, Told past [] t (told ++ more) :=
    ⟨[], (List.append_nil told).symm ▸ h'⟩
  have hsteady {t} (hj : ∀ k, j.isReport k = false) (h' : Steady none s t) :
      ∃ more, Told past [] t (told ++ more) :=
    hsame (h.silent (fun k => by simp [hj]) h'.silent)
  cases j with
  | guard k =>
    obtain ⟨hk, hready⟩ := hs.guard_isReady (List.mem_singleton.mpr rfl)
    exact hsame (h.silentOrEnds (fun _ => rfl) (silentOrEnds_stepGuard hk hready))
  | carrier k =>
    have hready := hs.isReady (List.mem_singleton.mpr rfl)
    rcases carrierMoves_stepCarrier (lt_of_isReady hready) hready hbegun with
      ⟨hsilent, -⟩ | ⟨-, hdeparts⟩
    · exact hsame (h.silent (fun _ => rfl) hsilent)
    · exact hsame (h.silent (fun _ => rfl) hdeparts.silent)
  | release k => exact hsteady (fun _ => rfl) steady_releaseGuard
  | alarm k => exact hsteady (fun _ => rfl) steady_ringAlarm
  | report k => exact ⟨[k], h.report⟩
  | reader l => exact hsteady (fun _ => rfl) steady_stepReader
  | closing => exact hsteady (fun _ => rfl) steady_stepClosing
  | deliver event data => exact hsteady (fun _ => rfl) (steady_note rfl rfl)

theorem Told.work (h : Told past [] s told) (hs : Scheduled [] s) (hbegun : s.QueueBegun) :
    ∃ more, Told past [] (s.after .work) (told ++ more) := by
  simp only [Session.after, step]
  cases hj : s.next with
  | none => exact ⟨[], (List.append_nil told).symm ▸ h.idle hj⟩
  | some next =>
    obtain ⟨j, t⟩ := next
    have hqueue : t.QueueBegun := by
      obtain ⟨_, _, _, rfl⟩ := next_eq hj
      exact hbegun
    exact (h.next hj).perform (hs.next hj).1 hqueue

/-- In every move, some calls are reported that were not reported before. -/
theorem Told.after (h : Told past [] s told) (hs : Scheduled [] s) (hbegun : s.QueueBegun)
    (m : Move) : ∃ more, Told (past ++ s.shownIn m) [] (s.after m) (told ++ more) := by
  have hsame {t} (h' : Told past [] t told) : ∃ more, Told (past ++ []) [] t (told ++ more) :=
    ⟨[], (List.append_nil past).symm ▸ (List.append_nil told).symm ▸ h'⟩
  have hsteady {t} (h' : Steady none s t) : ∃ more, Told (past ++ []) [] t (told ++ more) :=
    hsame (h.silent (fun _ => rfl) h'.silent)
  cases m with
  | work => exact (List.append_nil past).symm ▸ h.work hs hbegun
  | begin r callback => exact hsame h.begin
  | cancel k => exact hsteady steady_cancel
  | close => exact hsteady steady_close
  | reply r a => exact hsteady steady_reply
  | settle a f => exact hsteady steady_settle
  | flush k f => exact hsteady steady_flush
  | endHangUp f => exact hsteady steady_endHangUp
  | arrive l f => exact hsteady steady_arrive
  | drop l f => exact hsteady steady_drop
  | advance seconds => exact hsteady (steady_congr rfl rfl rfl rfl rfl)
  | network n => exact hsteady (steady_congr rfl rfl rfl rfl rfl)
  | deliver event data => exact hsteady (steady_enqueue rfl fun _ => rfl)
  | observe =>
    refine ⟨[], ?_⟩
    rw [List.append_nil]
    refine ⟨h.count, ?_⟩
    show (past ++ s.traces).filterMap Trace.report? ++ [] = told.filterMap fun k => (s.call k).report?
    rw [List.append_nil, List.filterMap_append]
    exact h.reports

theorem told_new (address : String) (customEncryption : Bool) (timeout : Value) (notices : Notices) :
    Told [] [] (new address customEncryption timeout notices) [] where
  count k := by
    rw [isOver, call_of_length_le (Nat.zero_le k)]
    rfl
  reports := rfl

theorem History.reported_moves (h : History past s) (ht : Told past [] s told) (ms : List Move) :
    ∃ more, Told (past ++ s.shownInAll ms) [] (s.afterAll ms) (told ++ more) := by
  induction ms generalizing past s told with
  | nil => exact ⟨[], by simpa [shownInAll, afterAll] using ht⟩
  | cons m ms ih =>
    obtain ⟨handled, hrun⟩ := h.run
    obtain ⟨now, hnow⟩ := ht.after hrun.sound.scheduled h.ordered.lined.queue m
    obtain ⟨later, hlater⟩ := ih (h.move m) hnow
    exact ⟨now ++ later, by simpa [shownInAll, afterAll] using hlater⟩

theorem History.reported (h : History past s) : ∃ told, Told past [] s told := by
  induction h with
  | new address customEncryption timeout notices => exact ⟨[], told_new ..⟩
  | move h m ih =>
    obtain ⟨told, htold⟩ := ih
    obtain ⟨handled, hrun⟩ := h.run
    obtain ⟨more, hmore⟩ := htold.after hrun.sound.scheduled h.ordered.lined.queue m
    exact ⟨told ++ more, hmore⟩

-- ---------------------------------------------------------------------------
-- What stays
-- ---------------------------------------------------------------------------

theorem sameEnd_of_steps (h : Steps isOpen x y) (ho : x.call.outcome? = some o) :
    SameEnd x.call y.call := by
  have hboth : SameEnd x.call y.call ∧ y.call.outcome? = some o := by
    induction h with
    | refl => exact ⟨sameEnd_refl _, ho⟩
    | tail _ hstep ih =>
      obtain ⟨hend, hover⟩ := ih
      have hstays := hstep.outcome hover
      refine ⟨hend.trans ?_, hstays⟩
      cases hstep with
      | made => cases hover
      | _ => exact ⟨rfl, rfl, hstays.trans hover.symm⟩
  exact hboth.1

theorem Run.sameEnd (h : Run handled s) (ho : (s.call k).outcome? = some o) (ms : List Move) :
    SameEnd (s.call k) ((s.afterAll ms).call k) := by
  induction ms generalizing handled s with
  | nil => exact sameEnd_refl _
  | cons m ms ih =>
    have hend : SameEnd (s.call k) ((s.after m).call k) := sameEnd_of_steps (h.sound.steps m k) ho
    exact hend.trans (ih (h.move m) (hend.outcome.trans ho))

theorem Run.response (h : Run handled s) (hp : (s.call k).response = some p)
    (hdone : p.isPending = false) (ms : List Move) :
    ((s.afterAll ms).call k).response = some p := by
  induction ms generalizing handled s with
  | nil => exact hp
  | cons m ms ih =>
    exact ih (h.move m) ((h.held k).response_of_steps (h.sound.steps m k) hp hdone)

/-- A call does not wait for a response that has come, or was withdrawn. -/
theorem not_isWaiting_of_response {c : Call} (hp : c.response = some p)
    (hdone : p.isPending = false) : c.isWaiting = false := by
  refine Bool.eq_false_iff.mpr fun hwaits => ?_
  cases hp.symm.trans (isWaiting_iff.mp hwaits)
  cases hdone

theorem call_handle_of_response (hp : (s.call k).response = some p) (hdone : p.isPending = false)
    (f : Frame) : (s.handle f).call k = s.call k := by
  by_contra hne
  obtain ⟨r, n, hr, hpending⟩ := pendingCall?_of_handle hne
  refine hne ?_
  have hforgotten : ((s.forget n).call k).isWaiting = false := not_isWaiting_of_response hp hdone
  simp only [Session.handle, hr, hpending, answer, call_respond, hforgotten]
  simp [Session.forget, Session.call]

theorem call_failPending_of_response (hp : (s.call k).response = some p)
    (hdone : p.isPending = false) (f : TransportFault) : (s.failPending f).call k = s.call k := by
  rw [call_failPending, not_isWaiting_of_response hp hdone]
  simp

/-- Some reports are those of some calls, in the same order. -/
def ReportsOf (s : Session) (ks : List Nat) (ts : List Trace) : Prop :=
  List.Forall₂ (fun k r => (s.call k).report? = some r) ks (ts.filterMap Trace.report?)

theorem Told.nodup (h : Told past active s told) : told.Nodup :=
  List.nodup_iff_count.mpr fun k => by
    have hcount := h.count k
    split at hcount <;> omega

theorem Told.isOver (h : Told past active s told) (hk : k ∈ told) : s.isOver k = true := by
  by_contra hno
  have hcount := h.count k
  have hpos := List.count_pos_iff.mpr hk
  rw [if_neg hno] at hcount
  omega

def heeded (s : Session) (told : List Nat) : List Nat :=
  told.filter fun k => (s.call k).report?.isSome

theorem forall₂_filterMap (f : α → Option β) (l : List α) :
    List.Forall₂ (fun a b => f a = some b) (l.filter fun a => (f a).isSome) (l.filterMap f) := by
  induction l with
  | nil => exact .nil
  | cons a l ih =>
    cases ha : f a with
    | none => simpa [ha] using ih
    | some b => simpa [ha] using ih

theorem Told.reportsOf (h : Told past [] s told) : s.ReportsOf (s.heeded told) (past ++ s.traces) := by
  have hreports : (past ++ s.traces).filterMap Trace.report? =
      told.filterMap fun k => (s.call k).report? := List.filterMap_append.trans h.reports
  rw [ReportsOf, hreports]
  exact forall₂_filterMap _ _

end Session

end Farcall
