import Farcall.Proofs.Session.Departures
import Mathlib.Data.List.Forall2

/-!
# Calls in order

The line is in the order in which calls were made, and whoever has got to the socket was made before
all who are still in the line. So frames go out in the order of their calls, whoever waits, fails, or
gives up in between, and numbers are given in that order as well.
-/

namespace Farcall.Session

variable {s t u : Session} {active : List Job} {past : List Trace} {handled : List Handling}

/-- The line is in order, behind whoever connects, and behind all who have got to the socket. -/
structure Lined (active : List Job) (s : Session) : Prop where
  sorted : (s.line active).Pairwise (· < ·)
  connecting : ∀ c, (s.call c).carrier.isConnecting = true → ∀ j ∈ s.line active, c < j
  linked : ∀ l, (s.call l).link ≠ none → ∀ j ∈ s.line active, l < j
  linkedFirst : ∀ l c, (s.call l).link ≠ none → (s.call c).carrier.isConnecting = true → l < c
  queue : s.QueueBegun

/-- Numbers are in the order of their calls, and only calls made later are yet to be numbered. -/
structure Numbered (active : List Job) (s : Session) : Prop where
  ids : ∀ j k m n, j < k → (s.call j).id = some m → (s.call k).id = some n → m < n
  entering : ∀ k, (s.call k).id ≠ none → ∀ j ∈ s.entering (active ++ s.ready), k < j
  linked : ∀ k, (s.call k).link ≠ none → (s.call k).id ≠ none

/-- Some frames are those of some calls, in the same order. -/
def FramesOf (s : Session) (ks : List Nat) (fs : List (Nat × String)) : Prop :=
  List.Forall₂ (fun k f => (s.call k).frame? = some f) ks fs

/-- While some jobs are done, all is in order, and so is what was sent before; the frame of whoever
got it out was sent. -/
structure Ordered (past : List Trace) (active : List Job) (s : Session) : Prop where
  lined : Lined active s
  numbered : Numbered active s
  frames : ∃ ks, ks.Pairwise (· < ·) ∧ s.FramesOf ks (past.filterMap Trace.frame? ++ s.frames) ∧
    ∀ k, (s.call k).isOut = true → k ∈ ks

/-- Numbers that were given stay. -/
def KeepsIds (s t : Session) : Prop :=
  ∀ k n, (s.call k).id = some n → (t.call k).id = some n

-- ---------------------------------------------------------------------------
-- First in line
-- ---------------------------------------------------------------------------

/-- It is a carrier's own turn to go to the socket: nobody is before it. -/
structure Leads (k : Nat) (s : Session) : Prop where
  first : ∀ j ∈ s.line [.carrier k], k ≤ j
  alone : ∀ c, (s.call c).carrier.isConnecting = true → c = k
  linked : ∀ l, (s.call l).link ≠ none → l < k

theorem Lined.leads_of_head (h : Lined [.carrier k] s) (hline : s.line [.carrier k] = k :: rest)
    (halone : ∀ c, (s.call c).carrier.isConnecting = true → c = k) : Leads k s where
  first j hj := by
    have hsorted := h.sorted
    rw [hline] at hj hsorted
    rcases List.mem_cons.mp hj with rfl | hj
    · exact Nat.le_refl _
    · exact Nat.le_of_lt (List.rel_of_pairwise_cons hsorted hj)
  alone := halone
  linked l hl := h.linked l hl k (by simp [hline])

theorem Lined.leads (h : Lined [.carrier k] s) (hs : Scheduled [.carrier k] s) (he : s.Entered k)
    (hhead : (s.call k).carrier.hasTurn = true → s.queue.head? = some k) (ha : s.Admitted k) :
    Leads k s := by
  have halone (ha : s.Alone k) (c : Nat) (hc : (s.call c).carrier.isConnecting = true) : c = k := by
    by_contra hne
    rw [(ha c hne).1] at hc
    cases hc
  rcases ha with ⟨hx, hlocked, hleft⟩ | hturn | hc
  · have hqueued : s.queued = [] := by
      refine List.filter_eq_nil_iff.mpr fun j hj hq => ?_
      have hgone := List.all_eq_true.mp hleft j hj
      unfold hasLeft at hgone
      unfold Carrier.isQueued at hq
      split at hq <;> simp_all
    have hline : s.line [.carrier k] = k :: (s.starting s.ready ++ s.entering s.ready) := by
      rw [line, hqueued, starting_append, entering_append]
      simp [starting, entering, Job.carrier?, Job.guard?, hx, Carrier.isFresh]
    exact h.leads_of_head hline (halone (hs.alone hlocked hleft))
  · obtain ⟨rest, hrest⟩ := List.head?_eq_some_iff.mp (hhead hturn)
    have hqueued : (s.call k).carrier.isQueued = true := by
      unfold Carrier.hasTurn at hturn
      split at hturn <;> simp_all [Carrier.isQueued, Promise.isWithdrawn]
    have hline : ∃ more, s.line [.carrier k] = k :: more := by
      rw [line, queued, hrest, List.filter_cons, if_pos hqueued]
      exact ⟨_, rfl⟩
    obtain ⟨more, hline⟩ := hline
    exact h.leads_of_head hline (halone (he.turn hturn).2)
  · exact ⟨fun j hj => Nat.le_of_lt (h.connecting k hc j hj), halone (he.connecting hc).2,
      fun l hl => h.linkedFirst l k hl hc⟩

-- ---------------------------------------------------------------------------
-- The line in order
-- ---------------------------------------------------------------------------

theorem Lined.shortens (h : Lined active s) (hst : Shortens active s t) : Lined [] t where
  sorted := h.sorted.sublist hst.line
  connecting c hc j hj := h.connecting c (hst.connecting c hc) j (hst.line.subset hj)
  linked l hl j hj := h.linked l (hst.link l ▸ hl) j (hst.line.subset hj)
  linkedFirst l c hl hc := h.linkedFirst l c (hst.link l ▸ hl) (hst.connecting c hc)
  queue := hst.queue h.queue

theorem waits_of_mem_line (h : j ∈ s.line active) : (s.call j).carrier.isQueued = true ∨
    (s.call j).carrier.isFresh = true ∨ (s.call j).guard.isFresh = true := by
  rcases List.mem_append.mp h with h | h
  · exact .inl (List.mem_filter.mp h).2
  · rcases List.mem_append.mp h with h | h
    · exact .inr (.inl (List.mem_filter.mp h).2)
    · exact .inr (.inr (List.mem_filter.mp h).2)

/-- The first in line goes to the socket; all others are still behind it. -/
theorem Lined.departs (h : Lined [.carrier k] s) (hl : Leads k s) (hd : Departs k s t)
    (hguard : (s.call k).guard.isFresh = false) : Lined [] t := by
  have hline := hd.line.line_sublist [.carrier k]
  have hplace {j : Nat} (hj : j ≠ k) : Stays False (s.call j) (t.call j) := by
    have hstays := hd.line.places j
    simpa [Ne.symm hj] using hstays
  have hafter (j : Nat) (hj : j ∈ t.line []) : k < j := by
    refine Nat.lt_of_le_of_ne (hl.first j (hline.subset hj)) fun hkj => ?_
    subst hkj
    rcases waits_of_mem_line hj with hq | hf | hg
    · simp [hd.queued] at hq
    · simp [Carrier.isFresh_of_hasBegun hd.begun] at hf
    · simp [(hd.line.places k).entering hg] at hguard
  have hlinked (l : Nat) (hlink : (t.call l).link ≠ none) (hlk : l ≠ k) : l < k := by
    rw [(hplace hlk).link.resolve_left id] at hlink
    exact hl.linked l hlink
  have hconnecting (c : Nat) (hc : (t.call c).carrier.isConnecting = true) : c = k := by
    by_contra hck
    exact hck (hl.alone c ((hplace hck).connecting.resolve_left id hc))
  refine ⟨h.sorted.sublist hline, fun c hc j hj => ?_, fun l hlink j hj => ?_,
    fun l c hlink hc => ?_, hd.line.queueBegun h.queue⟩
  · exact hconnecting c hc ▸ hafter j hj
  · by_cases hlk : l = k
    · exact hlk ▸ hafter j hj
    · exact Nat.lt_trans (hlinked l hlink hlk) (hafter j hj)
  · obtain rfl := hconnecting c hc
    by_cases hlc : l = c
    · subst hlc
      -- only a call that had a link before can have one while it connects
      rcases hd.link with hsame | hnot
      · exact hl.linked l (hsame ▸ hlink)
      · simp [hc] at hnot
    · exact hlinked l hlink hlc

-- ---------------------------------------------------------------------------
-- Numbers in order
-- ---------------------------------------------------------------------------

theorem Numbered.keep (h : Numbered active s)
    (hentering : (t.entering t.ready).Sublist (s.entering (active ++ s.ready)))
    (hid : ∀ k, (t.call k).id = (s.call k).id)
    (hlink : ∀ k, (t.call k).link ≠ none → (t.call k).id ≠ none) : Numbered [] t where
  ids j k m n hjk hj hk := h.ids j k m n hjk (hid j ▸ hj) (hid k ▸ hk)
  entering k hk j hj := h.entering k (hid k ▸ hk) j (hentering.subset hj)
  linked := hlink

/-- The next number goes to a call that was made after all that have one. -/
theorem Numbered.guardMoves (h : Numbered [.guard k] s) (hl : Lined [.guard k] s)
    (hc : Correlated handled s) (hg : GuardMoves k s t) : Numbered [] t := by
  rcases hg.id with hid | ⟨hfresh, hentering, hid⟩
  · refine h.keep hg.line.entering hid fun j hj => ?_
    rw [hid]
    exact h.linked j (hg.line.link j ▸ hj)
  · have hfirst : s.entering ([.guard k] ++ s.ready) = k :: s.entering s.ready := by
      simp [Session.entering, Job.guard?, hfresh, Guard.isFresh]
    have hbefore (j : Nat) (hj : (s.call j).id ≠ none) : j < k :=
      h.entering j hj k (by rw [hfirst]; exact List.mem_cons_self)
    have hafter (j : Nat) (hj : j ∈ t.entering t.ready) : k < j := by
      have hsorted := hl.sorted
      rw [line, hfirst] at hsorted
      have hguards := (List.pairwise_append.mp (List.pairwise_append.mp hsorted).2.1).2.1
      exact List.rel_of_pairwise_cons hguards (hentering.subset hj)
    refine ⟨fun i j m n hij hi hj => ?_, fun i hi j hj => ?_, fun j hj => ?_⟩
    · rw [hid] at hi hj
      split at hi <;> split at hj
      · omega
      · rename_i hik hjk
        have hlt := hbefore j (by simp [hj])
        omega
      · cases hj
        exact hc.bound i m hi
      · exact h.ids i j m n hij hi hj
    · by_cases hik : i = k
      · exact hik ▸ hafter j hj
      · rw [hid, if_neg hik] at hi
        exact Nat.lt_trans (hbefore i hi) (hafter j hj)
    · rw [hid]
      split
      · exact Option.some_ne_none _
      · exact h.linked j (hg.line.link j ▸ hj)

theorem Numbered.departs (h : Numbered [.carrier k] s) (hd : Departs k s t)
    (hid : (s.call k).id ≠ none) : Numbered [] t := by
  refine h.keep ?_ (fun j => (hd.line.places j).id) fun j hj => ?_
  · rw [entering_append]
    exact hd.line.entering.trans (List.sublist_append_right _ _)
  · rw [(hd.line.places j).id]
    by_cases hjk : j = k
    · exact hjk ▸ hid
    · have hlink := (hd.line.places j).link.resolve_left (by simpa using Ne.symm hjk)
      exact h.linked j (hlink ▸ hj)

-- ---------------------------------------------------------------------------
-- Frames in order
-- ---------------------------------------------------------------------------

theorem link_of_frame? {c : Call} (h : c.frame? = some f) : c.link ≠ none := by
  unfold Call.frame? at h
  split at h
  · rename_i hlink _
    simp [hlink]
  · cases h

theorem FramesOf.congr (h : s.FramesOf ks fs)
    (hcall : ∀ k, (s.call k).link ≠ none → (t.call k).frame? = (s.call k).frame?) :
    t.FramesOf ks fs :=
  List.Forall₂.imp (fun k _ hf => (hcall k (link_of_frame? hf)).trans hf) h

theorem FramesOf.links (h : s.FramesOf ks fs) : ∀ k ∈ ks, (s.call k).link ≠ none := by
  unfold FramesOf at h
  induction h with
  | nil => simp
  | cons hf _ ih => exact List.forall_mem_cons.mpr ⟨link_of_frame? hf, ih⟩

theorem Ordered.shortens (h : Ordered past active s) (hst : Shortens active s t)
    (hframes : t.frames = s.frames) (hid : ∀ k, (t.call k).id = (s.call k).id) :
    Ordered past [] t := by
  refine ⟨h.lined.shortens hst, h.numbered.keep hst.entering hid fun k hk => ?_, ?_⟩
  · rw [hid]
    exact h.numbered.linked k (hst.link k ▸ hk)
  · obtain ⟨ks, hsorted, hks, hout⟩ := h.frames
    rw [← hframes] at hks
    exact ⟨ks, hsorted, hks.congr fun k _ => frame?_eq (hst.link k) (hst.request k) (hid k),
      fun k hk => hout k (hst.out k hk)⟩

theorem Ordered.keepsLine (h : Ordered past active s) (hkeeps : KeepsLine none s t)
    (hframes : t.frames = s.frames) : Ordered past [] t :=
  h.shortens hkeeps.shortens hframes fun k => (hkeeps.places k).id

theorem Ordered.guardMoves (h : Ordered past [.guard k] s) (hc : Correlated handled s)
    (hg : GuardMoves k s t) : Ordered past [] t := by
  refine ⟨h.lined.shortens hg.line, h.numbered.guardMoves h.lined hc hg, ?_⟩
  obtain ⟨ks, hsorted, hks, hout⟩ := h.frames
  rw [← hg.frames] at hks
  refine ⟨ks, hsorted, hks.congr fun j hj => frame?_eq (hg.line.link j) (hg.line.request j) ?_,
    fun j hj => hout j (hg.line.out j hj)⟩
  rcases hg.id with hid | ⟨hfresh, -, hid⟩
  · exact hid j
  · rw [hid, if_neg]
    rintro rfl
    exact h.numbered.linked j hj ((hc.call j).fresh hfresh)

/-- A call that goes to the socket was made after all that have sent their frames. -/
theorem Ordered.departs (h : Ordered past [.carrier k] s) (hc : Correlated handled s)
    (hl : Leads k s) (hd : Departs k s t) (hx : (s.call k).carrier ≠ .absent) : Ordered past [] t := by
  have hid : (s.call k).id ≠ none := hc.id_of_carrier hx
  have hguard : (s.call k).guard.isFresh = false := Bool.eq_false_iff.mpr fun hg => by
    have hfresh : (s.call k).guard = .fresh := by
      unfold Guard.isFresh at hg
      split at hg
      · assumption
      · cases hg
    exact hid ((hc.call k).fresh hfresh)
  refine ⟨h.lined.departs hl hd hguard, h.numbered.departs hd hid, ?_⟩
  obtain ⟨ks, hsorted, hks, hout⟩ := h.frames
  have hstays {j : Nat} (hjk : j ≠ k) (hj : (t.call j).isOut = true) : j ∈ ks :=
    hout j ((hd.line.places j).out.resolve_left (by simpa using Ne.symm hjk) hj)
  have hold : t.FramesOf ks (past.filterMap Trace.frame? ++ s.frames) :=
    hks.congr fun j hj => by
      have hjk : j ≠ k := Nat.ne_of_lt (hl.linked j hj)
      have hplace := hd.line.places j
      exact frame?_eq (hplace.link.resolve_left (by simpa using Ne.symm hjk)) hplace.request hplace.id
  rcases hd.frames with hsame | ⟨f, hf, hsent⟩
  · refine ⟨ks, hsorted, hsame ▸ hold, fun j hj => hstays ?_ hj⟩
    rintro rfl
    obtain ⟨f, -, hsent⟩ := hd.out hj
    rw [hsame] at hsent
    simp at hsent
  · refine ⟨ks ++ [k], ?_, ?_, fun j hj => ?_⟩
    · refine List.pairwise_append.mpr ⟨hsorted, List.pairwise_singleton _ _, fun j hj i hi => ?_⟩
      obtain rfl := List.mem_singleton.mp hi
      exact hl.linked j (hks.links j hj)
    · rw [hsent, ← List.append_assoc]
      exact List.rel_append hold (.cons hf .nil)
    · by_cases hjk : j = k
      · simp [hjk]
      · exact List.mem_append_left _ (hstays hjk hj)

-- ---------------------------------------------------------------------------
-- Jobs
-- ---------------------------------------------------------------------------

theorem ready_takeJob (h : s.takeJob = some (j, t)) : s.ready = j :: t.ready := by
  unfold Session.takeJob at h
  split at h
  · rename_i hjobs
    cases h
    simp [ready, hjobs]
  · cases h

theorem ready_beginRound (h : s.jobs = []) :
    ∃ ks : List Nat, s.beginRound.ready = s.ready ++ ks.map .alarm := by
  simp [ready, Session.beginRound, h]

theorem ready_next (h : s.next = some (j, t)) :
    ∃ ks : List Nat, [j] ++ t.ready = s.ready ++ ks.map .alarm := by
  rcases Option.or_eq_some_iff.mp h with h | ⟨hnone, h⟩
  · exact ⟨[], by simp [ready_takeJob h]⟩
  · have hjobs : s.jobs = [] := by
      unfold Session.takeJob at hnone
      split at hnone
      · cases hnone
      · assumption
    obtain ⟨ks, hks⟩ := ready_beginRound hjobs
    exact ⟨ks, by rw [← hks, ready_takeJob h]; rfl⟩

theorem Ordered.alarms {ks : List Nat} (h : Ordered past active s) (hcalls : t.calls = s.calls)
    (hqueue : t.queue = s.queue) (hframes : t.frames = s.frames)
    (hready : active' ++ t.ready = active ++ s.ready ++ ks.map .alarm) : Ordered past active' t := by
  have hcall (k : Nat) : t.call k = s.call k := by rw [Session.call, hcalls, Session.call]
  have hcarriers : (ks.map Job.alarm).filterMap Job.carrier? = [] := by
    simp [Job.carrier?]
  have hguards : (ks.map Job.alarm).filterMap Job.guard? = [] := by
    simp [Job.guard?]
  have hline : t.line active' = s.line active := by
    refine line_congr (fun k => by simp [hcall]) hqueue ?_ ?_
    · rw [hready, List.filterMap_append, hcarriers, List.append_nil]
    · rw [hready, List.filterMap_append, hguards, List.append_nil]
  have hentering : t.entering (active' ++ t.ready) = s.entering (active ++ s.ready) := by
    simp only [Session.entering, hcall, hready, List.filterMap_append, hguards, List.append_nil]
  obtain ⟨⟨hsorted, hconnecting, hlinked, hfirst, hbegun⟩, ⟨hids, henter, hlink⟩, ks, hks⟩ := h
  refine ⟨⟨?_, ?_, ?_, ?_, ?_⟩, ⟨?_, ?_, ?_⟩, ks, ?_⟩
  · rwa [hline]
  · simpa only [hcall, hline] using hconnecting
  · simpa only [hcall, hline] using hlinked
  · simpa only [hcall] using hfirst
  · simpa only [QueueBegun, hcall, hqueue] using hbegun
  · simpa only [hcall] using hids
  · simpa only [hcall, hentering] using henter
  · simpa only [hcall] using hlink
  · simpa only [FramesOf, hcall, hframes] using hks

theorem Ordered.next (h : Ordered past [] s) (hj : s.next = some (j, t)) : Ordered past [j] t := by
  obtain ⟨ks, hready⟩ := ready_next hj
  obtain ⟨_, _, _, rfl⟩ := next_eq hj
  exact h.alarms rfl rfl rfl hready

theorem Ordered.idle (h : Ordered past [] s) (hj : s.next = none) : Ordered past [] s.idle := by
  obtain ⟨ks, hready⟩ := ready_beginRound (jobs_of_next_eq_none hj)
  exact h.alarms rfl rfl rfl hready

theorem Scheduled.head_of_next (h : Scheduled [] s) (hj : s.next = some (j, t))
    (hk : (t.call k).carrier.hasTurn = true) : t.queue.head? = some k := by
  obtain ⟨_, _, _, rfl⟩ := next_eq hj
  exact (h.turn k List.not_mem_nil hk).2

theorem keepsLine_perform (hguard : j.guard? = none) (hcarrier : j.carrier? = none) :
    KeepsLine none s (s.perform j) ∧ (s.perform j).frames = s.frames := by
  have hsteady {t} (h : Steady none s t) : KeepsLine none s t ∧ t.frames = s.frames :=
    ⟨h.line, h.frames⟩
  cases j with
  | guard k => cases hguard
  | carrier k => cases hcarrier
  | release k => exact hsteady steady_releaseGuard
  | alarm k => exact hsteady steady_ringAlarm
  | report k =>
    unfold Session.perform Session.reportCall
    simp only
    split
    · refine ⟨keepsLine_congr rfl rfl (List.Sublist.refl _), ?_⟩
      simp [Session.frames, Session.note, Trace.frame?]
    · exact hsteady steady_refl
  | reader l => exact hsteady steady_stepReader
  | closing => exact hsteady steady_stepClosing
  | deliver event data => exact hsteady (steady_note rfl rfl)

theorem KeepsLine.keepsIds (h : KeepsLine who s t) : KeepsIds s t := fun k _ hk =>
  (h.places k).id.trans hk

theorem Ordered.stepGuard (h : Ordered past [.guard k] s) (hc : Correlated handled s)
    (hs : Scheduled [.guard k] s) :
    Ordered past [] (s.stepGuard k) ∧ KeepsIds s (s.stepGuard k) := by
  have hmoves := guardMoves_stepGuard hs (fun hk => hc.absent hk) h.lined.queue
  refine ⟨h.guardMoves hc hmoves, fun j n hj => ?_⟩
  rcases hmoves.id with hid | ⟨hfresh, -, hid⟩
  · exact (hid j).trans hj
  · rw [hid, if_neg]
    · exact hj
    · rintro rfl
      rw [(hc.call j).fresh hfresh] at hj
      cases hj

theorem Ordered.stepCarrier (h : Ordered past [.carrier k] s) (hc : Correlated handled s)
    (hs : Scheduled [.carrier k] s) (he : s.Entered k)
    (hhead : (s.call k).carrier.hasTurn = true → s.queue.head? = some k) :
    Ordered past [] (s.stepCarrier k) ∧ KeepsIds s (s.stepCarrier k) := by
  have hready := hs.isReady (List.mem_singleton.mpr rfl)
  have hx : (s.call k).carrier ≠ .absent := fun habsent => by
    rw [Call.isReady, habsent] at hready
    cases hready
  rcases carrierMoves_stepCarrier (lt_of_isReady hready) hready h.lined.queue with
    ⟨-, hframes, hid, hline⟩ | ⟨hadmitted, hdeparts⟩
  · exact ⟨h.shortens hline hframes hid, fun j _ hj => (hid j).trans hj⟩
  · exact ⟨h.departs hc (h.lined.leads hs he hhead hadmitted) hdeparts hx, hdeparts.line.keepsIds⟩

theorem Ordered.perform (h : Ordered past [j] s) (hc : Correlated handled s)
    (hs : Scheduled [j] s) (he : ∀ k, s.Entered k)
    (hhead : ∀ k, (s.call k).carrier.hasTurn = true → s.queue.head? = some k) :
    Ordered past [] (s.perform j) ∧ KeepsIds s (s.perform j) := by
  have hrest (hguard : j.guard? = none) (hcarrier : j.carrier? = none) :
      Ordered past [] (s.perform j) ∧ KeepsIds s (s.perform j) := by
    obtain ⟨hline, hframes⟩ := keepsLine_perform hguard hcarrier
    exact ⟨h.keepsLine hline hframes, hline.keepsIds⟩
  cases j with
  | guard k => exact h.stepGuard hc hs
  | carrier k => exact h.stepCarrier hc hs (he k) (hhead k)
  | _ => exact hrest rfl rfl

-- ---------------------------------------------------------------------------
-- New calls
-- ---------------------------------------------------------------------------

theorem Scheduled.lt_of_mem_line (h : Scheduled [] s) (hj : j ∈ s.line []) : j < s.calls.length := by
  rcases List.mem_append.mp hj with hj | hj
  · refine lt_of_carrier fun hx => ?_
    have hqueued := (List.mem_filter.mp hj).2
    rw [hx] at hqueued
    cases hqueued
  · rcases List.mem_append.mp hj with hj | hj
    · refine lt_of_carrier fun hx => ?_
      have hfresh := (List.mem_filter.mp hj).2
      rw [hx] at hfresh
      cases hfresh
    · obtain ⟨i, hi, hij⟩ := List.mem_filterMap.mp (List.mem_filter.mp hj).1
      have hguard : i.isGuard j = true := by
        cases i <;> simp_all [Job.guard?, Job.isGuard]
      have hpos := List.countP_pos_iff.mpr ⟨i, hi, hguard⟩
      rw [h.guards] at hpos
      by_contra hlt
      rw [if_neg fun hboth => hlt hboth.1] at hpos
      exact Nat.lt_irrefl _ hpos

theorem line_begin (s : Session) (r : Request) (callback : Option Value) :
    (s.begin r callback).line [] = s.line [] ++ [s.calls.length] ∧
    (s.begin r callback).entering (s.begin r callback).ready =
      s.entering s.ready ++ [s.calls.length] := by
  have hnew : s.call s.calls.length = default := call_of_length_le (Nat.le_refl _)
  have hcall (j : Nat) : ((s.begin r callback).call j).carrier = (s.call j).carrier ∧
      ((s.begin r callback).call j).guard = (s.call j).guard := by
    rw [call_begin]
    split
    · rename_i hj
      rw [hj, hnew]
      exact ⟨rfl, rfl⟩
    · exact ⟨rfl, rfl⟩
  have hready : (s.begin r callback).ready = s.ready ++ [.guard s.calls.length] := ready_enqueue
  have hqueue : (s.begin r callback).queue = s.queue := rfl
  have hfresh : (s.call s.calls.length).guard.isFresh = true := by
    rw [hnew]
    rfl
  have hentering : (s.begin r callback).entering (s.begin r callback).ready =
      s.entering s.ready ++ [s.calls.length] := by
    simp [Session.entering, hready, (hcall _).2, Job.guard?, hfresh]
  refine ⟨?_, hentering⟩
  rw [line, List.nil_append, hentering]
  simp [line, queued, starting, hready, hqueue, (hcall _).1, Job.carrier?]

theorem call_begin_of_lt (hk : k < s.calls.length) : (s.begin r callback).call k = s.call k := by
  rw [call_begin, if_neg (Nat.ne_of_lt hk)]

theorem begin_blank (hk : ¬k < s.calls.length) : ((s.begin r callback).call k).link = none ∧
    ((s.begin r callback).call k).id = none ∧
    ((s.begin r callback).call k).carrier = .absent := by
  rw [call_begin]
  split
  · exact ⟨rfl, rfl, rfl⟩
  · rw [call_of_length_le (Nat.le_of_not_lt hk)]
    exact ⟨rfl, rfl, rfl⟩

theorem lt_of_begin_link (h : ((s.begin r callback).call k).link ≠ none) : k < s.calls.length := by
  by_contra hno
  exact h (begin_blank hno).1

theorem lt_of_begin_id (h : ((s.begin r callback).call k).id ≠ none) : k < s.calls.length := by
  by_contra hno
  exact h (begin_blank hno).2.1

theorem lt_of_begin_carrier (h : ((s.begin r callback).call k).carrier ≠ .absent) :
    k < s.calls.length := by
  by_contra hno
  exact h (begin_blank hno).2.2

theorem Lined.begin (h : Lined [] s) (hs : Scheduled [] s) : Lined [] (s.begin r callback) := by
  have hline := (line_begin s r callback).1
  have hmem {j : Nat} (hj : j ∈ (s.begin r callback).line []) :
      j ∈ s.line [] ∨ j = s.calls.length := by
    rw [hline] at hj
    simpa using hj
  have hconnects {c : Nat} (hc : ((s.begin r callback).call c).carrier.isConnecting = true) :
      c < s.calls.length ∧ (s.call c).carrier.isConnecting = true := by
    have hlt : c < s.calls.length := lt_of_begin_carrier fun hx => by
      rw [hx] at hc
      cases hc
    exact ⟨hlt, by rwa [call_begin_of_lt hlt] at hc⟩
  refine ⟨?_, fun c hc j hj => ?_, fun l hl j hj => ?_, fun l c hl hc => ?_, fun j hj => ?_⟩
  · rw [hline]
    refine List.pairwise_append.mpr ⟨h.sorted, List.pairwise_singleton _ _, fun j hj k hk => ?_⟩
    exact List.mem_singleton.mp hk ▸ hs.lt_of_mem_line hj
  · obtain ⟨hlt, hold⟩ := hconnects hc
    rcases hmem hj with hj | rfl
    · exact h.connecting c hold j hj
    · exact hlt
  · have hlt := lt_of_begin_link hl
    rw [call_begin_of_lt hlt] at hl
    rcases hmem hj with hj | rfl
    · exact h.linked l hl j hj
    · exact hlt
  · rw [call_begin_of_lt (lt_of_begin_link hl)] at hl
    exact h.linkedFirst l c hl (hconnects hc).2
  · have hbegun := h.queue j hj
    have hlt : j < s.calls.length := lt_of_carrier fun hx => by
      rw [hx] at hbegun
      cases hbegun
    rwa [call_begin_of_lt hlt]

theorem Numbered.begin (h : Numbered [] s) : Numbered [] (s.begin r callback) := by
  have hold {k n : Nat} (hk : ((s.begin r callback).call k).id = some n) :
      (s.call k).id = some n := by
    have hnumbered : ((s.begin r callback).call k).id ≠ none := by simp [hk]
    rwa [call_begin_of_lt (lt_of_begin_id hnumbered)] at hk
  refine ⟨fun j k m n hjk hj hk => ?_, fun k hk j hj => ?_, fun k hk => ?_⟩
  · exact h.ids j k m n hjk (hold hj) (hold hk)
  · have hlt := lt_of_begin_id hk
    rw [call_begin_of_lt hlt] at hk
    rw [List.nil_append, (line_begin s r callback).2] at hj
    rcases List.mem_append.mp hj with hj | hj
    · exact h.entering k hk j hj
    · exact List.mem_singleton.mp hj ▸ hlt
  · have hlt := lt_of_begin_link hk
    rw [call_begin_of_lt hlt] at hk ⊢
    exact h.linked k hk

theorem Ordered.begin (h : Ordered past [] s) (hs : Scheduled [] s) :
    Ordered past [] (s.begin r callback) ∧ KeepsIds s (s.begin r callback) := by
  obtain ⟨hlined, hnumbered, ks, hks, hframes, hout⟩ := h
  refine ⟨⟨hlined.begin hs, hnumbered.begin, ks, hks, hframes.congr fun k hk => ?_, fun k hk => ?_⟩,
    fun k n hk => ?_⟩
  · have hlt : k < s.calls.length := by
      by_contra hno
      rw [call_of_length_le (Nat.le_of_not_lt hno)] at hk
      exact hk rfl
    rw [call_begin_of_lt hlt]
  · have hlt : k < s.calls.length := by
      by_contra hno
      simp [Call.isOut, (begin_blank hno).2.2, Carrier.isOut] at hk
    rw [call_begin_of_lt hlt] at hk
    exact hout k hk
  · rwa [call_begin_of_lt (lt_of_id (by simp [hk]))]

-- ---------------------------------------------------------------------------
-- Moves
-- ---------------------------------------------------------------------------

theorem Ordered.work (h : Ordered past [] s) (hs : Sound handled s) :
    Ordered past [] (s.after .work) ∧ KeepsIds s (s.after .work) := by
  simp only [Session.after, step]
  cases hj : s.next with
  | none => exact ⟨h.idle hj, fun _ _ hk => hk⟩
  | some next =>
    obtain ⟨j, t⟩ := next
    obtain ⟨hscheduled, hentered⟩ := hs.scheduled.next hj
    have hperform := (h.next hj).perform (hs.correlated.next hj) hscheduled hentered
      fun k => hs.scheduled.head_of_next hj
    have hcall (k : Nat) : t.call k = s.call k := by
      obtain ⟨_, _, _, rfl⟩ := next_eq hj
      rfl
    refine ⟨hperform.1, fun k n hk => hperform.2 k n ?_⟩
    rwa [hcall]

/-- Whatever happens from outside but a call, nobody moves forward in the line. -/
theorem steady_after (hwork : m ≠ .work) (hlook : m ≠ .observe)
    (hcalls : ∀ r callback, m ≠ .begin r callback) : Steady none s (s.after m) := by
  cases m with
  | work => exact (hwork rfl).elim
  | begin r callback => exact (hcalls r callback rfl).elim
  | cancel k => exact steady_cancel
  | close => exact steady_close
  | reply r a => exact steady_reply
  | settle a f => exact steady_settle
  | flush k f => exact steady_flush
  | endHangUp f => exact steady_endHangUp
  | arrive l f => exact steady_arrive
  | drop l f => exact steady_drop
  | advance seconds => exact steady_congr rfl rfl rfl rfl rfl
  | network n => exact steady_congr rfl rfl rfl rfl rfl
  | deliver event data => exact steady_enqueue rfl fun _ => rfl
  | observe => exact (hlook rfl).elim

theorem Ordered.after (h : Ordered past [] s) (hs : Sound handled s) (m : Move) :
    Ordered (past ++ s.shownIn m) [] (s.after m) ∧ KeepsIds s (s.after m) := by
  have hsteady {t} (h' : Steady none s t) : Ordered (past ++ []) [] t ∧ KeepsIds s t := by
    rw [List.append_nil]
    exact ⟨h.keepsLine h'.line h'.frames, h'.line.keepsIds⟩
  cases m with
  | work => exact (List.append_nil past).symm ▸ h.work hs
  | begin r callback => exact (List.append_nil past).symm ▸ h.begin hs.scheduled
  | observe =>
    obtain ⟨hlined, hnumbered, ks, hks, hframes, hout⟩ := h
    refine ⟨⟨⟨hlined.sorted, hlined.connecting, hlined.linked, hlined.linkedFirst, hlined.queue⟩,
      ⟨hnumbered.ids, hnumbered.entering, hnumbered.linked⟩, ks, hks, ?_, hout⟩, fun _ _ hk => hk⟩
    have hall : (past ++ s.traces).filterMap Trace.frame? ++ ([] : List (Nat × String)) =
        past.filterMap Trace.frame? ++ s.frames := by
      rw [List.filterMap_append, List.append_nil]
      rfl
    exact hall ▸ hframes
  | _ => exact hsteady (steady_after nofun nofun nofun)

theorem ordered_new (address : String) (customEncryption : Bool) (timeout : Value)
    (notices : Notices) : Ordered [] [] (new address customEncryption timeout notices) := by
  have hcall (k : Nat) : (new address customEncryption timeout notices).call k = default :=
    call_of_length_le (Nat.zero_le k)
  refine ⟨⟨.nil, fun c hc => ?_, fun l hl => ?_, fun l c hl => ?_, fun j hj => ?_⟩,
    ⟨fun j k m n _ hj => ?_, fun k hk => ?_, fun k hk => ?_⟩, [], .nil, .nil, fun k hk => ?_⟩
  · rw [hcall] at hc
    cases hc
  · exact (hl (by rw [hcall]; rfl)).elim
  · exact (hl (by rw [hcall]; rfl)).elim
  · cases hj
  · rw [hcall] at hj
    cases hj
  · exact (hk (by rw [hcall]; rfl)).elim
  · exact (hk (by rw [hcall]; rfl)).elim
  · rw [hcall] at hk
    cases hk

theorem History.ordered (h : History past s) : Ordered past [] s := by
  induction h with
  | new address customEncryption timeout notices => exact ordered_new ..
  | move h m ih =>
    obtain ⟨handled, hrun⟩ := h.run
    exact (ih.after hrun.sound m).1

theorem History.keepsIds (h : History past s) (ms : List Move) : KeepsIds s (s.afterAll ms) := by
  induction ms generalizing past s with
  | nil => exact fun _ _ hk => hk
  | cons m ms ih =>
    obtain ⟨handled, hrun⟩ := h.run
    exact fun k n hk => ih (h.move m) k n ((h.ordered.after hrun.sound m).2 k n hk)

-- ---------------------------------------------------------------------------
-- Frames
-- ---------------------------------------------------------------------------

/-- In every run, whatever waits, fails, runs out of time or is cancelled on the way: numbers are given
in the order in which calls were made, over either transport, and stay, so that none is used twice;
and the frames that were sent, over whichever connection, are those of some calls in the order in
which these were made, and with it in the order of their numbers. -/
theorem frames_in_call_order (h : History past s) :
    (∀ j k m n, j < k → (s.call j).id = some m → (s.call k).id = some n → m < n) ∧
    (∀ ms k n, (s.call k).id = some n → ((s.afterAll ms).call k).id = some n) ∧
    ∃ ks : List Nat,
      ks.Pairwise (fun j k => j < k ∧
        ∃ m n, (s.call j).id = some m ∧ (s.call k).id = some n ∧ m < n) ∧
      List.Forall₂ (fun k f => (s.call k).frame? = some f) ks
        ((past ++ s.traces).filterMap Trace.frame?) := by
  have hordered := h.ordered
  obtain ⟨ks, hsorted, hframes, -⟩ := hordered.frames
  have hid {k : Nat} (hk : k ∈ ks) : ∃ n, (s.call k).id = some n :=
    Option.ne_none_iff_exists'.mp (hordered.numbered.linked k (hframes.links k hk))
  refine ⟨hordered.numbered.ids, fun ms k n => h.keepsIds ms k n, ks, ?_, ?_⟩
  · refine hsorted.imp_of_mem fun {j k} hj hk hjk => ?_
    obtain ⟨m, hm⟩ := hid hj
    obtain ⟨n, hn⟩ := hid hk
    exact ⟨hjk, m, n, hm, hn, hordered.numbered.ids j k m n hjk hm hn⟩
  · rw [List.filterMap_append]
    exact hframes

/-- The first call fails to connect while others wait; what was sent by the others is looked at in two
parts. -/
theorem frames_after_refusal :
    let start := new "ws://host" false (.int 30) .ignored
    let moves : List Move := [.network { Network.reliable with attempts := [.hanging] },
      .begin ⟨"first", .list [], true, .socket⟩ none,
      .begin ⟨"second", .list [], true, .socket⟩ none, .begin ⟨"third", .list [], true, .http⟩ none,
      .work, .work, .work, .work, .work, .work, .begin ⟨"fourth", .list [], false, .socket⟩ none,
      .settle 0 (some (.webSocket "refused")), .work, .work, .work, .work, .observe, .work, .work,
      .work, .work]
    let past := start.shownInAll moves
    let s := start.afterAll moves
    let sent := [
      (0, "\x7b\"jsonrpc\": \"2.0\", \"method\": \"second\", \"params\": [], \"id\": 2\x7d"),
      (0, "\x7b\"jsonrpc\": \"2.0\", \"method\": \"fourth\", \"params\": [], \"id\": 4\x7d")]
    History past s ∧ (s.call 0).outcome?.isSome = true ∧
      (List.range 4).map (fun k => (s.call k).id) = [some 1, some 2, some 3, some 4] ∧
      (past ++ s.traces).filterMap Trace.frame? = sent ∧
      ∃ ks : List Nat, ks.length = 2 ∧ ks.Pairwise (fun j k => j < k ∧
        ∃ m n, (s.call j).id = some m ∧ (s.call k).id = some n ∧ m < n) := by
  intro start moves past s sent
  have h : History past s := by
    have hmoves := (History.new "ws://host" false (.int 30) .ignored).moves moves
    rwa [List.nil_append] at hmoves
  have hstate : (s.call 0).outcome?.isSome = true ∧
      (List.range 4).map (fun k => (s.call k).id) = [some 1, some 2, some 3, some 4] := by
    simp only [s, start, moves]
    decide +kernel
  have hsent : (past ++ s.traces).filterMap Trace.frame? = sent := by
    simp only [past, s, start, moves, sent]
    decide +kernel
  obtain ⟨-, -, ks, hsorted, hks⟩ := frames_in_call_order h
  rw [hsent] at hks
  exact ⟨h, hstate.1, hstate.2, hsent, ks, hks.length_eq, hsorted⟩

end Farcall.Session
