import Farcall.Proofs.Session.Correlation
import Farcall.Proofs.Session.Work
import Mathlib.Tactic.Choose

/-!
# What the callers get

In every run, a call over the socket that ends with a value has it from one frame, the response to
that call, and no frame serves two calls.
-/

namespace Farcall.Session

variable {s t : Session} {handled : List Handling}

-- ---------------------------------------------------------------------------
-- Invariants of a run
-- ---------------------------------------------------------------------------

/-- What holds between two moves. -/
structure Sound (handled : List Handling) (s : Session) : Prop where
  correlated : Correlated handled s
  scheduled : Scheduled [] s
  /-- Each frame found its session in order. -/
  frames : ∀ x ∈ handled, ∃ earlier, Correlated earlier x.before

theorem sound_new (address : String) (customEncryption : Bool) (timeout : Value)
    (notices : Notices) : Sound [] (new address customEncryption timeout notices) := by
  have hcall (k : Nat) : (new address customEncryption timeout notices).call k = default :=
    call_of_length_le (Nat.zero_le k)
  refine ⟨?_, ?_, fun x hx => by cases hx⟩
  · refine ⟨fun k n hk => ?_, fun j k n hj => ?_, fun e he => ?_, fun k => ?_⟩
    · rw [hcall] at hk
      cases hk
    · rw [hcall] at hj
      cases hj
    · cases he
    · rw [hcall]
      exact callOk_made [] k default none
  · constructor
    · intro k
      rw [hcall]
      rfl
    · intro k
      simp [new, ready]
    · intro k hk
      cases hk
    · intro k hk
      rw [hcall] at hk
      cases hk
    · intro k _ hk
      rw [hcall] at hk
      cases hk
    · intro j k _ _ hj
      rw [hcall] at hj
      cases hj
    · intro k _ hk
      rw [hcall] at hk
      cases hk

theorem Correlated.absent (h : Correlated handled s) (hk : (s.call k).guard = .fresh) :
    (s.call k).carrier = .absent :=
  ((h.call k).begun ((h.call k).fresh hk)).1

theorem Sound.work (h : Sound handled s) :
    Sound (handled ++ s.handledIn .work) (s.after .work) := by
  simp only [handledIn, Session.after, step]
  cases hj : s.next with
  | none =>
    have hidle := h.scheduled.beginRound (jobs_of_next_eq_none hj)
    simp only [List.append_nil, Option.map_none, Option.getD_none]
    exact ⟨h.correlated.congr rfl (List.Subset.refl _) rfl, hidle, h.frames⟩
  | some next =>
    obtain ⟨j, t⟩ := next
    obtain ⟨hscheduled, hentered⟩ := h.scheduled.next hj
    have hcorrelated := h.correlated.next hj
    simp only [Option.map_some, Option.getD_some]
    refine ⟨hcorrelated.perform fun k hk => ?_, ?_, ?_⟩
    · subst hk
      exact (hscheduled.guard_isReady (List.mem_singleton.mpr rfl)).1
    · exact hscheduled.perform (fun k _ => hentered k) fun k hk => hcorrelated.absent hk
    · intro x hx
      rcases List.mem_append.mp hx with hx | hx
      · exact h.frames x hx
      · exact hcorrelated.handledBy hx

theorem Sound.after (h : Sound handled s) (m : Move) :
    Sound (handled ++ s.handledIn m) (s.after m) := by
  have ⟨hc, hs, hf⟩ := h
  -- only work handles frames
  have hf' : ∀ x ∈ handled ++ [], ∃ earlier, Correlated earlier x.before := by simpa using hf
  cases m with
  | work => exact h.work
  | begin r callback => exact ⟨hc.begin.append, hs.begin, hf'⟩
  | cancel k => exact ⟨hc.cancel.append, hs.cancel, hf'⟩
  | close => exact ⟨hc.close.append, hs.close, hf'⟩
  | reply r a => exact ⟨hc.reply.append, hs.reply, hf'⟩
  | settle a f => exact ⟨hc.settle.append, hs.settle, hf'⟩
  | flush k f => exact ⟨hc.flush.append, hs.flush, hf'⟩
  | endHangUp f => exact ⟨hc.endHangUp.append, hs.endHangUp, hf'⟩
  | arrive l f => exact ⟨hc.arrive.append, hs.arrive, hf'⟩
  | drop l f => exact ⟨hc.drop.append, hs.drop, hf'⟩
  | deliver event data =>
    exact ⟨hc.append.enqueue, hs.enqueue (fun _ => ⟨rfl, rfl⟩) (fun _ hj => by cases hj), hf'⟩
  | advance seconds =>
    exact ⟨hc.append.congr rfl (List.Subset.refl _) rfl, hs.congr rfl rfl rfl rfl rfl, hf'⟩
  | network n =>
    exact ⟨hc.append.congr rfl (List.Subset.refl _) rfl, hs.congr rfl rfl rfl rfl rfl, hf'⟩
  | observe =>
    exact ⟨hc.append.congr rfl (List.Subset.refl _) rfl, hs.congr rfl rfl rfl rfl rfl, hf'⟩

theorem Run.sound (h : Run handled s) : Sound handled s := by
  induction h with
  | new address customEncryption timeout notices => exact sound_new ..
  | move _ m ih => exact ih.after m

-- ---------------------------------------------------------------------------
-- Responses
-- ---------------------------------------------------------------------------

/-- A call that goes over the socket and is to have a value has ended with one. -/
def HasValue (s : Session) (k : Nat) (v : Value) : Prop :=
  (s.call k).request.AsksSocket ∧ (s.call k).outcome? = some (.value v)

def Handling.Touches (x : Handling) (k : Nat) : Prop :=
  (x.before.handle x.frame).call k ≠ x.before.call k

def Handling.Names (x : Handling) (k : Nat) : Prop :=
  ∃ r, ∃ n : Nat, x.frame.inbound = .record r ∧ Response.id? r = some (n : Int) ∧
    (n, k) ∈ x.before.pending ∧ (x.before.call k).id = some n

theorem Sound.sourced (h : Sound handled s) (hv : s.HasValue k v) :
    Sourced handled k (s.call k) v := by
  obtain ⟨hasks, ho⟩ := hv
  unfold Call.outcome? at ho
  split at ho
  · rename_i o hg
    cases ho
    exact (h.correlated.call k).guard v hg hasks
  · cases ho

theorem Sound.touches (h : Sound handled s) (hx : x ∈ handled) (hk : x.Touches k) : x.Names k := by
  obtain ⟨earlier, hc⟩ := h.frames x hx
  obtain ⟨r, n, hr, hpending⟩ := pendingCall?_of_handle hk
  obtain ⟨hmem, hid⟩ := pendingCall?_mem hpending
  exact ⟨r, n, hr, hid, hmem, hc.pending _ hmem⟩

theorem id?_inj {m n : Nat} (hm : Response.id? r = some (m : Int))
    (hn : Response.id? r = some (n : Int)) : m = n :=
  Int.ofNat_inj.mp (Option.some.inj (hm.symm.trans hn))

theorem Sound.answers_unique (h : Sound handled s) {x : Handling} {m n : Nat}
    (hj : (s.call j).id = some m) (hk : (s.call k).id = some n) (hxj : x.Answers j m v)
    (hxk : x.Answers k n w) : j = k := by
  obtain ⟨r, hr, hm, -⟩ := hxj.frame
  obtain ⟨r', hr', hn, -⟩ := hxk.frame
  cases hr.symm.trans hr'
  have hmn := id?_inj hm hn
  exact h.correlated.distinct j k m hj (hmn ▸ hk)

/-- In every run, whoever gets a value over the socket gets it from one handled frame, the response to
this very call, and each from a frame of its own. A frame changes only a call that it names, and
never two; no two calls have the same number. -/
theorem value_from_response (h : Run handled s) :
    (∃ source : Nat → Nat,
      (∀ k v, s.HasValue k v → ∃ x n, handled[source k]? = some x ∧ (s.call k).id = some n ∧
        x.Answers k n v) ∧
      ∀ j k v w, s.HasValue j v → s.HasValue k w → source j = source k → j = k) ∧
    (∀ x ∈ handled, ∀ k, x.Touches k → x.Names k ∧ ∀ j, x.Touches j → j = k) ∧
    ∀ j k n, (s.call j).id = some n → (s.call k).id = some n → j = k := by
  have hs := h.sound
  have hsource (k : Nat) : ∃ i : Nat, ∀ v, s.HasValue k v → ∃ x n, handled[i]? = some x ∧
      (s.call k).id = some n ∧ x.Answers k n v := by
    by_cases hk : ∃ v, s.HasValue k v
    · obtain ⟨v, hv⟩ := hk
      obtain ⟨n, hn, x, hx, ha⟩ := hs.sourced hv
      obtain ⟨i, hi⟩ := List.getElem?_of_mem hx
      refine ⟨i, fun w hw => ?_⟩
      have hvw : v = w := by simpa using hv.2.symm.trans hw.2
      exact ⟨x, n, hi, hn, hvw ▸ ha⟩
    · exact ⟨0, fun v hv => (hk ⟨v, hv⟩).elim⟩
  choose source hvalue using hsource
  refine ⟨⟨source, hvalue, ?_⟩, ?_, hs.correlated.distinct⟩
  · intro j k v w hj hk hjk
    obtain ⟨x, m, hx, hm, hxj⟩ := hvalue j v hj
    obtain ⟨y, n, hy, hn, hyk⟩ := hvalue k w hk
    rw [hjk, hy] at hx
    cases hx
    exact hs.answers_unique hm hn hxj hyk
  · intro x hx k hk
    refine ⟨hs.touches hx hk, fun j hj => ?_⟩
    obtain ⟨earlier, hc⟩ := hs.frames x hx
    obtain ⟨r, m, hr, hm, -, hjm⟩ := hs.touches hx hj
    obtain ⟨r', n, hr', hn, -, hkn⟩ := hs.touches hx hk
    cases hr.symm.trans hr'
    have hmn := id?_inj hm hn
    exact hc.distinct j k m hjm (hmn ▸ hkn)

def hasReturned (s : Session) (k : Nat) (n : Int) : Bool :=
  match (s.call k).outcome? with
  | some (.value (.int m)) => m == n
  | _ => false

theorem outcome?_of_hasReturned (h : s.hasReturned k n) :
    (s.call k).outcome? = some (.value (.int n)) := by
  unfold hasReturned at h
  split at h
  · rename_i m ho
    rw [ho, eq_of_beq h]
  · cases h

/-- Two calls that are answered the other way round, the first one under the number true. -/
theorem value_from_response_swapped :
    let s := (new "ws://host" false (.int 30) .ignored).afterAll
      [.begin ⟨"first", .list [], true, .socket⟩ none,
        .begin ⟨"second", .list [], true, .socket⟩ none, .work, .work, .work, .work, .work,
        .arrive 0 (.text "\x7b\"id\": 2, \"result\": 20\x7d"),
        .arrive 0 (.text "\x7b\"id\": true, \"result\": 10\x7d"), .work, .work, .work, .work, .work,
        .work, .work]
    s.HasValue 0 (.int 10) ∧ s.HasValue 1 (.int 20) ∧ ∃ handled, Run handled s ∧
      ∃ (source : Nat → Nat) (x : Handling) (n : Nat), source 0 ≠ source 1 ∧
        handled[source 0]? = some x ∧ x.Answers 0 n (.int 10) := by
  intro s
  have hrun := Run.new "ws://host" false (.int 30) .ignored
  obtain ⟨handled, hs⟩ := hrun.moves _
  have hasks : (s.call 0).request.AsksSocket ∧ (s.call 1).request.AsksSocket := by
    simp only [s, Request.AsksSocket]
    decide +kernel
  have hends : s.hasReturned 0 10 ∧ s.hasReturned 1 20 := by
    simp only [s]
    decide +kernel
  have hvalues : s.HasValue 0 (.int 10) ∧ s.HasValue 1 (.int 20) :=
    ⟨⟨hasks.1, outcome?_of_hasReturned hends.1⟩, ⟨hasks.2, outcome?_of_hasReturned hends.2⟩⟩
  obtain ⟨⟨source, hsource, hinj⟩, -, -⟩ := value_from_response hs
  obtain ⟨x, n, hx, -, ha⟩ := hsource 0 _ hvalues.1
  refine ⟨hvalues.1, hvalues.2, _, hs, source, x, n, fun h => ?_, hx, ha⟩
  exact absurd (hinj 0 1 _ _ hvalues.1 hvalues.2 h) (by decide)

end Farcall.Session
