import Farcall.Proofs.Session.Closing

/-!
# Closed sessions

Closing a session does not stop the calls that are on their way to the network, and these do not look
whether the session is closed. What else there is stays as closing leaves it: nothing goes out, no
transport is in use, and once closing has ended nothing is pending.
-/

namespace Farcall.Session

variable {s t u : Session} {handled : List Handling}

/-- Whether a call is on its way to the network. -/
def SetsOut (s : Session) (k : Nat) : Prop := (s.call k).carrier.isSettingOut = true

/-- In a move a connection is opened, or one is attempted, a frame is sent or a request is posted. -/
def ReachesOut (s : Session) (m : Move) : Prop :=
  m ≠ .observe ∧
    ((s.after m).connections.length ≠ s.connections.length ∨ (s.after m).outbound ≠ s.outbound)

/-- Where a session has got to that was closed as `s`. -/
structure Released (s t : Session) : Prop where
  closed : t.closed = true
  settingOut : ∀ k, t.SetsOut k → s.SetsOut k
  pending : t.closing.isFinished = true → ∀ e ∈ t.pending, s.SetsOut e.2
  socket : t.socket ≠ none → ∃ k, s.SetsOut k
  http : t.httpOpen = true → ∃ k, s.SetsOut k

theorem isNoted_iff : s.isNoted k = true ↔ ∃ e ∈ s.pending, e.2 = k := by
  simp [isNoted]

theorem released_close (hopen : s.closed = false) : Released s s.close := by
  have hshut : Shuts false s.shut s.close := shuts_close hopen
  have hstanding (k : Nat) : s.shut.standing k = s.standing k := standing_eq rfl rfl k
  refine ⟨hshut.closed, fun k hk => ?_, fun hended e he => ?_, fun hsocket => ?_, fun hhttp => ?_⟩
  · have hsteps := hshut.steps k
    rw [hstanding] at hsteps
    exact Standing.settingOut_of_steps hsteps hk
  · rw [pending_close hopen hended] at he
    cases he
  · exact (hsocket (hshut.socket.elim id id)).elim
  · rw [hshut.http] at hhttp
    cases hhttp

/-- If closing had ended before, only calls on their way become pending. -/
theorem Released.pending_of_steps (h : Released s t)
    (hsteps : ∀ k, Standing.Steps false (t.standing k) (u.standing k))
    (hended : t.closing.isFinished = true) : ∀ e ∈ u.pending, s.SetsOut e.2 := by
  intro e he
  rcases Standing.noted_of_steps (hsteps e.2) (isNoted_iff.mpr ⟨e, he, rfl⟩) with hnoted | hout
  · obtain ⟨e', he', heq⟩ := isNoted_iff.mp hnoted
    rw [← heq]
    exact h.pending hended e' he'
  · exact h.settingOut e.2 hout

/-- A closed session takes no more calls, and closing it again changes nothing. -/
theorem Released.after_cases (h : Released s t) (ht : Sound handled t) (hlook : m ≠ .observe) :
    Shuts false t (t.after m) ∨
      m = .work ∧ ∃ k u, t.next = some (.carrier k, u) ∧ (t.call k).carrier.isSettingOut = true ∧
        Advances false t (t.after m) :=
  Session.after_cases (by simp [h.closed]) ht hlook fun _ => h.closed

theorem Released.after (h : Released s t) (ht : Sound handled t) (m : Move) :
    Released s (t.after m) := by
  by_cases hlook : m = .observe
  · subst hlook
    exact ⟨h.closed, h.settingOut, h.pending, h.socket, h.http⟩
  rcases h.after_cases ht hlook with hshuts | ⟨-, k, _, -, hk, hadvances⟩
  · refine ⟨hshuts.closed.trans h.closed, fun k hk => ?_, fun hended => ?_, fun hsocket => ?_,
      fun hhttp => ?_⟩
    · exact h.settingOut k (Standing.settingOut_of_steps (hshuts.steps k) hk)
    · rcases hshuts.ended hended with heq | hnone
      · exact h.pending_of_steps hshuts.steps (heq ▸ hended)
      · rw [hnone]
        exact fun e he => by cases he
    · rcases hshuts.socket with heq | hnone
      · exact h.socket (heq ▸ hsocket)
      · exact (hsocket hnone).elim
    · exact h.http (hshuts.http ▸ hhttp)
  · have hout : ∃ k, s.SetsOut k := ⟨k, h.settingOut k hk⟩
    refine ⟨hadvances.closed.trans h.closed, fun k hk => ?_, fun hended => ?_, fun _ => hout,
      fun _ => hout⟩
    · exact h.settingOut k (Standing.settingOut_of_steps (hadvances.steps k) hk)
    · exact h.pending_of_steps hadvances.steps (hadvances.closing ▸ hended)

theorem Released.afterAll (h : Released s t) (ht : Run handled t) (ms : List Move) :
    Released s (t.afterAll ms) := by
  induction ms generalizing handled t with
  | nil => exact h
  | cons m ms ih => exact ih (h.after ht.sound m) (ht.move m)

/-- What reaches out is the work of a call that was on its way when the session was closed. -/
theorem Released.reachesOut (h : Released s t) (ht : Sound handled t) (hm : t.ReachesOut m) :
    m = .work ∧ ∃ k u, t.next = some (.carrier k, u) ∧ s.SetsOut k := by
  obtain ⟨hlook, hout⟩ := hm
  rcases h.after_cases ht hlook with hshuts | ⟨hm, k, u, hj, hk, -⟩
  · rcases hout with hout | hout
    · exact (hout hshuts.connections).elim
    · exact (hout hshuts.outbound).elim
  · exact ⟨hm, k, u, hj, h.settingOut k hk⟩

/-- Whatever happens after a session is closed, and whatever calls are under way then: it is only the
calls on their way to the network that still reach out, that still become pending once closing has
ended, and that take a transport into use again. Where there are none, a closed session stays
released. -/
theorem released_but_for_setting_out (h : Run handled s) (hopen : s.closed = false)
    (ms : List Move) :
    let t := s.close.afterAll ms
    (∀ m, t.ReachesOut m → m = .work ∧ ∃ k u, t.next = some (.carrier k, u) ∧ s.SetsOut k) ∧
    (t.closing.isFinished = true → ∀ e ∈ t.pending, s.SetsOut e.2) ∧
    (t.socket ≠ none ∨ t.httpOpen = true → ∃ k, s.SetsOut k) := by
  intro t
  have hclose : Run (handled ++ s.handledIn .close) s.close := h.move .close
  obtain ⟨more, ht⟩ := hclose.moves ms
  have hreleased : Released s t := (released_close hopen).afterAll hclose ms
  refine ⟨fun m hm => hreleased.reachesOut ht.sound hm, hreleased.pending, fun hused => ?_⟩
  rcases hused with hsocket | hhttp
  · exact hreleased.socket hsocket
  · exact hreleased.http hhttp

/-- One call waits for its response and one for the answer to its request; neither is on its way any
more, so the closed session stays released, also when a third call is made. -/
theorem released_while_calls_wait :
    let s := (new "ws://host" false (.int 30) .ignored).afterAll
      [.begin ⟨"watch", .list [], true, .socket⟩ none, .begin ⟨"ping", .list [], true, .http⟩ none,
        .work, .work, .work, .work, .work]
    let t := s.close.afterAll
      [.work, .work, .begin ⟨"watch", .list [], true, .socket⟩ none, .work, .reply 0 .broken, .work,
        .work]
    s.pending = [(1, 0)] ∧ s.socket = some 0 ∧ s.httpOpen = true ∧ t.pending = [] ∧ t.socket = none ∧
      t.httpOpen = false ∧ ∀ m, ¬t.ReachesOut m := by
  intro s t
  obtain ⟨handled, hs⟩ := (Run.new "ws://host" false (.int 30) .ignored).moves
    [.begin ⟨"watch", .list [], true, .socket⟩ none, .begin ⟨"ping", .list [], true, .http⟩ none,
      .work, .work, .work, .work, .work]
  have hstate : s.closed = false ∧ s.pending = [(1, 0)] ∧ s.socket = some 0 ∧ s.httpOpen = true ∧
      s.calls.length = 2 ∧ ∀ k < 2, (s.call k).carrier.isSettingOut = false := by
    simp only [s]
    decide +kernel
  have hended : t.closing.isFinished = true := by
    simp only [t, s]
    decide +kernel
  obtain ⟨hopen, hpending, hsocket, hhttp, hlength, hcalls⟩ := hstate
  have hnone : ¬∃ k, s.SetsOut k := by
    rintro ⟨k, hk⟩
    by_cases hlt : k < 2
    · exact Bool.false_ne_true ((hcalls k hlt).symm.trans hk)
    · rw [SetsOut, call_of_length_le (by omega)] at hk
      cases hk
  obtain ⟨hreaches, hleft, hused⟩ := released_but_for_setting_out hs hopen
    [.work, .work, .begin ⟨"watch", .list [], true, .socket⟩ none, .work, .reply 0 .broken, .work,
      .work]
  refine ⟨hpending, hsocket, hhttp, ?_, ?_, ?_, fun m hm => ?_⟩
  · exact List.eq_nil_iff_forall_not_mem.mpr fun e he => hnone ⟨e.2, hleft hended e he⟩
  · by_contra h
    exact hnone (hused (.inl h))
  · by_contra h
    exact hnone (hused (.inr (by simpa using h)))
  · obtain ⟨-, k, -, -, hk⟩ := hreaches m hm
    exact hnone ⟨k, hk⟩

/-- A session is closed while an attempt to connect hangs. When that succeeds after all, the session
has a connection again, sends a frame over it and waits for the response. -/
theorem late_connection_is_used :
    let s := (new "ws://host" false (.int 30) .ignored).afterAll
      [.network ⟨[.hanging], none, none, false⟩, .begin ⟨"ping", .list [], true, .socket⟩ none, .work,
        .work]
    let t := s.close.afterAll [.settle 0 none]
    (∃ handled, Run handled s) ∧ s.close.closing.isFinished = true ∧ t.ReachesOut .work ∧
      (t.after .work).socket = some 0 ∧ (t.after .work).pending = [(1, 0)] := by
  intro s t
  obtain ⟨handled, hs⟩ := (Run.new "ws://host" false (.int 30) .ignored).moves
    [.network ⟨[.hanging], none, none, false⟩, .begin ⟨"ping", .list [], true, .socket⟩ none, .work,
      .work]
  have hended : s.close.closing.isFinished = true ∧ (t.after .work).connections.length = 1 ∧
      t.connections.length = 0 ∧ (t.after .work).socket = some 0 ∧
      (t.after .work).pending = [(1, 0)] := by
    simp only [t, s]
    decide +kernel
  obtain ⟨hended, hafter, hbefore, hsocket, hpending⟩ := hended
  refine ⟨⟨_, hs⟩, hended, ⟨nofun, .inl ?_⟩, hsocket, hpending⟩
  rw [hafter, hbefore]
  decide

end Farcall.Session
