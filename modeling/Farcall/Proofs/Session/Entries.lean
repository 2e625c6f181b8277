import Farcall.Proofs.Session.Closing

/-!
# Pending entries and their calls

A pending entry is that of a call under way. The exceptions are the ends that a call can come to while
its frame is being sent or its response is waited for and that nobody cleans up after.
-/

namespace Farcall.Session

open Standing (Steps)

variable {s t : Session} {handled : List Handling}

theorem Sound.steps (h : Sound handled s) (m : Move) (k : Nat) :
    Steps true (s.standing k) ((s.after m).standing k) := by
  by_cases hlook : m = .observe
  · subst hlook
    rw [standing_eq (t := s.after .observe) (s := s) rfl rfl]
  by_cases hclose : m = .close ∧ s.closed = false
  · obtain ⟨rfl, hopen⟩ := hclose
    have hshut : s.shut.standing k = s.standing k := standing_eq rfl rfl k
    rw [← hshut]
    exact (shuts_close hopen).steps k
  · have hclosed : m = .close → s.closed = true := fun hm => by
      simpa using fun hopen => hclose ⟨hm, hopen⟩
    rcases after_cases (fun _ => rfl) h hlook hclosed with hshuts | ⟨-, _, _, -, -, hadvances⟩
    · exact hshuts.steps k
    · exact hadvances.steps k

theorem Run.held (h : Run handled s) (k : Nat) : (s.standing k).Held := by
  induction h with
  | new address customEncryption timeout notices =>
    rw [standing, call_of_length_le (Nat.zero_le k)]
    exact Standing.held_of_not_noted (fun _ => rfl) fun o ho => by cases ho
  | move hrun m ih => exact Standing.held_of_steps ih (hrun.sound.steps m k)

theorem Run.deserved (h : Run handled s) (k : Nat) : (s.standing k).Deserved := by
  induction h with
  | new address customEncryption timeout notices =>
    rw [standing, call_of_length_le (Nat.zero_le k)]
    exact fun v hv => by cases hv
  | move hrun m ih => exact Standing.deserved_of_steps ih (hrun.sound.steps m k)

/-- In every run, a pending entry is that of a call under way, unless the call has been cancelled, its
message has no JSON text, or sending its frame has failed with something else than an error of the
protocol: after these ends the entry is left. -/
theorem pending_while_under_way (h : Run handled s) (he : (n, k) ∈ s.pending) :
    (s.call k).id = some n ∧ ∀ o, (s.call k).outcome? = some o → (s.call k).Leaves o := by
  refine ⟨h.sound.correlated.pending _ he, fun o ho => ?_⟩
  have hnoted : s.isNoted k = true := List.any_eq_true.mpr ⟨_, he, by simp⟩
  unfold Call.outcome? at ho
  split at ho
  · rename_i o' hg
    cases ho
    exact (h.held k).ended o hnoted hg
  · cases ho

/-- The first call was cancelled while it waited for its response, the second one still waits. -/
theorem pending_after_cancellation :
    let s := (new "ws://host" false (.int 30) .ignored).afterAll
      [.begin ⟨"first", .list [], true, .socket⟩ none,
        .begin ⟨"second", .list [], true, .socket⟩ none, .work, .work, .work, .work, .cancel 0,
        .work, .work, .work, .work, .work]
    s.pending = [(1, 0), (2, 1)] ∧ (s.call 1).outcome?.isNone ∧ (s.call 0).id = some 1 ∧
      ∃ o, (s.call 0).outcome? = some o ∧ (s.call 0).Leaves o := by
  intro s
  have hrun := Run.new "ws://host" false (.int 30) .ignored
  obtain ⟨handled, hs⟩ := hrun.moves _
  have hstate : s.pending = [(1, 0), (2, 1)] ∧ (s.call 1).outcome?.isNone ∧
      (s.call 0).outcome?.isSome := by
    simp only [s]
    decide +kernel
  obtain ⟨hpending, hwaits, hended⟩ := hstate
  have hmem : (1, 0) ∈ s.pending := by simp [hpending]
  obtain ⟨hid, hleaves⟩ := pending_while_under_way hs hmem
  obtain ⟨o, ho⟩ := Option.isSome_iff_exists.mp hended
  exact ⟨hpending, hwaits, hid, o, ho, hleaves o ho⟩

/-- A call whose parameters have no JSON text has ended, and its entry is still there. -/
theorem upload_leaves_entry :
    let s := (new "ws://host" false (.int 30) .ignored).afterAll
      [.begin ⟨"upload", .list [.bytes [0]], true, .socket⟩ none, .work, .work, .work, .work, .work]
    (∃ handled, Run handled s) ∧ ¬∀ e ∈ s.pending, (s.call e.2).outcome? = none := by
  intro s
  obtain ⟨handled, hs⟩ := (Run.new "ws://host" false (.int 30) .ignored).moves _
  have hstate : s.pending = [(1, 0)] ∧ (s.call 0).outcome?.isSome := by
    simp only [s]
    decide +kernel
  obtain ⟨hpending, hended⟩ := hstate
  refine ⟨⟨_, hs⟩, fun hall => ?_⟩
  rw [hall (1, 0) (by simp [hpending])] at hended
  cases hended

end Farcall.Session
