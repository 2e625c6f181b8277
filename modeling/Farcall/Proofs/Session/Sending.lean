import Farcall.Proofs.Session.Entries
import Farcall.Proofs.Session.Messages
import Farcall.Proofs.Session.Order

/-!
# What was sent

Messages are numbered, so each frame that was sent is that of one call. Only calls that were made later
come after it, and a call over the socket that has succeeded is one whose frame was sent.
-/

namespace Farcall

def Call.hasSucceeded (c : Call) : Bool :=
  match c.outcome? with
  | some (.value _) => true
  | _ => false

theorem Call.guard_of_hasSucceeded {c : Call} (h : c.hasSucceeded = true) :
    ∃ v, c.guard = .finished (.value v) := by
  unfold hasSucceeded outcome? at h
  split at h
  · rename_i v ho
    split at ho
    · rename_i o hguard
      cases ho
      exact ⟨v, hguard⟩
    · cases ho
  · cases h

theorem Call.frame?_eq_some {c : Call} (h : c.frame? = some f) : c.link = some f.1 ∧
    Json.write Json.spaced (c.request.message (c.id.getD 0)) = .ok f.2 := by
  unfold Call.frame? at h
  split at h
  · rename_i l text hlink htext
    cases h
    exact ⟨hlink, htext⟩
  · cases h

namespace Session

variable {s : Session} {past : List Trace} {ks : List Nat} {fs : List (Nat × String)}
  {f : Nat × String} {j k : Nat}

theorem FramesOf.exists_of_mem (h : s.FramesOf ks fs) (hf : f ∈ fs) :
    ∃ k ∈ ks, (s.call k).frame? = some f := by
  induction h with
  | nil => cases hf
  | @cons k f' ks fs hk _ ih =>
    rcases List.mem_cons.mp hf with rfl | hf
    · exact ⟨k, List.mem_cons_self, hk⟩
    · obtain ⟨j, hj, hframe⟩ := ih hf
      exact ⟨j, List.mem_cons_of_mem k hj, hframe⟩

/-- The frame of one of the calls stands among the frames, and those behind it are of later calls. -/
theorem FramesOf.split (h : s.FramesOf ks fs) (hsorted : ks.Pairwise (· < ·)) (hk : k ∈ ks) :
    ∃ f before after, (s.call k).frame? = some f ∧ fs = before ++ f :: after ∧
      ∀ g ∈ after, ∃ j, k < j ∧ (s.call j).frame? = some g := by
  induction h with
  | nil => cases hk
  | @cons i f ks fs hf hrest ih =>
    obtain ⟨hfirst, hlater⟩ := List.pairwise_cons.mp hsorted
    rcases List.mem_cons.mp hk with rfl | hk
    · refine ⟨f, [], fs, hf, rfl, fun g hg => ?_⟩
      obtain ⟨j, hj, hframe⟩ := FramesOf.exists_of_mem hrest hg
      exact ⟨j, hfirst j hj, hframe⟩
    · obtain ⟨g, before, after, hg, rfl, hafter⟩ := ih hlater hk
      exact ⟨g, f :: before, after, hg, rfl, hafter⟩

theorem Numbered.not_lt_of_frame? {active : List Job} (h : Numbered active s)
    (hj : (s.call j).frame? = some f) (hk : (s.call k).frame? = some f) : ¬ j < k := by
  intro hlt
  obtain ⟨hlink, htext⟩ := Call.frame?_eq_some hj
  obtain ⟨hlink', htext'⟩ := Call.frame?_eq_some hk
  obtain ⟨m, hm⟩ := Option.ne_none_iff_exists'.mp (h.linked j (by simp [hlink]))
  obtain ⟨n, hn⟩ := Option.ne_none_iff_exists'.mp (h.linked k (by simp [hlink']))
  rw [hm, Option.getD_some] at htext
  rw [hn, Option.getD_some] at htext'
  exact Nat.ne_of_lt (h.ids j k m n hlt hm hn) (Request.message_id_inj htext htext')

theorem Numbered.frame_inj {active : List Job} (h : Numbered active s)
    (hj : (s.call j).frame? = some f) (hk : (s.call k).frame? = some f) : j = k :=
  Nat.le_antisymm (Nat.le_of_not_lt (h.not_lt_of_frame? hk hj))
    (Nat.le_of_not_lt (h.not_lt_of_frame? hj hk))

/-- The frames that were sent behind that of a call are those of later calls. -/
theorem History.sent_before (h : History past s) (hk : (s.call k).frame? = some f)
    (hf : f ∈ (past ++ s.traces).filterMap Trace.frame?) :
    ∃ before after, (past ++ s.traces).filterMap Trace.frame? = before ++ f :: after ∧
      ∀ g ∈ after, ∃ j, k < j ∧ (s.call j).frame? = some g := by
  obtain ⟨ks, hsorted, hframes, -⟩ := h.ordered.frames
  rw [List.filterMap_append] at hf ⊢
  obtain ⟨j, hj, hframe⟩ := hframes.exists_of_mem hf
  obtain rfl : j = k := h.ordered.numbered.frame_inj hframe hk
  obtain ⟨g, before, after, hg, hsplit, hafter⟩ := hframes.split hsorted hj
  obtain rfl : g = f := Option.some.inj (hg.symm.trans hk)
  exact ⟨before, after, hsplit, hafter⟩

theorem History.sent_of_hasSucceeded (h : History past s)
    (hsocket : (s.call k).request.transport = .socket) (hk : (s.call k).hasSucceeded = true) :
    ∃ f ∈ (past ++ s.traces).filterMap Trace.frame?, (s.call k).frame? = some f := by
  obtain ⟨handled, hrun⟩ := h.run
  obtain ⟨v, hguard⟩ := Call.guard_of_hasSucceeded hk
  have hcarrier : (s.call k).carrier = .finished (.value v) := hrun.deserved k v hguard
  have hout : (s.call k).isOut = true := by simp [Call.isOut, hsocket, hcarrier, Carrier.isOut]
  obtain ⟨ks, hsorted, hframes, hin⟩ := h.ordered.frames
  obtain ⟨f, before, after, hf, hsplit, -⟩ := hframes.split hsorted (hin k hout)
  rw [List.filterMap_append]
  exact ⟨f, hsplit ▸ List.mem_append_right _ List.mem_cons_self, hf⟩

end Session

end Farcall
