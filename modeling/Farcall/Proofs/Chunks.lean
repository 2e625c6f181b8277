import Farcall.Emission.Target
import Farcall.Proofs.Literals
import Farcall.Proofs.Success

/-!
# Joined chunks

Chunks of lines are joined by leaving out those that are empty: the first one stands for itself, and
each of the others brings the empty line before it.
-/

namespace Farcall.Target

theorem each_eq {f : α → Lines} {g : α → List String} (h : ∀ x ∈ xs, f x = .ok (g x)) :
    each f xs = .ok (xs.map g) := by
  induction xs with
  | nil => rfl
  | cons x xs ih =>
    obtain ⟨hx, hxs⟩ := List.forall_mem_cons.mp h
    simp [each, hx, ih hxs, bind, Except.bind, pure, Except.pure]

theorem each_ok (f : α → List String) (xs : List α) :
    each (fun a => .ok (f a)) xs = .ok (xs.map f) :=
  each_eq fun _ _ => rfl

theorem each_checked {check : α → Except Failure Unit} {g : α → List String} :
    each (fun x => do check x; return g x) xs = .ok ls ↔
      (∀ x ∈ xs, check x = .ok ()) ∧ ls = xs.map g := by
  induction xs generalizing ls with
  | nil => simp [each, eq_comm]
  | cons x xs ih =>
    simp only [each, bind_ok, pure_ok, ih, List.forall_mem_cons, List.map_cons]
    constructor
    · rintro ⟨_, ⟨_, hx, rfl⟩, _, ⟨hxs, rfl⟩, rfl⟩
      exact ⟨⟨hx, hxs⟩, rfl⟩
    · rintro ⟨⟨hx, hxs⟩, rfl⟩
      exact ⟨_, ⟨_, hx, rfl⟩, _, ⟨hxs, rfl⟩, rfl⟩

def gap (separate : Bool) : List String := if separate then [""] else []

theorem eq_of_mem_gap (h : l ∈ gap separate) : l = "" := by
  cases separate <;> simp_all [gap]

variable {separate : Bool} {c : List String} {cs : List (List String)}

@[simp] theorem joinChunks_nil : joinChunks separate [] = [] := by
  simp [joinChunks]

@[simp] theorem joinChunks_nil_cons : joinChunks separate ([] :: cs) = joinChunks separate cs := by
  simp [joinChunks]

theorem joinChunks_cons (hc : c ≠ []) : joinChunks separate (c :: cs) =
    c ++ (cs.filter (!·.isEmpty)).flatMap (gap separate ++ ·) := by
  have hkeep : (c :: cs).filter (!·.isEmpty) = c :: cs.filter (!·.isEmpty) := by simp [hc]
  have hjoin := Delimits.intercalate_map_cons (gap separate) id c (cs.filter (!·.isEmpty))
  rw [joinChunks, hkeep, ← gap]
  simpa using hjoin

theorem joinChunks_flatten (chunks : List (List String)) :
    joinChunks false chunks = chunks.flatten := by
  induction chunks with
  | nil => simp
  | cons c cs ih =>
    by_cases hc : c = []
    · simp [hc, ih]
    · rw [joinChunks_cons hc]
      simp [gap, List.flatMap_id', List.flatten_filter_not_isEmpty]

end Farcall.Target
