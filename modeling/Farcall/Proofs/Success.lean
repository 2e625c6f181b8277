import Farcall.Failure

/-!
# When computations succeed

What is known of the parts of a computation that may fail, once the whole has succeeded, and what
becomes of the whole by its first part.
-/

namespace Farcall

@[simp] theorem ok_bind (a : α) (f : α → Except ε β) : (.ok a : Except ε α) >>= f = f a := rfl

@[simp] theorem error_bind (e : ε) (f : α → Except ε β) :
    (.error e : Except ε α) >>= f = .error e := rfl

theorem bind_ok {x : Except ε α} {f : α → Except ε β} :
    x >>= f = .ok b ↔ ∃ a, x = .ok a ∧ f a = .ok b := by
  cases x <;> simp [bind, Except.bind]

theorem map_ok {x : Except ε α} {f : α → β} : f <$> x = .ok b ↔ ∃ a, x = .ok a ∧ f a = b := by
  cases x <;> simp [Functor.map, Except.map]

theorem mapError_ok {x : Except ε α} {f : ε → δ} : x.mapError f = .ok a ↔ x = .ok a := by
  cases x with
  | error e => exact ⟨fun h => (nomatch h), fun h => (nomatch h)⟩
  | ok b =>
    constructor <;> intro h
    · exact congrArg Except.ok (Except.ok.inj h)
    · exact congrArg Except.ok (Except.ok.inj h)

theorem pure_ok : (pure a : Except ε α) = .ok b ↔ a = b := by
  simp [pure, Except.pure]

theorem isOk_eq_true {x : Except ε α} : x.isOk = true ↔ ∃ a, x = .ok a := by
  cases x <;> simp [Except.isOk, Except.toBool]

theorem toOption_eq_some {x : Except ε α} : x.toOption = some a ↔ x = .ok a := by
  cases x <;> simp [Except.toOption]

variable {xs ys : List α}

theorem foldlM_append_ok {f : β → α → Except ε β} (hx : xs.foldlM f a = .ok b)
    (hy : ys.foldlM f b = .ok c) : (xs ++ ys).foldlM f a = .ok c := by
  rw [List.foldlM_append]
  exact bind_ok.mpr ⟨b, hx, hy⟩

theorem foldlM_concat_ok {f : β → α → Except ε β} (hx : xs.foldlM f a = .ok b)
    (h : f b x = .ok c) : (xs ++ [x]).foldlM f a = .ok c :=
  foldlM_append_ok hx (bind_ok.mpr ⟨c, h, rfl⟩)

@[simp] theorem throw_ok : (throw e : Except ε α) = .ok a ↔ False :=
  ⟨fun h => (nomatch h), fun h => h.elim⟩

end Farcall
