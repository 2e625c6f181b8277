import Farcall.Events.Hub

/-!
# Runs of actions

What an action makes of the state it is run on. One that looks first and writes last leaves the
state as it was when it fails.
-/

namespace Farcall.Action

variable {σ α β : Type}

theorem get_run (st : σ) : (get : Action σ σ) st = (.ok st, st) := rfl

theorem modify_run (f : σ → σ) (st : σ) : (modify f : Action σ PUnit) st = (.ok (), f st) := rfl

theorem bind_run (act : Action σ α) (f : α → Action σ β) (st : σ) :
    (act >>= f) st = match act st with
      | (.ok a, st') => f a st'
      | (.error e, st') => (.error e, st') := by
  have hbind : (act >>= f) st = ExceptT.bindCont f (act st).1 (act st).2 := rfl
  rw [hbind]
  rcases act st with ⟨_ | _, _⟩ <;> rfl

theorem tryCatch_run (act : Action σ α) (f : Failure → Action σ α) (st : σ) :
    (tryCatch act f : Action σ α) st = match act st with
      | (.ok a, st') => (.ok a, st')
      | (.error e, st') => f e st' := by
  simp only [tryCatch, tryCatchThe, MonadExceptOf.tryCatch, ExceptT.tryCatch, ExceptT.mk, bind,
    StateT.bind]
  rcases act st with ⟨_ | _, _⟩ <;> rfl

-- ---------------------------------------------------------------------------
-- Actions that write last
-- ---------------------------------------------------------------------------

variable {st : σ}

def looks (f : σ → Except Failure α) : Action σ α := fun st => (f st, st)

def given (x : Except Failure α) : Action σ α := looks fun _ => x

def outcome (st : σ) : Except Failure (σ × α) → Except Failure α × σ
  | .ok (st', a) => (.ok a, st')
  | .error e => (.error e, st)

def result (act : Action σ α) (st : σ) : Except Failure σ :=
  match act st with
  | (.ok _, st') => .ok st'
  | (.error e, _) => .error e

/-- If an action fails, the state is as before; if not, it did what is said. -/
def AllOrNothing (act : Action σ α) (st : σ) (did : α → σ → Prop) : Prop :=
  match act st with
  | (.ok a, st') => did a st'
  | (.error _, st') => st' = st

theorem map_run (f : α → β) (act : Action σ α) :
    (f <$> act) st = ((act st).1.map f, (act st).2) := by
  have hmap : (f <$> act) = act >>= fun a => pure (f a) := (bind_pure_comp f act).symm
  rw [hmap, bind_run]
  rcases act st with ⟨_ | _, _⟩ <;> rfl

theorem looks_bind_run {f : σ → Except Failure α} {act : α → Action σ β}
    {next : α → Except Failure (σ × β)} (h : ∀ a, f st = .ok a → act a st = outcome st (next a)) :
    (looks f >>= act) st = outcome st (f st >>= next) := by
  rw [bind_run, looks]
  cases hf : f st with
  | ok a => exact h a hf
  | error e => rfl

theorem given_bind_run {x : Except Failure α} {act : α → Action σ β}
    {next : α → Except Failure (σ × β)} (h : ∀ a, x = .ok a → act a st = outcome st (next a)) :
    (given x >>= act) st = outcome st (x >>= next) :=
  looks_bind_run h

theorem AllOrNothing.of_outcome {act : Action σ α} {x : Except Failure (σ × α)}
    {did : α → σ → Prop} (hact : act st = outcome st x)
    (h : ∀ st' a, x = .ok (st', a) → did a st') : act.AllOrNothing st did := by
  unfold AllOrNothing
  rw [hact]
  cases x with
  | ok p => exact h p.1 p.2 rfl
  | error e => rfl

theorem AllOrNothing.imp {act : Action σ α} {did did' : α → σ → Prop} (h : act.AllOrNothing st did)
    (himp : ∀ a st', did a st' → did' a st') : act.AllOrNothing st did' := by
  unfold AllOrNothing at h ⊢
  rcases hact : act st with ⟨_ | a, st'⟩
  · rw [hact] at h
    exact h
  · rw [hact] at h
    exact himp a st' h

theorem AllOrNothing.map {act : Action σ α} {f : α → β} {did : β → σ → Prop}
    (h : act.AllOrNothing st fun a => did (f a)) : AllOrNothing (f <$> act) st did := by
  unfold AllOrNothing at h ⊢
  rw [map_run]
  rcases hact : act st with ⟨_ | _, _⟩ <;> rw [hact] at h <;> exact h

theorem AllOrNothing.given_bind {x : Except Failure α} {act : α → Action σ β}
    {did : β → σ → Prop} (h : ∀ a, x = .ok a → (act a).AllOrNothing st did) :
    AllOrNothing (given x >>= act) st did := by
  unfold AllOrNothing
  rw [bind_run]
  cases hx : x with
  | ok a => exact h a hx
  | error e => rfl

theorem result_map {act : Action σ α} {f : α → β} : result (f <$> act) st = act.result st := by
  unfold result
  rw [map_run]
  rcases act st with ⟨_ | _, _⟩ <;> rfl

theorem result_given_bind {x : Except Failure α} {act : α → Action σ β} :
    result (given x >>= act) st = x >>= fun a => (act a).result st := by
  unfold result
  rw [bind_run]
  cases x <;> rfl

theorem result_of_outcome {act : Action σ α} {x : Except Failure (σ × α)}
    (h : act st = outcome st x) : act.result st = Prod.fst <$> x := by
  unfold result
  rw [h]
  cases x <;> rfl

end Farcall.Action
