import Farcall.Proofs.Subscriptions

/-!
# Listeners in turn

A call of listeners comes down to the operations that they ask for while it is their turn, one
listener after the other, and it ends with the first one that raises.
-/

namespace Farcall.Hub

variable {σ : Type} {s : Surroundings σ} {args : List Argument}

-- ---------------------------------------------------------------------------
-- One listener
-- ---------------------------------------------------------------------------

/-- The operations that what a listener does comes down to, those that fail included. -/
def performed (s : Surroundings σ) : Reaction → Hub σ → List Operation
  | .nothing, _ => []
  | .raise _, _ => []
  | .add event listener, _ => [.add event (some listener)]
  | .remove event listener, _ => [.remove event (some listener)]
  | .clear event, _ => [.clear event]
  | .andThen first second, hub =>
    match react s first hub with
    | (.ok _, next) => performed s first hub ++ performed s second next
    | (.error _, _) => performed s first hub
  | .orElse first second, hub =>
    match react s first hub with
    | (.ok _, _) => performed s first hub
    | (.error _, next) => performed s first hub ++ performed s second next

theorem afterAll_append (s : Surroundings σ) (hub : Hub σ) (ops ops' : List Operation) :
    afterAll s hub (ops ++ ops') = afterAll s (afterAll s hub ops) ops' :=
  List.foldl_append

theorem react_state (s : Surroundings σ) (r : Reaction) (hub : Hub σ) :
    (react s r hub).2 = afterAll s hub (performed s r hub) := by
  induction r generalizing hub with
  | nothing => rfl
  | raise e => rfl
  | add event listener => rfl
  | remove event listener => rfl
  | clear event => rfl
  | andThen first second ih ih' =>
    have hfirst := ih hub
    simp only [react, performed, Action.bind_run]
    rcases hrun : react s first hub with ⟨e | _, next⟩ <;> rw [hrun] at hfirst
    · exact hfirst
    · rw [afterAll_append, ← hfirst]
      exact ih' next
  | orElse first second ih ih' =>
    have hfirst := ih hub
    simp only [react, performed, Action.tryCatch_run]
    rcases hrun : react s first hub with ⟨e | _, next⟩ <;> rw [hrun] at hfirst
    · rw [afterAll_append, ← hfirst]
      exact ih' next
    · exact hfirst

/-- A listener that was called, with what it did. -/
structure Turn where
  listener : String
  operations : List Operation
  result : Except Failure Unit

def Turn.take (s : Surroundings σ) (args : List Argument) (hub : Hub σ) (t : Turn) : Hub σ :=
  afterAll s ⟨hub.listeners, s.heard t.listener args hub.around⟩ t.operations

/-- What a listener does of its own when it is called, as things stand then. -/
def turn (s : Surroundings σ) (args : List Argument) (listener : String) (hub : Hub σ) : Turn :=
  let hub : Hub σ := ⟨hub.listeners, s.heard listener args hub.around⟩
  let reaction := s.reaction listener args hub.listeners hub.around
  ⟨listener, performed s reaction hub, (react s reaction hub).1⟩

theorem call_eq (s : Surroundings σ) (args : List Argument) (listener : String) (hub : Hub σ) :
    call s listener args hub =
      ((turn s args listener hub).result, (turn s args listener hub).take s args hub) := by
  simp only [call, Action.bind_run, Action.modify_run, Action.get_run]
  exact Prod.ext rfl (react_state s _ _)

-- ---------------------------------------------------------------------------
-- All listeners
-- ---------------------------------------------------------------------------

def turns (s : Surroundings σ) (args : List Argument) : List String → Hub σ → List Turn
  | [], _ => []
  | listener :: rest, hub =>
    let t := turn s args listener hub
    match t.result with
    | .ok _ => t :: turns s args rest (t.take s args hub)
    | .error _ => [t]

def lastResult (ts : List Turn) : Except Failure Unit :=
  (ts.getLast?.map Turn.result).getD (.ok ())

theorem lastResult_cons {t : Turn} (h : t.result = .ok ()) (ts : List Turn) :
    lastResult (t :: ts) = lastResult ts := by
  cases ts with
  | nil => exact h
  | cons t' ts => rfl

theorem callEach_eq (s : Surroundings σ) (args : List Argument) (listeners : List String)
    (hub : Hub σ) : callEach s args listeners hub =
      (lastResult (turns s args listeners hub),
        (turns s args listeners hub).foldl (Turn.take s args) hub) := by
  induction listeners generalizing hub with
  | nil => rfl
  | cons listener rest ih =>
    simp only [callEach, turns, Action.bind_run, call_eq]
    cases hresult : (turn s args listener hub).result with
    | error e => simp [lastResult, hresult]
    | ok _ => simp only [ih, lastResult_cons hresult, List.foldl_cons]

/-- Nobody is passed over, and only one who raises cuts others off. -/
theorem exists_left (s : Surroundings σ) (args : List Argument) (listeners : List String)
    (hub : Hub σ) : ∃ left,
      listeners = (turns s args listeners hub).map Turn.listener ++ left ∧
        (lastResult (turns s args listeners hub) = .ok () → left = []) := by
  induction listeners generalizing hub with
  | nil => exact ⟨[], rfl, fun _ => rfl⟩
  | cons listener rest ih =>
    cases hresult : (turn s args listener hub).result with
    | error e =>
      simp only [turns, hresult]
      refine ⟨rest, rfl, fun h => ?_⟩
      simp [lastResult, hresult] at h
    | ok _ =>
      obtain ⟨left, hlisteners, hleft⟩ := ih ((turn s args listener hub).take s args hub)
      simp only [turns, hresult, lastResult_cons hresult]
      exact ⟨left, congrArg (listener :: ·) hlisteners, hleft⟩

theorem turns_end (s : Surroundings σ) (args : List Argument) (listeners : List String)
    (hub : Hub σ) :
    (∃ before t e, turns s args listeners hub = before ++ [t] ∧
      (∀ b ∈ before, b.result = .ok ()) ∧ t.result = .error e) ∨
    ∀ t ∈ turns s args listeners hub, t.result = .ok () := by
  induction listeners generalizing hub with
  | nil => exact .inr (by simp [turns])
  | cons listener rest ih =>
    cases hresult : (turn s args listener hub).result with
    | error e => exact .inl ⟨[], _, e, by simp only [turns, hresult, List.nil_append], by simp, hresult⟩
    | ok _ =>
      simp only [turns, hresult]
      rcases ih ((turn s args listener hub).take s args hub) with ⟨before, t, e, hturns, hok, he⟩ | hok
      · refine .inl ⟨_ :: before, t, e, congrArg _ hturns, ?_, he⟩
        exact List.forall_mem_cons.mpr ⟨hresult, hok⟩
      · exact .inr (List.forall_mem_cons.mpr ⟨hresult, hok⟩)

theorem lastResult_concat (before : List Turn) (t : Turn) :
    lastResult (before ++ [t]) = t.result := by
  simp [lastResult]

theorem lastResult_of_ok {ts : List Turn} (h : ∀ t ∈ ts, t.result = .ok ()) :
    lastResult ts = .ok () := by
  rcases List.eq_nil_or_concat ts with rfl | ⟨before, t, rfl⟩
  · rfl
  · rw [List.concat_eq_append, lastResult_concat]
    exact h t (by simp)

theorem head?_turns (s : Surroundings σ) (args : List Argument) (listener : String)
    (rest : List String) (hub : Hub σ) :
    (turns s args (listener :: rest) hub).head? = some (turn s args listener hub) := by
  simp only [turns]
  split <;> rfl

/-- Each listener does its own as things stand after those before it. -/
theorem turn_of_split {before behind : List Turn} (listeners : List String) (hub : Hub σ)
    (h : turns s args listeners hub = before ++ t :: behind) :
    t = turn s args t.listener (before.foldl (Turn.take s args) hub) := by
  induction listeners generalizing hub before with
  | nil => simp [turns] at h
  | cons listener rest ih =>
    cases before with
    | nil =>
      have hhead := head?_turns s args listener rest hub
      rw [h] at hhead
      obtain rfl := Option.some.inj hhead
      rfl
    | cons b before =>
      cases hresult : (turn s args listener hub).result with
      | error e => simp [turns, hresult] at h
      | ok _ =>
        simp only [turns, hresult, List.cons_append, List.cons.injEq] at h
        obtain ⟨rfl, hrest⟩ := h
        have hown := ih _ hrest
        exact hown

theorem emit_eq (s : Surroundings σ) (event : String) (args : List Argument) (hub : Hub σ) :
    emit s event args hub =
      ((lastResult (turns s args (hub.listeners.of event) hub)).map
          fun _ => !(hub.listeners.of event).isEmpty,
        (turns s args (hub.listeners.of event) hub).foldl (Turn.take s args) hub) := by
  simp only [emit, Action.bind_run, Action.get_run]
  rw [callEach_eq]
  cases lastResult (turns s args (hub.listeners.of event) hub) <;> rfl

end Farcall.Hub
