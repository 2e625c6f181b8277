import Farcall.Proofs.LiveHubs
import Farcall.Proofs.Turns

/-!
# Calls of listeners that change their list

Listeners are called from a copy of the list of their event, which is read as the calls go on. No
event ever has the copy as its list, so it stays as it was, whatever the listeners do to theirs: each
listener that was there when the call began is called, and nobody else.
-/

namespace Farcall.LiveHub

variable {σ : Type}

/-- The listeners in a list are called from a position on, each read when its turn has come. -/
inductive Iterates (s : Surroundings σ) (args : List Argument) (a : Nat) :
    Nat → LiveHub σ → Except Failure Unit → LiveHub σ → Prop
  | done (h : (hub.list a)[i]? = none) : Iterates s args a i hub (.ok ()) hub
  | failed (h : (hub.list a)[i]? = some listener)
    (hcall : call s listener args hub = (.error e, after)) :
    Iterates s args a i hub (.error e) after
  | next (h : (hub.list a)[i]? = some listener)
    (hcall : call s listener args hub = (.ok (), next))
    (hrest : Iterates s args a (i + 1) next r after) : Iterates s args a i hub r after

inductive Emits (s : Surroundings σ) (event : String) (args : List Argument) (hub : LiveHub σ) :
    Except Failure Bool → LiveHub σ → Prop
  | nobody (h : hub.filled? event = none) : Emits s event args hub (.ok false) hub
  | listeners (h : hub.filled? event = some a) (hcopy : allocate (hub.list a) hub = (.ok copy, next))
    (hcalls : Iterates s args copy 0 next r after) :
    Emits s event args hub (r.map fun _ => true) after

/-- The hubs that operations lead to, whatever happens around them in between. -/
inductive Reached (s : Surroundings σ) : LiveHub σ → Prop
  | new (around : σ) : Reached s ⟨[], [], [], around⟩
  | around (h : Reached s hub) (around : σ) : Reached s (hub.within around)
  | add (h : Reached s hub) (event listener : String) : Reached s (add s event listener hub).2
  | remove (h : Reached s hub) (event listener : String) : Reached s (remove s event listener hub).2
  | clear (h : Reached s hub) (event : Option String) : Reached s (clear s event hub).2
  | emit (h : Reached s hub) (hemits : Emits s event args hub r after) : Reached s after

variable {s : Surroundings σ} {args : List Argument} {hub : LiveHub σ}

-- ---------------------------------------------------------------------------
-- Calls from a list
-- ---------------------------------------------------------------------------

theorem Iterates.unique (h : Iterates s args a i hub r after)
    (h' : Iterates s args a i hub r' after') : r' = r ∧ after' = after := by
  induction h with
  | done hread =>
    cases h' with
    | done _ => exact ⟨rfl, rfl⟩
    | failed hread' _ => simp [hread] at hread'
    | next hread' _ _ => simp [hread] at hread'
  | failed hread hcall =>
    cases h' with
    | done hread' => simp [hread] at hread'
    | failed hread' hcall' =>
      obtain rfl := Option.some.inj (hread.symm.trans hread')
      obtain ⟨he, hafter⟩ := Prod.mk.inj (hcall.symm.trans hcall')
      exact ⟨he.symm, hafter.symm⟩
    | next hread' hcall' _ =>
      obtain rfl := Option.some.inj (hread.symm.trans hread')
      cases hcall.symm.trans hcall'
  | next hread hcall _ ih =>
    cases h' with
    | done hread' => simp [hread] at hread'
    | failed hread' hcall' =>
      obtain rfl := Option.some.inj (hread.symm.trans hread')
      cases hcall.symm.trans hcall'
    | next hread' hcall' hrest' =>
      obtain rfl := Option.some.inj (hread.symm.trans hread')
      obtain ⟨-, rfl⟩ := Prod.mk.inj (hcall.symm.trans hcall')
      exact ih hrest'

/-- The list is as it was at each turn, since it belongs to no event. -/
theorem exists_iterates (s : Surroundings σ) (args : List Argument) (hsound : hub.Sound)
    (hfree : hub.Free a) (hlist : (hub.list a).drop i = listeners) : ∃ r after,
      Iterates s args a i hub r after ∧
      (r, after.view) = Hub.callEach s args listeners hub.view ∧
      after.Sound ∧
      after.calls = hub.calls ++
        (Hub.turns s args listeners hub.view).map fun t => (t.listener, args) := by
  induction listeners generalizing hub i with
  | nil =>
    have hread : (hub.list a)[i]? = none := by simpa using hlist
    exact ⟨.ok (), hub, .done hread, rfl, hsound, by simp [Hub.turns]⟩
  | cons listener rest ih =>
    have hread : (hub.list a)[i]? = some listener := by
      rw [← List.head?_drop, hlist]
      rfl
    have hrest : (hub.list a).drop (i + 1) = rest := by
      rw [← List.tail_drop, hlist]
      rfl
    obtain ⟨hcall, hfollows⟩ := call_agrees hsound s listener args
    obtain ⟨hresult, htake⟩ := Prod.mk.inj ((Hub.call_eq s args listener hub.view).symm.trans hcall)
    rcases hrun : call s listener args hub with ⟨e | _, next⟩ <;>
      rw [hrun] at hcall hfollows hresult htake <;>
      have hnoted : next.calls = hub.calls ++ [(listener, args)] := hfollows.calls
    · refine ⟨.error e, next, .failed hread hrun, ?_, hfollows.sound, ?_⟩
      · simp only [Hub.callEach, Action.bind_run, hcall]
      · simp only [Hub.turns, hresult, hnoted]
        rfl
    · obtain ⟨hfree', hlist'⟩ := hfollows.spares a hfree
      have hrest' : (next.list a).drop (i + 1) = rest := hlist' ▸ hrest
      obtain ⟨r, after, hiter, hrun', hsound', hcalls⟩ := ih hfollows.sound hfree' hrest'
      refine ⟨r, after, .next hread hrun hiter, ?_, hsound', ?_⟩
      · simp only [Hub.callEach, Action.bind_run, hcall, hrun']
      · simp only [Hub.turns, hresult, htake, hcalls, hnoted, List.append_assoc]
        rfl

-- ---------------------------------------------------------------------------
-- Calls of an event
-- ---------------------------------------------------------------------------

theorem Emits.unique (h : Emits s event args hub r after) (h' : Emits s event args hub r' after') :
    r' = r ∧ after' = after := by
  cases h with
  | nobody hnone =>
    cases h' with
    | nobody _ => exact ⟨rfl, rfl⟩
    | listeners hsome _ _ => cases hnone.symm.trans hsome
  | listeners hsome hcopy hcalls =>
    cases h' with
    | nobody hnone => cases hnone.symm.trans hsome
    | listeners hsome' hcopy' hcalls' =>
      obtain rfl := Option.some.inj (hsome.symm.trans hsome')
      cases hcopy
      cases hcopy'
      obtain ⟨rfl, rfl⟩ := hcalls.unique hcalls'
      exact ⟨rfl, rfl⟩

def copied (hub : LiveHub σ) (a : Nat) : LiveHub σ :=
  { hub with lists := hub.lists ++ [hub.list a] }

theorem list_copied (hub : LiveHub σ) (hb : b < hub.lists.length) (a : Nat) :
    (hub.copied a).list b = hub.list b := by
  simp [list, copied, List.getElem?_append_left hb]

theorem list_copied_new (hub : LiveHub σ) (a : Nat) :
    (hub.copied a).list hub.lists.length = hub.list a := by
  simp [list, copied]

theorem Sound.copied (h : hub.Sound) (a : Nat) : (hub.copied a).Sound := by
  refine ⟨fun e he => ?_, h.events, h.apart, fun e he => ?_⟩
  · have hlength : (hub.copied a).lists.length = hub.lists.length + 1 := by simp [LiveHub.copied]
    rw [hlength]
    exact Nat.lt_succ_of_lt (h.known e he)
  · rw [list_copied hub (h.known e he)]
    exact h.filled e he

theorem Sound.free_copied (h : hub.Sound) (a : Nat) : (hub.copied a).Free hub.lists.length := by
  refine ⟨by simp [LiveHub.copied], fun e he => ?_⟩
  exact (h.known e he).ne

theorem Sound.view_copied (h : hub.Sound) (a : Nat) : (hub.copied a).view = hub.view := by
  have hkept : ∀ e ∈ hub.table, (e.1, (hub.copied a).list e.2) = (e.1, hub.list e.2) :=
    fun e he => by rw [list_copied hub (h.known e he)]
  unfold view
  rw [show (hub.copied a).table = hub.table from rfl, List.map_congr_left hkept]
  rfl

theorem exists_emits (s : Surroundings σ) (event : String) (args : List Argument)
    (h : hub.Sound) : ∃ r after,
      Emits s event args hub r after ∧
      (r, after.view) = Hub.emit s event args hub.view ∧
      after.Sound ∧
      after.calls = hub.calls ++ (Hub.turns s args (hub.view.listeners.of event) hub.view).map
        fun t => (t.listener, args) := by
  cases hlookup : hub.table.lookup event with
  | none =>
    have hof : hub.view.listeners.of event = [] := by rw [of_view, hlookup]; rfl
    refine ⟨.ok false, hub, .nobody (h.filled?_eq event ▸ hlookup), ?_, h, ?_⟩
    · simp only [Hub.emit, Action.bind_run, Action.get_run, hof]
      rfl
    · simp [hof, Hub.turns]
  | some a =>
    have hin := Tree.mem_of_lookup hlookup
    have hof := h.of_mem hin
    have hlist := hub.list_copied_new a
    obtain ⟨r, after, hiter, hrun, hsound, hcalls⟩ :=
      exists_iterates (i := 0) s args (h.copied a) (h.free_copied a) hlist
    rw [h.view_copied] at hrun hcalls
    refine ⟨r.map fun _ => true, after, .listeners (h.filled?_eq event ▸ hlookup) rfl hiter, ?_,
      hsound, hof ▸ hcalls⟩
    have hfilled : (hub.list a).isEmpty = false := by simpa using h.filled (event, a) hin
    simp only [Hub.emit, Action.bind_run, Action.get_run, hof, ← hrun, hfilled]
    cases r <;> rfl

theorem Reached.sound (h : Reached s hub) : hub.Sound := by
  induction h with
  | new around => exact ⟨by simp, by simp, by simp, by simp⟩
  | around _ around ih => exact (ih.refl.within around).sound
  | add _ event listener ih => exact ((Agrees.add s event listener) _ ih).2.sound
  | remove _ event listener ih => exact ((Agrees.remove s event listener) _ ih).2.sound
  | clear _ event ih => exact ((Agrees.clear s event) _ ih).2.sound
  | emit _ hemits ih =>
    obtain ⟨r, after, hemits', -, hsound, -⟩ := exists_emits _ _ _ ih
    obtain ⟨-, rfl⟩ := hemits.unique hemits'
    exact hsound

/-- A call of an event comes to an end, and to one only. Who is called is who was registered when it
began, in that order, once for each registration and with what was given, but for those behind one
who raises; what that one raised is raised then, else it is told whether anyone was registered. The
listeners afterwards are what those called made of the ones before by their own operations, one
after the other. So it is the call on plain values. -/
theorem emit_calls_registered (h : Reached s hub) (event : String) (args : List Argument) :
    let listeners := hub.view.listeners.of event
    ∃ r after, Emits s event args hub r after ∧
      (∀ r' after', Emits s event args hub r' after' → r' = r ∧ after' = after) ∧
      (r, after.view) = Hub.emit s event args hub.view ∧
      ∃ (turns : List Hub.Turn) (left : List String),
        listeners = turns.map Hub.Turn.listener ++ left ∧
        after.calls = hub.calls ++ turns.map (fun t => (t.listener, args)) ∧
        (∀ before t behind, turns = before ++ t :: behind →
          t = Hub.turn s args t.listener (before.foldl (Hub.Turn.take s args) hub.view)) ∧
        after.view = turns.foldl (Hub.Turn.take s args) hub.view ∧
        ((∃ before t e, turns = before ++ [t] ∧ (∀ b ∈ before, b.result = .ok ()) ∧
            t.result = .error e ∧ r = .error e) ∨
          left = [] ∧ (∀ t ∈ turns, t.result = .ok ()) ∧ r = .ok (!listeners.isEmpty)) := by
  intro listeners
  obtain ⟨r, after, hemits, hrun, -, hcalls⟩ := exists_emits s event args h.sound
  obtain ⟨left, hlisteners, hleft⟩ := Hub.exists_left s args listeners hub.view
  obtain ⟨hr, hview⟩ := Prod.mk.inj (hrun.trans (Hub.emit_eq s event args hub.view))
  refine ⟨r, after, hemits, fun _ _ h' => hemits.unique h', hrun, _, left, hlisteners, hcalls,
    fun before t behind => Hub.turn_of_split listeners hub.view, hview, ?_⟩
  rcases Hub.turns_end s args listeners hub.view with
    ⟨before, t, e, hturns, hok, he⟩ | hok
  · refine .inl ⟨before, t, e, hturns, hok, he, ?_⟩
    rw [hr, hturns, Hub.lastResult_concat, he]
    rfl
  · have hlast := Hub.lastResult_of_ok hok
    refine .inr ⟨hleft hlast, hok, ?_⟩
    rw [hr, hlast]
    rfl

/-- A listener is there twice; the first one called clears its event and registers itself anew, and
the one behind it raises. -/
theorem emit_calls_registered_self_clearing :
    let s : Surroundings Unit :=
      { first := fun _ => pure (), last := fun _ => pure (), heard := fun _ _ u => u
        reaction := fun name _ _ _ =>
          if name = "a" then .andThen (.clear none) (.add "e" "a") else .raise (.runtime "no") }
    ∃ hub r after, Reached s hub ∧ hub.view.listeners.of "e" = ["a", "b", "a"] ∧
      Emits s "e" [.value .null] hub r after ∧ r = .error (.runtime "no") ∧
      after.calls = [("a", [.value .null]), ("b", [.value .null])] ∧
      after.view.listeners.of "e" = ["a"] := by
  intro s
  let hub : LiveHub Unit := ⟨[["a", "b", "a"]], [("e", 0)], [], ()⟩
  have hreached : Reached s hub := (((Reached.new ()).add "e" "a").add "e" "b").add "e" "a"
  obtain ⟨r, after, hemits, hunique, -⟩ := emit_calls_registered hreached "e" [.value .null]
  obtain ⟨rfl, rfl⟩ := hunique _ _ (.listeners rfl rfl (.next rfl rfl (.failed rfl rfl)))
  exact ⟨hub, _, _, hreached, rfl, hemits, rfl, rfl, rfl⟩

end Farcall.LiveHub
