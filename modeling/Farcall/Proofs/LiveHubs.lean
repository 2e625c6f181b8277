import Farcall.Proofs.Subscriptions
import Farcall.Proofs.Trees
import Mathlib.Data.List.Nodup

/-!
# Listeners in lists that are changed in place

A hub may keep the listeners of each event in a list of its own, which is changed where it stands.
What such a hub is asked for comes to what a hub comes to that keeps plain values, and it touches no
list but those that belong to events.
-/

namespace Farcall

/-- A hub whose lists of listeners are changed in place. A list is known by its number. -/
structure LiveHub (σ : Type) where
  lists : List (List String)
  table : List (String × Nat)
  /-- The listeners called so far, and with what. -/
  calls : List (String × List Argument)
  around : σ

namespace LiveHub

variable {σ α β : Type}

def list (hub : LiveHub σ) (a : Nat) : List String := hub.lists.getD a []

def filled? (hub : LiveHub σ) (event : String) : Option Nat :=
  (hub.table.lookup event).filter fun a => !(hub.list a).isEmpty

def view (hub : LiveHub σ) : Hub σ :=
  ⟨⟨hub.table.map fun e => (e.1, hub.list e.2)⟩, hub.around⟩

-- ---------------------------------------------------------------------------
-- Operations
-- ---------------------------------------------------------------------------

def outside (act : Action σ α) : Action (LiveHub σ) α := fun hub =>
  ((act hub.around).1, { hub with around := (act hub.around).2 })

def allocate (listeners : List String) : Action (LiveHub σ) Nat := fun hub =>
  (.ok hub.lists.length, { hub with lists := hub.lists ++ [listeners] })

def change (a : Nat) (f : List String → List String) : Action (LiveHub σ) Unit :=
  modify fun hub => { hub with lists := hub.lists.modify a f }

/-- Sets the list of an event: a known event keeps its place, a new one goes last. -/
def assign (event : String) (a : Nat) : Action (LiveHub σ) Unit :=
  modify fun hub => { hub with table :=
    if (hub.table.lookup event).isSome then
      (hub.table.map fun e => if e.1 = event then (event, a) else e)
    else hub.table ++ [(event, a)] }

def drop (event : String) : Action (LiveHub σ) Unit :=
  modify fun hub => { hub with table := hub.table.filter fun e => e.1 ≠ event }

def add (s : Surroundings σ) (event listener : String) : Action (LiveHub σ) Unit := do
  match (← get).filled? event with
  | some a => change a (· ++ [listener])
  | none =>
    outside (s.first event)
    let a ← allocate [listener]
    assign event a

def remove (s : Surroundings σ) (event listener : String) : Action (LiveHub σ) Unit := do
  let hub ← get
  match hub.filled? event with
  | none => pure ()
  | some a =>
    if listener ∈ hub.list a then
      change a (·.erase listener)
      if ((← get).list a).isEmpty then
        drop event
        outside (s.last event)

def clearEvents (s : Surroundings σ) : List String → Action (LiveHub σ) Unit
  | [] => pure ()
  | event :: rest => do
    drop event
    outside (s.last event)
    clearEvents s rest

def clear (s : Surroundings σ) (event : Option String) : Action (LiveHub σ) Unit := do
  match event with
  | some e => clearEvents s [e]
  | none => clearEvents s ((← get).table.map Prod.fst)

def react (s : Surroundings σ) : Reaction → Action (LiveHub σ) Unit
  | .nothing => pure ()
  | .raise e => throw e
  | .add event listener => add s event listener
  | .remove event listener => remove s event listener
  | .clear event => clear s event
  | .andThen first second => do
    react s first
    react s second
  | .orElse first second => tryCatch (react s first) fun _ => react s second

def call (s : Surroundings σ) (listener : String) (args : List Argument) :
    Action (LiveHub σ) Unit := do
  modify fun hub => { hub with
    calls := hub.calls ++ [(listener, args)]
    around := s.heard listener args hub.around }
  let hub ← get
  react s (s.reaction listener args hub.view.listeners hub.around)

-- ---------------------------------------------------------------------------
-- Lists of events
-- ---------------------------------------------------------------------------

/-- Each event has a list of its own, with listeners in it. -/
structure Sound (hub : LiveHub σ) : Prop where
  known : ∀ e ∈ hub.table, e.2 < hub.lists.length
  events : (hub.table.map Prod.fst).Nodup
  apart : (hub.table.map Prod.snd).Nodup
  filled : ∀ e ∈ hub.table, hub.list e.2 ≠ []

def Free (hub : LiveHub σ) (a : Nat) : Prop := a < hub.lists.length ∧ ∀ e ∈ hub.table, e.2 ≠ a

variable {hub : LiveHub σ}

theorem Sound.entry_iff (h : hub.Sound) (hin : (event, a) ∈ hub.table) (he : e ∈ hub.table) :
    e.1 = event ↔ e.2 = a := by
  constructor <;> intro heq
  · exact congrArg Prod.snd (List.inj_on_of_nodup_map h.events he hin heq)
  · exact congrArg Prod.fst (List.inj_on_of_nodup_map h.apart he hin heq)

theorem around_view (hub : LiveHub σ) : hub.view.around = hub.around := rfl

theorem lookup_view (hub : LiveHub σ) (event : String) :
    hub.view.listeners.entries.lookup event = (hub.table.lookup event).map hub.list := by
  unfold view
  induction hub.table with
  | nil => rfl
  | cons e table ih =>
    obtain ⟨name, a⟩ := e
    rw [List.map_cons, List.lookup_cons, List.lookup_cons]
    by_cases hname : event = name
    · simp [hname]
    · simpa [beq_eq_false_iff_ne.mpr hname] using ih

theorem of_view (hub : LiveHub σ) (event : String) :
    hub.view.listeners.of event = ((hub.table.lookup event).map hub.list).getD [] := by
  rw [Listeners.of, lookup_view]

theorem Sound.filled?_eq (h : hub.Sound) (event : String) :
    hub.filled? event = hub.table.lookup event := by
  unfold filled?
  cases hlookup : hub.table.lookup event with
  | none => rfl
  | some a =>
    have hfilled := h.filled (event, a) (Tree.mem_of_lookup hlookup)
    simpa using hfilled

-- ---------------------------------------------------------------------------
-- Steps
-- ---------------------------------------------------------------------------

def within (hub : LiveHub σ) (around : σ) : LiveHub σ := { hub with around := around }

def opened (hub : LiveHub σ) (event listener : String) : LiveHub σ :=
  { hub with
    lists := hub.lists ++ [[listener]]
    table := hub.table ++ [(event, hub.lists.length)] }

def changed (hub : LiveHub σ) (a : Nat) (f : List String → List String) : LiveHub σ :=
  { hub with lists := hub.lists.modify a f }

def closed (hub : LiveHub σ) (event : String) : LiveHub σ :=
  { hub with table := hub.table.filter fun e => e.1 ≠ event }

theorem list_opened (hub : LiveHub σ) (hb : b < hub.lists.length) (event listener : String) :
    (hub.opened event listener).list b = hub.list b := by
  simp [list, opened, List.getElem?_append_left hb]

theorem list_opened_new (hub : LiveHub σ) (event listener : String) :
    (hub.opened event listener).list hub.lists.length = [listener] := by
  simp [list, opened]

theorem list_changed (hub : LiveHub σ) (hb : b < hub.lists.length) (a : Nat)
    (f : List String → List String) :
    (hub.changed a f).list b = if b = a then f (hub.list b) else hub.list b := by
  by_cases hba : b = a
  · simp [list, changed, ← hba, hb]
  · simp [list, changed, hba, Ne.symm hba]

section

variable {s : Surroundings σ}

theorem outside_run (act : Action σ α) (hub : LiveHub σ) :
    outside act hub = ((act hub.around).1, hub.within (act hub.around).2) := rfl

theorem add_of_none (h : hub.table.lookup event = none) (listener : String) :
    add s event listener hub = match s.first event hub.around with
      | (.ok _, around) => (.ok (), (hub.opened event listener).within around)
      | (.error e, around) => (.error e, hub.within around) := by
  have hfilled : hub.filled? event = none := by simp [filled?, h]
  simp only [add, Action.bind_run, Action.get_run, hfilled, outside_run]
  rcases s.first event hub.around with ⟨_ | _, _⟩
  · rfl
  · simp [allocate, assign, Action.modify_run, within, opened, h]

theorem add_of_some (h : hub.filled? event = some a) (listener : String) :
    add s event listener hub = (.ok (), hub.changed a (· ++ [listener])) := by
  simp only [add, Action.bind_run, Action.get_run, h]
  rfl

theorem remove_of_none (h : hub.filled? event = none) (listener : String) :
    remove s event listener hub = (.ok (), hub) := by
  simp only [remove, Action.bind_run, Action.get_run, h]
  rfl

theorem remove_of_some (h : hub.filled? event = some a) (listener : String) :
    remove s event listener hub =
      if listener ∈ hub.list a then
        if (hub.list a).erase listener = [] then
          ((s.last event hub.around).1,
            ((hub.changed a (·.erase listener)).closed event).within (s.last event hub.around).2)
        else (.ok (), hub.changed a (·.erase listener))
      else (.ok (), hub) := by
  simp only [remove, Action.bind_run, Action.get_run, h]
  by_cases hin : listener ∈ hub.list a
  · have ha : a < hub.lists.length := by
      by_contra hlength
      simp [list, List.getElem?_eq_none (Nat.le_of_not_lt hlength)] at hin
    have hleft := hub.list_changed ha a (·.erase listener)
    rw [if_pos rfl, changed] at hleft
    simp only [hin, if_true, change, Action.bind_run, Action.modify_run, Action.get_run, hleft]
    by_cases hempty : (hub.list a).erase listener = []
    · simp only [hempty, List.isEmpty_nil, if_true]
      rfl
    · have hfull : ((hub.list a).erase listener).isEmpty = false := by simpa using hempty
      simp only [hempty, hfull, Bool.false_eq_true, if_false]
      rfl
  · simp only [hin, if_false]
    rfl

theorem clearEvents_run (event : String) (rest : List String) (hub : LiveHub σ) :
    clearEvents s (event :: rest) hub = match s.last event hub.around with
      | (.ok _, around) => clearEvents s rest ((hub.closed event).within around)
      | (.error e, around) => (.error e, (hub.closed event).within around) := by
  simp only [clearEvents, drop, Action.bind_run, Action.modify_run, outside_run]
  rcases s.last event hub.around with ⟨_ | _, _⟩ <;> rfl

end

-- ---------------------------------------------------------------------------
-- What a step leaves alone
-- ---------------------------------------------------------------------------

structure Follows (hub next : LiveHub σ) : Prop where
  sound : next.Sound
  /-- No list is touched that belongs to no event, nor is it given to one. -/
  spares : ∀ a, hub.Free a → next.Free a ∧ next.list a = hub.list a
  calls : next.calls = hub.calls

theorem Sound.refl (h : hub.Sound) : Follows hub hub := ⟨h, fun _ ha => ⟨ha, rfl⟩, rfl⟩

theorem Follows.within (h : Follows hub next) (around : σ) : Follows hub (next.within around) :=
  ⟨⟨h.sound.known, h.sound.events, h.sound.apart, h.sound.filled⟩, h.spares, h.calls⟩

theorem Follows.trans (h : Follows hub hub') (h' : Follows hub' hub'') : Follows hub hub'' := by
  refine ⟨h'.sound, fun a ha => ?_, h'.calls.trans h.calls⟩
  obtain ⟨hfree, hlist⟩ := h.spares a ha
  obtain ⟨hfree', hlist'⟩ := h'.spares a hfree
  exact ⟨hfree', hlist'.trans hlist⟩

theorem Sound.opened (h : hub.Sound) (hevent : hub.table.lookup event = none) (listener : String) :
    Follows hub (hub.opened event listener) := by
  have hlength : (hub.opened event listener).lists.length = hub.lists.length + 1 := by
    simp [LiveHub.opened]
  refine ⟨⟨?_, ?_, ?_, ?_⟩, ?_, rfl⟩
  · intro e he
    rw [hlength]
    rcases List.mem_append.mp he with he | he
    · exact Nat.lt_succ_of_lt (h.known e he)
    · obtain rfl := List.mem_singleton.mp he
      exact Nat.lt_succ_self _
  · have hnew := Tree.lookup_eq_none_iff.mp hevent
    simp only [LiveHub.opened, List.map_append]
    exact h.events.append (by simp) (by simpa using hnew)
  · have hnew : hub.lists.length ∉ hub.table.map Prod.snd := by
      intro hin
      obtain ⟨e, he, heq⟩ := List.mem_map.mp hin
      exact (h.known e he).ne heq
    simp only [LiveHub.opened, List.map_append]
    exact h.apart.append (by simp) (by simpa using hnew)
  · intro e he
    rcases List.mem_append.mp he with he | he
    · rw [list_opened hub (h.known e he)]
      exact h.filled e he
    · obtain rfl := List.mem_singleton.mp he
      rw [list_opened_new]
      exact List.cons_ne_nil _ _
  · rintro a ⟨hlt, hfree⟩
    refine ⟨⟨hlength ▸ Nat.lt_succ_of_lt hlt, ?_⟩, list_opened hub hlt event listener⟩
    intro e he
    rcases List.mem_append.mp he with he | he
    · exact hfree e he
    · obtain rfl := List.mem_singleton.mp he
      exact hlt.ne'

theorem Sound.changed (h : hub.Sound) (hin : (event, a) ∈ hub.table)
    (hne : f (hub.list a) ≠ []) : Follows hub (hub.changed a f) := by
  have hlength : (hub.changed a f).lists.length = hub.lists.length := by simp [LiveHub.changed]
  refine ⟨⟨fun e he => hlength ▸ h.known e he, h.events, h.apart, ?_⟩, ?_, rfl⟩
  · intro e he
    rw [list_changed hub (h.known e he)]
    split
    · rename_i hea
      rwa [hea]
    · exact h.filled e he
  · rintro b ⟨hlt, hfree⟩
    refine ⟨⟨hlength ▸ hlt, hfree⟩, ?_⟩
    rw [list_changed hub hlt, if_neg (hfree (event, a) hin).symm]

/-- An event is taken away. Nothing is said about what is left in its list. -/
structure Closes (event : String) (hub next : LiveHub σ) : Prop where
  table : next.table = hub.table.filter fun e => e.1 ≠ event
  length : next.lists.length = hub.lists.length
  lists : ∀ b < hub.lists.length, (event, b) ∉ hub.table → next.list b = hub.list b
  calls : next.calls = hub.calls

theorem closes_closed (hub : LiveHub σ) (event : String) : Closes event hub (hub.closed event) :=
  ⟨rfl, rfl, fun _ _ _ => rfl, rfl⟩

theorem closes_changed (hin : (event, a) ∈ hub.table) (f : List String → List String) :
    Closes event hub ((hub.changed a f).closed event) := by
  refine ⟨rfl, by simp [LiveHub.closed, LiveHub.changed], fun b hb hother => ?_, rfl⟩
  refine (list_changed hub hb a f).trans (if_neg ?_)
  rintro rfl
  exact hother hin

namespace Closes

theorem mem_of_mem (h : Closes event hub next) (he : e ∈ next.table) : e ∈ hub.table := by
  rw [h.table] at he
  exact (List.mem_filter.mp he).1

theorem list_eq (h : Closes event hub next) (hsound : hub.Sound) (he : e ∈ next.table) :
    next.list e.2 = hub.list e.2 := by
  have hin := h.mem_of_mem he
  refine h.lists e.2 (hsound.known e hin) fun hevent => ?_
  have hname := (hsound.entry_iff hevent hin).mpr rfl
  simp [h.table, hname] at he

theorem follows (h : Closes event hub next) (hsound : hub.Sound) : Follows hub next := by
  have hsub : next.table.Sublist hub.table := h.table ▸ List.filter_sublist
  refine ⟨⟨?_, ?_, ?_, ?_⟩, ?_, h.calls⟩
  · exact fun e he => h.length ▸ hsound.known e (h.mem_of_mem he)
  · exact hsound.events.sublist (hsub.map _)
  · exact hsound.apart.sublist (hsub.map _)
  · exact fun e he => h.list_eq hsound he ▸ hsound.filled e (h.mem_of_mem he)
  · rintro b ⟨hlt, hfree⟩
    refine ⟨⟨h.length ▸ hlt, fun e he => hfree e (h.mem_of_mem he)⟩, ?_⟩
    exact h.lists b hlt fun hin => hfree (event, b) hin rfl

theorem view_eq (h : Closes event hub next) (hsound : hub.Sound) :
    next.view.listeners = hub.view.listeners.erase event := by
  have hkept : ∀ e ∈ next.table, (e.1, next.list e.2) = (e.1, hub.list e.2) :=
    fun e he => by rw [h.list_eq hsound he]
  simp only [view, Listeners.erase, List.filter_map]
  rw [List.map_congr_left hkept, h.table]
  rfl

end Closes

-- ---------------------------------------------------------------------------
-- Steps on values
-- ---------------------------------------------------------------------------

theorem view_opened (h : hub.Sound) (hevent : hub.table.lookup event = none) (listener : String) :
    (hub.opened event listener).view.listeners = hub.view.listeners.insert event listener := by
  have hkept : ∀ e ∈ hub.table, (e.1, (hub.opened event listener).list e.2) = (e.1, hub.list e.2) :=
    fun e he => by rw [list_opened hub (h.known e he)]
  have hof : hub.view.listeners.of event = [] := by rw [of_view, hevent]; rfl
  have hentries : (hub.opened event listener).view.listeners.entries =
      hub.view.listeners.entries ++ [(event, [listener])] := by
    calc (hub.opened event listener).view.listeners.entries
        = hub.table.map (fun e => (e.1, (hub.opened event listener).list e.2)) ++
            [(event, (hub.opened event listener).list hub.lists.length)] := List.map_append
      _ = hub.view.listeners.entries ++ [(event, [listener])] := by
        rw [List.map_congr_left hkept, list_opened_new]
        rfl
  simp only [Listeners.insert, hof, List.isEmpty_nil, if_true, ← hentries]

theorem view_changed (h : hub.Sound) (hin : (event, a) ∈ hub.table)
    (f : List String → List String) : (hub.changed a f).view.listeners.entries =
      hub.view.listeners.entries.map fun e => if e.1 = event then (e.1, f e.2) else e := by
  simp only [view, List.map_map]
  refine List.map_congr_left fun e he => ?_
  simp only [Function.comp, list_changed hub (h.known e he), h.entry_iff hin he]
  split <;> rfl

theorem Sound.of_mem (h : hub.Sound) (hin : (event, a) ∈ hub.table) :
    hub.view.listeners.of event = hub.list a := by
  rw [of_view, Tree.lookup_of_mem h.events hin]
  rfl

theorem view_more (h : hub.Sound) (hin : (event, a) ∈ hub.table) (listener : String) :
    (hub.changed a (· ++ [listener])).view.listeners =
      hub.view.listeners.insert event listener := by
  have hof : (hub.view.listeners.of event).isEmpty = false := by
    rw [h.of_mem hin]
    simpa using h.filled (event, a) hin
  simp only [Listeners.insert, hof, Bool.false_eq_true, if_false]
  exact congrArg Listeners.mk (view_changed h hin _)

theorem view_fewer (h : hub.Sound) (hin : (event, a) ∈ hub.table)
    (hleft : (hub.list a).erase listener ≠ []) :
    (hub.changed a (·.erase listener)).view.listeners =
      hub.view.listeners.remove event listener := by
  have hempty : ((hub.list a).erase listener).isEmpty = false := by simpa using hleft
  simp only [Listeners.remove, h.of_mem hin, hempty, Bool.false_eq_true, if_false]
  refine congrArg Listeners.mk ((view_changed h hin _).trans ?_)
  simp only [view, List.map_map]
  refine List.map_congr_left fun e he => ?_
  by_cases heq : e.1 = event
  · simp [heq, (h.entry_iff hin he).mp heq]
  · simp [heq]

theorem view_last (h : hub.Sound) (hin : (event, a) ∈ hub.table)
    (hleft : (hub.list a).erase listener = []) :
    ((hub.changed a (·.erase listener)).closed event).view.listeners =
      hub.view.listeners.remove event listener := by
  rw [(closes_changed hin _).view_eq h]
  simp only [Listeners.remove, h.of_mem hin, hleft, List.isEmpty_nil, if_true]

-- ---------------------------------------------------------------------------
-- Operations on lists and on values
-- ---------------------------------------------------------------------------

/-- An action on lists comes to what the other one comes to on values. -/
def Agrees (live : Action (LiveHub σ) α) (act : Action (Hub σ) α) : Prop :=
  ∀ hub, hub.Sound → act hub.view = ((live hub).1, (live hub).2.view) ∧ Follows hub (live hub).2

namespace Agrees

theorem pure (a : α) : Agrees (σ := σ) (Pure.pure a) (Pure.pure a) :=
  fun _ h => ⟨rfl, h.refl⟩

theorem throw (e : Failure) :
    Agrees (σ := σ) (α := α) (MonadExcept.throw e) (MonadExcept.throw e) :=
  fun _ h => ⟨rfl, h.refl⟩

theorem bind {live : Action (LiveHub σ) α} {act : Action (Hub σ) α}
    {f : α → Action (LiveHub σ) β} {g : α → Action (Hub σ) β}
    (h : Agrees live act) (hf : ∀ a, Agrees (f a) (g a)) : Agrees (live >>= f) (act >>= g) := by
  intro hub hsound
  obtain ⟨hrun, hfollows⟩ := h hub hsound
  rw [Action.bind_run, Action.bind_run, hrun]
  rcases hlive : live hub with ⟨e | a, next⟩ <;> rw [hlive] at hfollows
  · exact ⟨rfl, hfollows⟩
  · obtain ⟨hrun', hfollows'⟩ := hf a next hfollows.sound
    exact ⟨hrun', hfollows.trans hfollows'⟩

theorem tryCatch {live live' : Action (LiveHub σ) α} {act act' : Action (Hub σ) α}
    (h : Agrees live act) (h' : Agrees live' act') :
    Agrees (MonadExcept.tryCatch live fun _ => live') (MonadExcept.tryCatch act fun _ => act') := by
  intro hub hsound
  obtain ⟨hrun, hfollows⟩ := h hub hsound
  rw [Action.tryCatch_run, Action.tryCatch_run, hrun]
  rcases hlive : live hub with ⟨e | a, next⟩ <;> rw [hlive] at hfollows
  · obtain ⟨hrun', hfollows'⟩ := h' next hfollows.sound
    exact ⟨hrun', hfollows.trans hfollows'⟩
  · exact ⟨rfl, hfollows⟩

theorem get {f : LiveHub σ → Action (LiveHub σ) α} {g : Hub σ → Action (Hub σ) α}
    (hf : ∀ hub, hub.Sound → Agrees (f hub) (g hub.view)) :
    Agrees (MonadState.get >>= f) (MonadState.get >>= g) :=
  fun hub hsound => hf hub hsound hub hsound

theorem add (s : Surroundings σ) (event listener : String) :
    Agrees (LiveHub.add s event listener) (Hub.add s event listener) := by
  intro hub h
  rw [Hub.add_run]
  cases hlookup : hub.table.lookup event with
  | none =>
    have hof : hub.view.listeners.of event = [] := by rw [of_view, hlookup]; rfl
    rw [if_pos hof, add_of_none hlookup, ← view_opened h hlookup]
    rw [around_view]
    rcases s.first event hub.around with ⟨_ | _, around⟩
    · exact ⟨rfl, h.refl.within around⟩
    · exact ⟨rfl, (h.opened hlookup listener).within around⟩
  | some a =>
    have hin := Tree.mem_of_lookup hlookup
    have hof : hub.view.listeners.of event ≠ [] := h.of_mem hin ▸ h.filled (event, a) hin
    rw [if_neg hof, add_of_some (h.filled?_eq event ▸ hlookup), ← view_more h hin]
    exact ⟨rfl, h.changed hin (by simp)⟩

theorem remove (s : Surroundings σ) (event listener : String) :
    Agrees (LiveHub.remove s event listener) (Hub.remove s event listener) := by
  intro hub h
  rw [Hub.remove_run]
  cases hlookup : hub.table.lookup event with
  | none =>
    have hof : hub.view.listeners.of event = [] := by rw [of_view, hlookup]; rfl
    rw [remove_of_none (h.filled?_eq event ▸ hlookup), hof, if_neg List.not_mem_nil]
    exact ⟨rfl, h.refl⟩
  | some a =>
    have hin := Tree.mem_of_lookup hlookup
    have hof := h.of_mem hin
    rw [remove_of_some (h.filled?_eq event ▸ hlookup), hof]
    by_cases hlistener : listener ∈ hub.list a
    · rw [if_pos hlistener, if_pos hlistener, Listeners.of_remove (hof ▸ hlistener), if_pos rfl, hof]
      by_cases hleft : (hub.list a).erase listener = []
      · rw [if_pos hleft, if_pos hleft, ← view_last h hin hleft]
        exact ⟨rfl, ((closes_changed hin _).follows h).within _⟩
      · rw [if_neg hleft, if_neg hleft, ← view_fewer h hin hleft]
        exact ⟨rfl, h.changed hin hleft⟩
    · rw [if_neg hlistener, if_neg hlistener]
      exact ⟨rfl, h.refl⟩

theorem clearEvents (s : Surroundings σ) (events : List String) :
    Agrees (LiveHub.clearEvents s events) (Hub.clearEvents s events) := by
  induction events with
  | nil => exact pure ()
  | cons event rest ih =>
    intro hub h
    have hcloses := hub.closes_closed event
    have hfollows := hcloses.follows h
    rw [Hub.clearEvents_run, clearEvents_run, ← hcloses.view_eq h, around_view]
    rcases s.last event hub.around with ⟨_ | _, around⟩
    · exact ⟨rfl, hfollows.within around⟩
    · have hnext := hfollows.within around
      obtain ⟨hrun, hrest⟩ := ih _ hnext.sound
      exact ⟨hrun, hnext.trans hrest⟩

theorem clear (s : Surroundings σ) (event : Option String) :
    Agrees (LiveHub.clear s event) (Hub.clear s event) := by
  cases event with
  | some event => exact clearEvents s [event]
  | none =>
    refine get fun hub _ => ?_
    have hevents : hub.view.listeners.events = hub.table.map Prod.fst := List.map_map
    rw [hevents]
    exact clearEvents s _

theorem react (s : Surroundings σ) (r : Reaction) :
    Agrees (LiveHub.react s r) (Hub.react s r) := by
  induction r with
  | nothing => exact pure ()
  | raise e => exact throw e
  | add event listener => exact add s event listener
  | remove event listener => exact remove s event listener
  | clear event => exact clear s event
  | andThen first second ih ih' => exact bind ih fun _ => ih'
  | orElse first second ih ih' => exact tryCatch ih ih'

end Agrees

def noted (s : Surroundings σ) (listener : String) (args : List Argument) (hub : LiveHub σ) :
    LiveHub σ :=
  { hub with
    calls := hub.calls ++ [(listener, args)]
    around := s.heard listener args hub.around }

theorem call_run (s : Surroundings σ) (listener : String) (args : List Argument)
    (hub : LiveHub σ) : call s listener args hub =
      react s (s.reaction listener args hub.view.listeners (s.heard listener args hub.around))
        (hub.noted s listener args) := by
  simp only [call, Action.bind_run, Action.modify_run, Action.get_run]
  rfl

theorem call_agrees (h : hub.Sound) (s : Surroundings σ) (listener : String)
    (args : List Argument) :
    Hub.call s listener args hub.view =
        ((call s listener args hub).1, (call s listener args hub).2.view) ∧
      Follows (hub.noted s listener args) (call s listener args hub).2 := by
  rw [call_run]
  exact Agrees.react s _ (hub.noted s listener args) ⟨h.known, h.events, h.apart, h.filled⟩

end LiveHub

end Farcall
