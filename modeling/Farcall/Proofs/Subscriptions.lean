import Farcall.Proofs.Actions
import Mathlib.Data.List.Chain

/-!
# Subscriptions

A hub calls a hook when an event gets its first listener and another when it has none any more. The
hooks called so far are enough to tell which events have listeners: an event has some exactly if
the last hook called for it was the first one, not counting those that failed to subscribe. This
holds whatever the listeners do while they are called, and however the hooks fail.
-/

namespace Farcall

-- ---------------------------------------------------------------------------
-- Listeners of an event
-- ---------------------------------------------------------------------------

namespace Listeners

variable {t : Listeners}

def NoneEmpty (t : Listeners) : Prop := ∀ e ∈ t.entries, e.2 ≠ []

theorem noneEmpty_empty : empty.NoneEmpty := by
  intro e he
  cases he

theorem lookup_eq_none (h : t.NoneEmpty) (hof : t.of event = []) :
    t.entries.lookup event = none := by
  cases hlookup : t.entries.lookup event with
  | none => rfl
  | some listeners =>
    obtain ⟨before, after, hentries, -⟩ := List.lookup_eq_some_iff.mp hlookup
    have hne : listeners ≠ [] := h (event, listeners) (by simp [hentries])
    simp [of, hlookup, hne] at hof

theorem lookup_map_of_key {g : String × List String → String × List String}
    (hkey : ∀ e, (g e).1 = e.1) (entries : List (String × List String)) (event : String) :
    (entries.map g).lookup event = (entries.lookup event).map fun v => (g (event, v)).2 := by
  induction entries with
  | nil => rfl
  | cons e entries ih =>
    obtain ⟨name, listeners⟩ := e
    have hg : g (name, listeners) = (name, (g (name, listeners)).2) := Prod.ext (hkey _) rfl
    rw [List.map_cons, hg, List.lookup_cons, List.lookup_cons, ih]
    by_cases hname : event = name
    · simp [hname]
    · simp [beq_eq_false_iff_ne.mpr hname]

/-- Changing the listeners of an event that has some leaves the other events alone. -/
theorem of_map (f : List String → List String) (hevent : t.of event ≠ []) (other : String) :
    (Listeners.mk (t.entries.map fun e => if e.1 = event then (e.1, f e.2) else e)).of other =
      if other = event then f (t.of event) else t.of other := by
  have hkey : ∀ e : String × List String, (if e.1 = event then (e.1, f e.2) else e).1 = e.1 := by
    intro e
    split <;> rfl
  rw [of, lookup_map_of_key hkey]
  by_cases hother : other = event
  · subst hother
    cases hlookup : t.entries.lookup other with
    | none => simp [of, hlookup] at hevent
    | some listeners => simp [of, hlookup]
  · cases hlookup : t.entries.lookup other <;> simp [of, hlookup, hother]

theorem of_insert (h : t.NoneEmpty) (event listener other : String) :
    (t.insert event listener).of other =
      if other = event then t.of event ++ [listener] else t.of other := by
  by_cases hof : t.of event = []
  · have hnone := lookup_eq_none h hof
    simp only [insert, hof, List.isEmpty_nil, if_true]
    by_cases hother : other = event
    · subst hother
      simp [of, List.lookup_append, hnone]
    · simp [of, List.lookup_append, List.lookup_cons, hother, beq_eq_false_iff_ne.mpr hother]
  · have hne : (t.of event).isEmpty = false := by simpa using hof
    simp only [insert, hne, Bool.false_eq_true, if_false]
    exact of_map (· ++ [listener]) hof other

theorem of_erase (t : Listeners) (event other : String) :
    (t.erase event).of other = if other = event then [] else t.of other := by
  obtain ⟨entries⟩ := t
  simp only [of, erase]
  induction entries with
  | nil => simp
  | cons e entries ih =>
    obtain ⟨name, listeners⟩ := e
    by_cases hother : other = name
    · subst hother
      by_cases hname : other = event
      · simpa [hname] using ih
      · simp [hname]
    · have hne := beq_eq_false_iff_ne.mpr hother
      rw [List.filter_cons]
      split
      · simpa only [List.lookup_cons, hne] using ih
      · simpa only [List.lookup_cons, hne] using ih

theorem of_remove (h : listener ∈ t.of event) (other : String) :
    (t.remove event listener).of other =
      if other = event then (t.of event).erase listener else t.of other := by
  unfold remove
  by_cases hleft : ((t.of event).erase listener).isEmpty = true
  · simp only [hleft, if_true, of_erase]
    rw [List.isEmpty_iff.mp hleft]
  · simp only [hleft, Bool.false_eq_true, if_false]
    exact of_map (fun _ => (t.of event).erase listener) (List.ne_nil_of_mem h) other

theorem NoneEmpty.insert (h : t.NoneEmpty) (event listener : String) :
    (t.insert event listener).NoneEmpty := by
  intro e he
  unfold Listeners.insert at he
  split at he
  · rcases List.mem_append.mp he with he | he
    · exact h e he
    · obtain rfl := List.mem_singleton.mp he
      simp
  · obtain ⟨e', he', rfl⟩ := List.mem_map.mp he
    split
    · simp
    · exact h e' he'

theorem NoneEmpty.erase (h : t.NoneEmpty) (event : String) : (t.erase event).NoneEmpty :=
  fun e he => h e (List.mem_filter.mp he).1

theorem NoneEmpty.remove (h : t.NoneEmpty) (event listener : String) :
    (t.remove event listener).NoneEmpty := by
  intro e he
  unfold Listeners.remove at he
  simp only at he
  split at he
  · exact h.erase event e he
  · rename_i hleft
    obtain ⟨e', he', rfl⟩ := List.mem_map.mp he
    split
    · simpa using hleft
    · exact h e' he'

end Listeners

-- ---------------------------------------------------------------------------
-- Runs of a hub
-- ---------------------------------------------------------------------------

namespace Hub

variable {σ : Type} {s : Surroundings σ}

theorem outside_run (act : Action σ α) (hub : Hub σ) :
    outside act hub = ((act hub.around).1, ⟨hub.listeners, (act hub.around).2⟩) := rfl

theorem add_run (event listener : String) (hub : Hub σ) : add s event listener hub =
    if hub.listeners.of event = [] then
      match s.first event hub.around with
      | (.ok _, around) => (.ok (), ⟨hub.listeners.insert event listener, around⟩)
      | (.error e, around) => (.error e, ⟨hub.listeners, around⟩)
    else (.ok (), ⟨hub.listeners.insert event listener, hub.around⟩) := by
  by_cases hof : hub.listeners.of event = []
  · simp only [add, Action.bind_run, Action.get_run, hof, List.isEmpty_nil, if_true, outside_run]
    rcases s.first event hub.around with ⟨_ | _, _⟩ <;> rfl
  · have hempty : (hub.listeners.of event).isEmpty = false := by simpa using hof
    simp only [add, Action.bind_run, Action.get_run, hempty, hof, if_false, Bool.false_eq_true]
    rfl

theorem remove_run (event listener : String) (hub : Hub σ) : remove s event listener hub =
    if listener ∈ hub.listeners.of event then
      if (hub.listeners.remove event listener).of event = [] then
        ((s.last event hub.around).1,
          ⟨hub.listeners.remove event listener, (s.last event hub.around).2⟩)
      else (.ok (), ⟨hub.listeners.remove event listener, hub.around⟩)
    else (.ok (), hub) := by
  by_cases hin : listener ∈ hub.listeners.of event
  · simp only [remove, Action.bind_run, Action.get_run, hin, if_true, Action.modify_run]
    by_cases hof : (hub.listeners.remove event listener).of event = []
    · simp only [hof, List.isEmpty_nil, if_true, outside_run]
    · have hempty : ((hub.listeners.remove event listener).of event).isEmpty = false := by
        simpa using hof
      simp only [hempty, hof, Bool.false_eq_true, if_false]
      rfl
  · simp only [remove, Action.bind_run, Action.get_run, hin, if_false]
    rfl

theorem clearEvents_run (event : String) (rest : List String) (hub : Hub σ) :
    clearEvents s (event :: rest) hub =
      match s.last event hub.around with
      | (.ok _, around) => clearEvents s rest ⟨hub.listeners.erase event, around⟩
      | (.error e, around) => (.error e, ⟨hub.listeners.erase event, around⟩) := by
  simp only [clearEvents, Action.bind_run, Action.modify_run, outside_run]
  rcases s.last event hub.around with ⟨_ | _, _⟩ <;> rfl

end Hub

-- ---------------------------------------------------------------------------
-- Hooks called so far
-- ---------------------------------------------------------------------------

structure HookCall where
  event : String
  /-- Whether it came before a first listener, and not after a last one. -/
  first : Bool
  failed : Bool
deriving DecidableEq

namespace HookCall

/-- Whether a call tells about an event: an attempt to subscribe that failed does not. -/
def counts (event : String) (c : HookCall) : Bool :=
  c.event == event && !(c.first && c.failed)

/-- Calls for one event that tell whether it has listeners. -/
structure Tell (calls : List HookCall) (listened : Prop) : Prop where
  alternate : calls.IsChain fun a b => ¬(a.first = true ∧ b.first = true)
  listened : listened ↔ ∃ c, calls.getLast? = some c ∧ c.first = true

theorem Tell.first (h : Tell calls p) (hp : ¬p) (hc : c.first = true) (hq : q) :
    Tell (calls ++ [c]) q := by
  refine ⟨h.alternate.append (.singleton c) ?_, ?_⟩
  · intro a ha b hb
    rintro ⟨hafirst, -⟩
    exact hp (h.listened.mpr ⟨a, ha, hafirst⟩)
  · simp [hq, hc]

theorem Tell.last (h : Tell calls p) (hc : c.first = false) (hq : ¬q) : Tell (calls ++ [c]) q := by
  refine ⟨h.alternate.append (.singleton c) ?_, ?_⟩
  · intro a _ b hb
    obtain rfl : c = b := by simpa using hb
    simp [hc]
  · simp [hq, hc]

end HookCall

/-- Surroundings with the calls of their hooks. -/
structure Recorded (σ : Type) where
  around : σ
  calls : List HookCall

variable {σ α β : Type}

def Recorded.hook (first : Bool) (event : String) (act : Action σ Unit) :
    Action (Recorded σ) Unit := fun r =>
  let (result, around) := act r.around
  (result, ⟨around, r.calls ++ [⟨event, first, !result.isOk⟩]⟩)

def Surroundings.recorded (s : Surroundings σ) : Surroundings (Recorded σ) where
  first event := Recorded.hook true event (s.first event)
  last event := Recorded.hook false event (s.last event)
  heard listener args r := { r with around := s.heard listener args r.around }
  reaction listener args listeners r := s.reaction listener args listeners r.around

theorem Surroundings.recorded_first (s : Surroundings σ) (event : String) (r : Recorded σ) :
    s.recorded.first event r = match s.first event r.around with
      | (result, around) => (result, ⟨around, r.calls ++ [⟨event, true, !result.isOk⟩]⟩) := rfl

theorem Surroundings.recorded_last (s : Surroundings σ) (event : String) (r : Recorded σ) :
    s.recorded.last event r = match s.last event r.around with
      | (result, around) => (result, ⟨around, r.calls ++ [⟨event, false, !result.isOk⟩]⟩) := rfl

namespace Hub

def plain (hub : Hub (Recorded σ)) : Hub σ := ⟨hub.listeners, hub.around.around⟩

/-- The calls of hooks tell which events have listeners. -/
structure Told (hub : Hub (Recorded σ)) : Prop where
  noneEmpty : hub.listeners.NoneEmpty
  tell : ∀ event, HookCall.Tell (hub.around.calls.filter (HookCall.counts event))
    (hub.listeners.of event ≠ [])

theorem told_empty (around : σ) : Told ⟨.empty, ⟨around, []⟩⟩ where
  noneEmpty := Listeners.noneEmpty_empty
  tell event := ⟨.nil, by simp [Listeners.of, Listeners.empty]⟩

theorem filter_counts_ne (hne : event ≠ c.event) (calls : List HookCall) :
    (calls ++ [c]).filter (HookCall.counts event) = calls.filter (HookCall.counts event) := by
  simp [HookCall.counts, Ne.symm hne]

section
variable {t : Listeners} {r : Recorded σ}

theorem Told.subscribed (h : Told ⟨t, r⟩) (hof : t.of event = []) (listener : String)
    (around : σ) :
    Told ⟨t.insert event listener, ⟨around, r.calls ++ [⟨event, true, false⟩]⟩⟩ := by
  refine ⟨h.noneEmpty.insert event listener, fun other => ?_⟩
  rw [Listeners.of_insert h.noneEmpty]
  by_cases hother : other = event
  · subst hother
    have hcounts : HookCall.counts other ⟨other, true, false⟩ = true := by simp [HookCall.counts]
    rw [if_pos rfl, List.filter_append, List.filter_cons_of_pos hcounts, List.filter_nil]
    exact (h.tell other).first (by simpa using hof) rfl (by simp)
  · rw [filter_counts_ne hother, if_neg hother]
    exact h.tell other

theorem Told.refused (h : Told ⟨t, r⟩) (event : String) (around : σ) :
    Told ⟨t, ⟨around, r.calls ++ [⟨event, true, true⟩]⟩⟩ := by
  refine ⟨h.noneEmpty, fun other => ?_⟩
  have hcounts : HookCall.counts other ⟨event, true, true⟩ = false := by simp [HookCall.counts]
  rw [List.filter_append, List.filter_cons_of_neg (by simp [hcounts]), List.filter_nil,
    List.append_nil]
  exact h.tell other

theorem Told.unsubscribed {t' : Listeners} (h : Told ⟨t, r⟩) (hnone : t'.NoneEmpty)
    (hof : ∀ other, t'.of other = if other = event then [] else t.of other) (around : σ)
    (failed : Bool) : Told ⟨t', ⟨around, r.calls ++ [⟨event, false, failed⟩]⟩⟩ := by
  refine ⟨hnone, fun other => ?_⟩
  rw [hof]
  by_cases hother : other = event
  · subst hother
    have hcounts : HookCall.counts other ⟨other, false, failed⟩ = true := by simp [HookCall.counts]
    rw [if_pos rfl, List.filter_append, List.filter_cons_of_pos hcounts, List.filter_nil]
    exact (h.tell other).last rfl (by simp)
  · rw [filter_counts_ne hother, if_neg hother]
    exact h.tell other

theorem Told.congr {t' : Listeners} (h : Told ⟨t, r⟩) (hnone : t'.NoneEmpty)
    (hof : ∀ other, t'.of other = [] ↔ t.of other = []) : Told ⟨t', r⟩ := by
  refine ⟨hnone, fun other => ?_⟩
  have hsame : (t'.of other ≠ []) = (t.of other ≠ []) := propext (not_congr (hof other))
  rw [hsame]
  exact h.tell other

end

-- ---------------------------------------------------------------------------
-- Recording changes nothing
-- ---------------------------------------------------------------------------

/-- The first action, whose hooks are recorded, does what the second one does. What the calls of
hooks tell before it, they tell after it. -/
structure Faithful (recorded : Action (Hub (Recorded σ)) α) (act : Action (Hub σ) α) : Prop where
  plain : ∀ hub, act hub.plain = ((recorded hub).1, (recorded hub).2.plain)
  told : ∀ hub, hub.Told → (recorded hub).2.Told

namespace Faithful

theorem pure (a : α) : Faithful (σ := σ) (Pure.pure a) (Pure.pure a) :=
  ⟨fun _ => rfl, fun _ h => h⟩

theorem throw (e : Failure) :
    Faithful (σ := σ) (α := α) (MonadExcept.throw e) (MonadExcept.throw e) :=
  ⟨fun _ => rfl, fun _ h => h⟩

theorem bind {x : Action (Hub (Recorded σ)) α} {y : Action (Hub σ) α}
    {f : α → Action (Hub (Recorded σ)) β} {g : α → Action (Hub σ) β}
    (hx : Faithful x y) (hf : ∀ a, Faithful (f a) (g a)) : Faithful (x >>= f) (y >>= g) := by
  constructor
  · intro hub
    have hplain := hx.plain hub
    rw [Action.bind_run, Action.bind_run, hplain]
    rcases x hub with ⟨e | a, next⟩
    · rfl
    · exact (hf a).plain next
  · intro hub htold
    have hnext := hx.told hub htold
    rw [Action.bind_run]
    rcases hrun : x hub with ⟨e | a, next⟩ <;> rw [hrun] at hnext
    · exact hnext
    · exact (hf a).told next hnext

theorem tryCatch {x x' : Action (Hub (Recorded σ)) α} {y y' : Action (Hub σ) α}
    (hx : Faithful x y) (hx' : Faithful x' y') :
    Faithful (MonadExcept.tryCatch x fun _ => x') (MonadExcept.tryCatch y fun _ => y') := by
  constructor
  · intro hub
    have hplain := hx.plain hub
    rw [Action.tryCatch_run, Action.tryCatch_run, hplain]
    rcases x hub with ⟨e | a, next⟩
    · exact hx'.plain next
    · rfl
  · intro hub htold
    have hnext := hx.told hub htold
    rw [Action.tryCatch_run]
    rcases hrun : x hub with ⟨e | a, next⟩ <;> rw [hrun] at hnext
    · exact hx'.told next hnext
    · exact hnext

theorem get {f : Hub (Recorded σ) → Action (Hub (Recorded σ)) α} {g : Hub σ → Action (Hub σ) α}
    (hf : ∀ hub, Faithful (f hub) (g hub.plain)) :
    Faithful (MonadState.get >>= f) (MonadState.get >>= g) :=
  ⟨fun hub => (hf hub).plain hub, fun hub => (hf hub).told hub⟩

theorem heard (s : Surroundings σ) (listener : String) (args : List Argument) :
    Faithful (modify fun hub => { hub with around := s.recorded.heard listener args hub.around })
      (modify fun hub => { hub with around := s.heard listener args hub.around }) :=
  ⟨fun _ => rfl, fun _ h => ⟨h.noneEmpty, h.tell⟩⟩

theorem add (s : Surroundings σ) (event listener : String) :
    Faithful (Hub.add s.recorded event listener) (Hub.add s event listener) := by
  constructor
  · rintro ⟨t, r⟩
    simp only [add_run, Hub.plain, s.recorded_first]
    by_cases hof : t.of event = []
    · simp only [hof, if_true]
      rcases s.first event r.around with ⟨_ | _, _⟩ <;> rfl
    · simp only [hof, if_false]
  · rintro ⟨t, r⟩ h
    simp only [add_run, s.recorded_first]
    by_cases hof : t.of event = []
    · simp only [hof, if_true]
      rcases s.first event r.around with ⟨_ | _, around⟩
      · exact h.refused event around
      · exact h.subscribed hof listener around
    · simp only [hof, if_false]
      refine h.congr (h.noneEmpty.insert event listener) fun other => ?_
      rw [Listeners.of_insert h.noneEmpty]
      split
      · simp_all
      · rfl

theorem remove (s : Surroundings σ) (event listener : String) :
    Faithful (Hub.remove s.recorded event listener) (Hub.remove s event listener) := by
  constructor
  · rintro ⟨t, r⟩
    simp only [remove_run, Hub.plain, s.recorded_last]
    by_cases hin : listener ∈ t.of event
    · by_cases hleft : (t.remove event listener).of event = []
      · simp only [hin, hleft, if_true]
        rcases s.last event r.around with ⟨_, _⟩
        rfl
      · simp only [hin, hleft, if_true, if_false]
    · simp only [hin, if_false]
  · rintro ⟨t, r⟩ h
    simp only [remove_run, s.recorded_last]
    by_cases hin : listener ∈ t.of event
    · have hnone := h.noneEmpty.remove event listener
      have hof := Listeners.of_remove hin
      by_cases hleft : (t.remove event listener).of event = []
      · simp only [hin, hleft, if_true]
        rw [hof, if_pos rfl] at hleft
        exact h.unsubscribed hnone (by simpa [hleft] using hof) _ _
      · simp only [hin, hleft, if_true, if_false]
        refine h.congr hnone fun other => ?_
        by_cases hother : other = event
        · subst hother
          simp [hleft, List.ne_nil_of_mem hin]
        · rw [hof, if_neg hother]
    · simpa only [hin, if_false] using h

theorem clearEvents (s : Surroundings σ) (events : List String) :
    Faithful (Hub.clearEvents s.recorded events) (Hub.clearEvents s events) := by
  induction events with
  | nil => exact pure ()
  | cons event rest ih =>
    constructor
    · rintro ⟨t, r⟩
      simp only [clearEvents_run, Hub.plain, s.recorded_last]
      rcases s.last event r.around with ⟨_ | _, around⟩
      · rfl
      · exact ih.plain ⟨t.erase event, ⟨around, r.calls ++ [⟨event, false, false⟩]⟩⟩
    · rintro ⟨t, r⟩ h
      -- The hook is called when the listeners are gone already: its failure changes nothing.
      have hnext := h.unsubscribed (h.noneEmpty.erase event) (t.of_erase event)
      simp only [clearEvents_run, s.recorded_last]
      rcases s.last event r.around with ⟨_ | _, around⟩
      · exact hnext around true
      · exact ih.told _ (hnext around false)

theorem addGiven (s : Surroundings σ) (event : String) (listener : Option String) :
    Faithful (Hub.addGiven s.recorded event listener) (Hub.addGiven s event listener) := by
  cases listener with
  | none => exact throw _
  | some listener => exact add s event listener

theorem removeGiven (s : Surroundings σ) (event : String) (listener : Option String) :
    Faithful (Hub.removeGiven s.recorded event listener) (Hub.removeGiven s event listener) := by
  cases listener with
  | none => exact pure ()
  | some listener => exact remove s event listener

theorem clear (s : Surroundings σ) (event : Option String) :
    Faithful (Hub.clear s.recorded event) (Hub.clear s event) := by
  cases event with
  | none => exact get fun hub => clearEvents s hub.listeners.events
  | some event => exact clearEvents s [event]

theorem react (s : Surroundings σ) (r : Reaction) :
    Faithful (Hub.react s.recorded r) (Hub.react s r) := by
  induction r with
  | nothing => exact pure ()
  | raise e => exact throw e
  | add event listener => exact add s event listener
  | remove event listener => exact remove s event listener
  | clear event => exact clear s event
  | andThen first second ih ih' => exact bind ih fun _ => ih'
  | orElse first second ih ih' => exact tryCatch ih ih'

theorem call (s : Surroundings σ) (listener : String) (args : List Argument) :
    Faithful (Hub.call s.recorded listener args) (Hub.call s listener args) :=
  bind (heard s listener args) fun _ => get fun _ => react s _

theorem callEach (s : Surroundings σ) (args : List Argument) (listeners : List String) :
    Faithful (Hub.callEach s.recorded args listeners) (Hub.callEach s args listeners) := by
  induction listeners with
  | nil => exact pure ()
  | cons listener rest ih => exact bind (call s listener args) fun _ => ih

theorem emit (s : Surroundings σ) (event : String) (args : List Argument) :
    Faithful (Hub.emit s.recorded event args) (Hub.emit s event args) :=
  get fun hub => bind (callEach s args (hub.listeners.of event)) fun _ => pure _

end Faithful

-- ---------------------------------------------------------------------------
-- Runs
-- ---------------------------------------------------------------------------

inductive Operation where
  | add (event : String) (listener : Option String)
  | remove (event : String) (listener : Option String)
  | clear (event : Option String)
  | emit (event : String) (args : List Argument)

def after (s : Surroundings σ) (hub : Hub σ) : Operation → Hub σ
  | .add event listener => (addGiven s event listener hub).2
  | .remove event listener => (removeGiven s event listener hub).2
  | .clear event => (clear s event hub).2
  | .emit event args => (emit s event args hub).2

theorem plain_after (s : Surroundings σ) (hub : Hub (Recorded σ)) (op : Operation) :
    after s hub.plain op = (after s.recorded hub op).plain := by
  cases op with
  | add event listener => exact congrArg Prod.snd ((Faithful.addGiven s event listener).plain hub)
  | remove event listener =>
    exact congrArg Prod.snd ((Faithful.removeGiven s event listener).plain hub)
  | clear event => exact congrArg Prod.snd ((Faithful.clear s event).plain hub)
  | emit event args => exact congrArg Prod.snd ((Faithful.emit s event args).plain hub)

theorem Told.after {hub : Hub (Recorded σ)} (h : hub.Told) (s : Surroundings σ) (op : Operation) :
    (after s.recorded hub op).Told := by
  cases op with
  | add event listener => exact (Faithful.addGiven s event listener).told hub h
  | remove event listener => exact (Faithful.removeGiven s event listener).told hub h
  | clear event => exact (Faithful.clear s event).told hub h
  | emit event args => exact (Faithful.emit s event args).told hub h

def afterAll (s : Surroundings σ) (hub : Hub σ) (ops : List Operation) : Hub σ :=
  ops.foldl (after s) hub

theorem plain_afterAll (s : Surroundings σ) (hub : Hub (Recorded σ)) (ops : List Operation) :
    afterAll s hub.plain ops = (afterAll s.recorded hub ops).plain := by
  induction ops generalizing hub with
  | nil => rfl
  | cons op ops ih =>
    calc afterAll s hub.plain (op :: ops)
        = afterAll s (Hub.after s hub.plain op) ops := rfl
      _ = afterAll s (Hub.after s.recorded hub op).plain ops := by rw [plain_after]
      _ = (afterAll s.recorded hub (op :: ops)).plain := ih _

theorem Told.afterAll {hub : Hub (Recorded σ)} (h : hub.Told) (s : Surroundings σ)
    (ops : List Operation) : (afterAll s.recorded hub ops).Told := by
  induction ops generalizing hub with
  | nil => exact h
  | cons op ops ih => exact ih (h.after s op)

theorem listeners_of_add_error (h : (addGiven s event listener hub).1 = .error e) :
    (addGiven s event listener hub).2.listeners = hub.listeners := by
  cases listener with
  | none => rfl
  | some listener => ?_
  simp only [addGiven, add_run] at h ⊢
  by_cases hof : hub.listeners.of event = []
  · simp only [hof, if_true] at h ⊢
    rcases hrun : s.first event hub.around with ⟨_ | _, _⟩
    · rfl
    · rw [hrun] at h
      cases h
  · simp only [hof, if_false] at h
    cases h

/-- The hooks called for an event so far, without the failed attempts to subscribe: no two calls
for a first listener follow each other, and the event has listeners exactly if the last call was
for a first one. The hub is the one that the same operations lead to without taking down calls. No
event is there without a listener, and an attempt to subscribe that fails registers nothing. -/
theorem hooks_tell_listeners (s : Surroundings σ) (around : σ) (ops : List Operation)
    (event : String) :
    let hub := afterAll s.recorded ⟨.empty, ⟨around, []⟩⟩ ops
    let calls := hub.around.calls.filter fun c => c.event = event ∧ ¬(c.first ∧ c.failed)
    hub.plain = afterAll s ⟨.empty, around⟩ ops ∧
      (calls.IsChain fun a b => ¬(a.first = true ∧ b.first = true)) ∧
      (hub.listeners.of event ≠ [] ↔ ∃ c, calls.getLast? = some c ∧ c.first = true) ∧
      (∀ entry ∈ hub.listeners.entries, entry.2 ≠ []) ∧
      ∀ listener e, (addGiven s event listener hub.plain).1 = .error e →
        (addGiven s event listener hub.plain).2.listeners = hub.listeners := by
  intro hub calls
  have htold : hub.Told := (told_empty around).afterAll s ops
  have hcalls : calls = hub.around.calls.filter (HookCall.counts event) := by
    refine List.filter_congr fun c _ => ?_
    rw [HookCall.counts, Bool.eq_iff_iff]
    simp
  obtain ⟨halternate, hlistened⟩ := htold.tell event
  rw [← hcalls] at halternate hlistened
  refine ⟨?_, halternate, hlistened, htold.noneEmpty, ?_⟩
  · exact (plain_afterAll s ⟨.empty, ⟨around, []⟩⟩ ops).symm
  · intro listener e h
    exact listeners_of_add_error h

end Hub

end Farcall
