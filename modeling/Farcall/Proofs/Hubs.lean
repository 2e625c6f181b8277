import Farcall.Proofs.Subscriptions

/-!
# What stays true of a hub

Whatever listeners do, in the end events get and lose listeners one after the other, and hooks are
called. What each of these steps leaves true, everything leaves true that a hub can be asked for.
-/

namespace Farcall

theorem Listeners.remove_eq_erase {t : Listeners} (h : listener ∈ t.of event)
    (hof : (t.remove event listener).of event = []) :
    t.remove event listener = t.erase event := by
  rw [Listeners.of_remove h, if_pos rfl] at hof
  simp [Listeners.remove, hof]

namespace Hub

variable {σ α β : Type} {s : Surroundings σ} {P : Hub σ → Prop}

/-- What stays true when an event gets or loses a listener. -/
structure Stable (s : Surroundings σ) (P : Hub σ → Prop) : Prop where
  /-- An event gets its first listener, unless the hook fails. -/
  first : ∀ hub event, P hub → hub.listeners.of event = [] →
    match s.first event hub.around with
    | (.ok _, around) => ∀ listener, P ⟨hub.listeners.insert event listener, around⟩
    | (.error _, around) => P ⟨hub.listeners, around⟩
  more : ∀ hub event listener, P hub → hub.listeners.of event ≠ [] →
    P ⟨hub.listeners.insert event listener, hub.around⟩
  fewer : ∀ hub event listener, P hub → listener ∈ hub.listeners.of event →
    (hub.listeners.remove event listener).of event ≠ [] →
    P ⟨hub.listeners.remove event listener, hub.around⟩
  /-- The listeners of an event are gone when the hook is called, whether or not it fails. -/
  last : ∀ hub event, P hub → P ⟨hub.listeners.erase event, (s.last event hub.around).2⟩

/-- An action after which something is true if it was before. -/
def Keeps (P : Hub σ → Prop) (act : Action (Hub σ) α) : Prop :=
  ∀ hub, P hub → P (act hub).2

namespace Keeps

theorem pure (a : α) : Keeps P (Pure.pure a) := fun _ h => h

theorem throw (e : Failure) : Keeps (α := α) P (MonadExcept.throw e) := fun _ h => h

theorem bind {act : Action (Hub σ) α} {f : α → Action (Hub σ) β} (h : Keeps P act)
    (hf : ∀ a, Keeps P (f a)) : Keeps P (act >>= f) := by
  intro hub hP
  have hfirst := h hub hP
  rw [Action.bind_run]
  rcases hrun : act hub with ⟨_ | a, next⟩ <;> rw [hrun] at hfirst
  · exact hfirst
  · exact hf a next hfirst

theorem tryCatch {act act' : Action (Hub σ) α} (h : Keeps P act) (h' : Keeps P act') :
    Keeps P (MonadExcept.tryCatch act fun _ => act') := by
  intro hub hP
  have hfirst := h hub hP
  rw [Action.tryCatch_run]
  rcases hrun : act hub with ⟨_ | a, next⟩ <;> rw [hrun] at hfirst
  · exact h' next hfirst
  · exact hfirst

theorem get {f : Hub σ → Action (Hub σ) α} (h : ∀ hub, Keeps P (f hub)) :
    Keeps P (MonadState.get >>= f) :=
  fun hub hP => h hub hub hP

end Keeps

namespace Stable

theorem add (h : Stable s P) (event listener : String) : Keeps P (Hub.add s event listener) := by
  intro hub hP
  rw [add_run]
  split
  · rename_i hof
    have hfirst := h.first hub event hP hof
    rcases hrun : s.first event hub.around with ⟨_ | _, around⟩ <;> rw [hrun] at hfirst
    · exact hfirst
    · exact hfirst listener
  · exact h.more hub event listener hP ‹_›

theorem remove (h : Stable s P) (event listener : String) :
    Keeps P (Hub.remove s event listener) := by
  intro hub hP
  rw [remove_run]
  split
  · rename_i hin
    split
    · rename_i hof
      rw [Listeners.remove_eq_erase hin hof]
      exact h.last hub event hP
    · exact h.fewer hub event listener hP hin ‹_›
  · exact hP

theorem clearEvents (h : Stable s P) (events : List String) :
    Keeps P (Hub.clearEvents s events) := by
  induction events with
  | nil => exact Keeps.pure ()
  | cons event rest ih =>
    intro hub hP
    have hlast := h.last hub event hP
    rw [clearEvents_run]
    rcases hrun : s.last event hub.around with ⟨_ | _, around⟩ <;> rw [hrun] at hlast
    · exact hlast
    · exact ih _ hlast

theorem clear (h : Stable s P) (event : Option String) : Keeps P (Hub.clear s event) := by
  cases event with
  | none => exact Keeps.get fun hub => h.clearEvents hub.listeners.events
  | some event => exact h.clearEvents [event]

theorem react (h : Stable s P) (r : Reaction) : Keeps P (Hub.react s r) := by
  induction r with
  | nothing => exact Keeps.pure ()
  | raise e => exact Keeps.throw e
  | add event listener => exact h.add event listener
  | remove event listener => exact h.remove event listener
  | clear event => exact h.clear event
  | andThen first second ih ih' => exact ih.bind fun _ => ih'
  | orElse first second ih ih' => exact ih.tryCatch ih'

section

variable (hheard : ∀ hub name args, P hub → P ⟨hub.listeners, s.heard name args hub.around⟩)

include hheard

theorem call (h : Stable s P) (name : String) (args : List Argument) :
    Keeps P (Hub.call s name args) := by
  have hnoted : Keeps P (modify fun hub => { hub with around := s.heard name args hub.around }) :=
    fun hub hP => hheard hub name args hP
  exact hnoted.bind fun _ => Keeps.get fun _ => h.react _

theorem callEach (h : Stable s P) (args : List Argument) (names : List String) :
    Keeps P (Hub.callEach s args names) := by
  induction names with
  | nil => exact Keeps.pure ()
  | cons name rest ih => exact (h.call hheard name args).bind fun _ => ih

theorem emit (h : Stable s P) (event : String) (args : List Argument) :
    Keeps P (Hub.emit s event args) :=
  Keeps.get fun hub => (h.callEach hheard args (hub.listeners.of event)).bind fun _ => Keeps.pure _

theorem after (h : Stable s P) (hP : P hub) (op : Operation) : P (Hub.after s hub op) := by
  cases op with
  | add event listener =>
    cases listener with
    | none => exact hP
    | some listener => exact h.add event listener hub hP
  | remove event listener =>
    cases listener with
    | none => exact hP
    | some listener => exact h.remove event listener hub hP
  | clear event => exact h.clear event hub hP
  | emit event args => exact h.emit hheard event args hub hP

end

end Stable

end Hub

end Farcall
