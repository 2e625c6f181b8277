import Farcall.Events.Listeners
import Farcall.Failure

/-!
# Hubs

A hub keeps the listeners of events and tells its surroundings when an event gets its first
listener and when it loses its last one. Listeners are called by `emit`; they may raise, and they
may register and remove listeners themselves. A call goes to the listeners that were registered
when it began.
-/

namespace Farcall

/-- What a listener does once it is called. -/
inductive Reaction where
  | nothing
  | raise (e : Failure)
  | add (event listener : String)
  | remove (event listener : String)
  | clear (event : Option String)
  /-- One after the other, unless the first fails. -/
  | andThen (first second : Reaction)
  /-- The second only if the first fails, which is forgotten then. -/
  | orElse (first second : Reaction)
deriving Inhabited

namespace Reaction

def splitColon (s : String) : String × String :=
  (String.ofList (s.toList.takeWhile (· != ':')),
    String.ofList ((s.toList.dropWhile (· != ':')).drop 1))

def ofName (name : String) : Reaction :=
  let (verb, rest) := splitColon name
  if !name.contains ':' then .nothing
  else if verb == "raise" then .raise (.runtime rest)
  else if verb == "add" then .add (splitColon rest).1 (splitColon rest).2
  else if verb == "remove" then .remove (splitColon rest).1 (splitColon rest).2
  else if verb == "clear" then .clear (if rest.isEmpty then none else some rest)
  else .nothing

end Reaction

/-- What a listener is called with: a value, or the error of a call. -/
inductive Argument where
  | value (v : Value)
  | error (e : Failure)

/-- An action on a state that may fail; what was done before a failure stays done. -/
abbrev Action (σ α : Type) := ExceptT Failure (StateM σ) α

/-- The surroundings of a hub: what happens in them at the transitions between no listener and
some, and when a listener is called, and what listeners do. -/
structure Surroundings (σ : Type) where
  /-- Runs before the first listener of an event is stored; a failure keeps it out. -/
  first : String → Action σ Unit
  /-- Runs after the last listener of an event is gone. -/
  last : String → Action σ Unit
  /-- Notes that a listener is called. -/
  heard : String → List Argument → σ → σ
  /-- What a listener does when it is called, as things stand then. -/
  reaction : String → List Argument → Listeners → σ → Reaction := fun name _ _ _ => .ofName name

/-- A hub within its surroundings. -/
structure Hub (σ : Type) where
  listeners : Listeners
  around : σ
deriving Inhabited

namespace Hub

variable {σ : Type}

def outside {α : Type} (act : Action σ α) : Action (Hub σ) α := fun hub =>
  let (r, around) := act hub.around
  (r, { hub with around })

def add (s : Surroundings σ) (event listener : String) : Action (Hub σ) Unit := do
  if ((← get).listeners.of event).isEmpty then
    outside (s.first event)
  modify fun hub => { hub with listeners := hub.listeners.insert event listener }

def remove (s : Surroundings σ) (event listener : String) : Action (Hub σ) Unit := do
  if listener ∈ (← get).listeners.of event then
    modify fun hub => { hub with listeners := hub.listeners.remove event listener }
    if ((← get).listeners.of event).isEmpty then
      outside (s.last event)

/-- Registers what is given as a listener: the name of a callable, or none for what is no callable. -/
def addGiven (s : Surroundings σ) (event : String) : Option String → Action (Hub σ) Unit
  | some listener => add s event listener
  | none => throw (.usage .listenerNotCallable)

/-- What is no callable is never among the listeners. -/
def removeGiven (s : Surroundings σ) (event : String) : Option String → Action (Hub σ) Unit
  | some listener => remove s event listener
  | none => pure ()

def clearEvents (s : Surroundings σ) : List String → Action (Hub σ) Unit
  | [] => pure ()
  | event :: rest => do
    modify fun hub => { hub with listeners := hub.listeners.erase event }
    outside (s.last event)
    clearEvents s rest

/-- Drops the listeners of one event, whether or not it has any, or of all events that have. -/
def clear (s : Surroundings σ) (event : Option String) : Action (Hub σ) Unit := do
  match event with
  | some e => clearEvents s [e]
  | none => clearEvents s (← get).listeners.events

def react (s : Surroundings σ) : Reaction → Action (Hub σ) Unit
  | .nothing => pure ()
  | .raise e => throw e
  | .add event listener => add s event listener
  | .remove event listener => remove s event listener
  | .clear event => clear s event
  | .andThen first second => do
    react s first
    react s second
  | .orElse first second => tryCatch (react s first) fun _ => react s second

def call (s : Surroundings σ) (listener : String) (args : List Argument) : Action (Hub σ) Unit := do
  modify fun hub => { hub with around := s.heard listener args hub.around }
  let hub ← get
  react s (s.reaction listener args hub.listeners hub.around)

def callEach (s : Surroundings σ) (args : List Argument) : List String → Action (Hub σ) Unit
  | [] => pure ()
  | listener :: rest => do
    call s listener args
    callEach s args rest

/-- Calls the listeners of an event; says whether there were any. -/
def emit (s : Surroundings σ) (event : String) (args : List Argument) : Action (Hub σ) Bool := do
  let listeners := (← get).listeners.of event
  callEach s args listeners
  return !listeners.isEmpty

end Hub

end Farcall
