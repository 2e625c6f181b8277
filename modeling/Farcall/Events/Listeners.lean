/-!
# Listeners by event

The listeners registered for events, events in the order of their first listener and the listeners
of an event in the order of registration. An event is there only while it has a listener.
-/

namespace Farcall

/-- The registered listeners; a listener is known by its name. -/
structure Listeners where
  entries : List (String × List String)
deriving Inhabited, DecidableEq

namespace Listeners

def empty : Listeners := ⟨[]⟩

def of (t : Listeners) (event : String) : List String :=
  (t.entries.lookup event).getD []

def events (t : Listeners) : List String :=
  t.entries.map Prod.fst

def insert (t : Listeners) (event listener : String) : Listeners :=
  if (t.of event).isEmpty then ⟨t.entries ++ [(event, [listener])]⟩
  else ⟨t.entries.map fun e => if e.1 = event then (e.1, e.2 ++ [listener]) else e⟩

def erase (t : Listeners) (event : String) : Listeners :=
  ⟨t.entries.filter fun e => e.1 ≠ event⟩

def remove (t : Listeners) (event listener : String) : Listeners :=
  let left := (t.of event).erase listener
  if left.isEmpty then t.erase event
  else ⟨t.entries.map fun e => if e.1 = event then (e.1, left) else e⟩

end Listeners

end Farcall
