import Farcall.Number.Double

/-!
# Alarms

The timeouts of calls that are under way, as a binary heap ordered by time. Alarms of the same time
go off in the order in which the heap gives them up, which is not the order in which they were
set.
-/

namespace Farcall

structure Alarm where
  time : Double
  call : Nat
deriving Inhabited

abbrev Alarms := Array Alarm

namespace Alarms

def earlier (a b : Alarm) : Bool :=
  a.time.lt b.time

/-- Moves the alarm `a`, which belongs at `pos` or above, up to its place. -/
def rise (h : Alarms) (a : Alarm) (pos : Nat) : Alarms :=
  if hp : pos = 0 then h.setIfInBounds 0 a
  else
    let parent := (pos - 1) / 2
    if earlier a (h.getD parent default) then
      rise (h.setIfInBounds pos (h.getD parent default)) a parent
    else h.setIfInBounds pos a
termination_by pos
decreasing_by omega

def insert (h : Alarms) (a : Alarm) : Alarms :=
  rise (h.push a) a h.size

/-- The child of `pos` that goes off first; of two of the same time it is the right one. -/
def firstChild (h : Alarms) (pos : Nat) : Nat :=
  let left := 2 * pos + 1
  let right := left + 1
  if right < h.size && !earlier (h.getD left default) (h.getD right default) then right else left

/-- Fills the gap at `pos` from below and puts the alarm `a` where the gap ends up. The last
argument bounds the number of levels. -/
def sink (h : Alarms) (a : Alarm) (pos : Nat) : Nat → Alarms
  | 0 => rise h a pos
  | levels + 1 =>
    if 2 * pos + 1 < h.size then
      let child := firstChild h pos
      sink (h.setIfInBounds pos (h.getD child default)) a child levels
    else rise h a pos

def pop? (h : Alarms) : Option (Alarm × Alarms) :=
  if h.size = 0 then none
  else
    let last := h.getD (h.size - 1) default
    let rest := h.pop
    if rest.size = 0 then some (last, rest)
    else some (h.getD 0 default, sink rest last 0 rest.size)

/-- Drops alarms from the front as long as they concern calls that `done` holds for. The last
argument bounds their number. -/
def prune (done : Nat → Bool) (h : Alarms) : Nat → Alarms
  | 0 => h
  | n + 1 =>
    match pop? h with
    | some (a, rest) => if done a.call then prune done rest n else h
    | none => h

/-- The calls whose alarms go off before `time`, in order, and the alarms that stay. The last
argument bounds their number. -/
def due (time : Double) (h : Alarms) : Nat → List Nat × Alarms
  | 0 => ([], h)
  | n + 1 =>
    match pop? h with
    | some (a, rest) =>
      if a.time.lt time then
        let (calls, rest) := due time rest n
        (a.call :: calls, rest)
      else ([], h)
    | none => ([], h)

end Alarms

end Farcall
