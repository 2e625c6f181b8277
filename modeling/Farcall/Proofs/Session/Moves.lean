import Farcall.Session.Run

/-!
# Runs of a session

A session is moved by whoever uses it, by the network and by the clock, at any time and in any
order; between such moves it does the jobs that are ready, the first one first. A run remembers the
frames that were handled on the way.
-/

namespace Farcall

def Reader.isFinished : Reader → Bool
  | .finished _ => true
  | _ => false

namespace Session

/-- A move of a session. -/
inductive Move where
  /-- A call is made. -/
  | begin (r : Request) (callback : Option Value)
  | cancel (call : Nat)
  | close
  /-- The next job is done. -/
  | work
  | reply (request : Nat) (a : Answer)
  | settle (attempt : Nat) (f : Option LinkFailure)
  | flush (call : Nat) (f : Option LinkFailure)
  | endHangUp (f : Option LinkFailure)
  | arrive (connection : Nat) (f : Frame)
  | drop (connection : Nat) (f : Option LinkFailure)
  | advance (seconds : Double)
  /-- The network behaves differently from now on. -/
  | network (n : Network)
  /-- A notification arrives that is for listeners. -/
  | deliver (event : String) (data : Value)
  /-- What has happened is looked at. -/
  | observe

def after (s : Session) : Move → Session
  | .begin r callback => s.begin r callback
  | .cancel k => (s.cancel k).1
  | .close => s.close
  | .work => s.step.getD s.idle
  | .reply r a => (s.reply r a).1
  | .settle a f => (s.settle a f).1
  | .flush k f => s.flush k f
  | .endHangUp f => s.endHangUp f
  | .arrive c f => s.arrive c f
  | .drop c f => s.drop c f
  | .advance seconds => s.advance seconds
  | .network n => { s with network := n }
  | .deliver event data => s.enqueue (.deliver event data)
  | .observe => { s with traces := [] }

def afterAll (s : Session) (ms : List Move) : Session := ms.foldl after s

-- ---------------------------------------------------------------------------
-- Frames
-- ---------------------------------------------------------------------------

/-- A frame with the session that is about to handle it. -/
structure Handling where
  before : Session
  frame : Frame

def handlings (s : Session) : List Frame → List Handling
  | [] => []
  | f :: fs => ⟨s, f⟩ :: (s.handle f).handlings fs

/-- The session in which the reader of a connection has taken the frames that are there. -/
def emptied (s : Session) (c : Nat) : Session :=
  s.updateConnection c fun x => { x with inbox := [], reader := .waiting }

/-- The session in which the reader of a connection has handled the frames that are there. -/
def drained (s : Session) (c : Nat) : Session :=
  (s.connection c).inbox.foldl handle (s.emptied c)

def hasEnded (s : Session) (c : Nat) : Bool :=
  (s.connection c).reader.isFinished

def readings (s : Session) (c : Nat) : List Handling :=
  if s.hasEnded c || (s.connection c).readerCancelled then []
  else (s.emptied c).handlings (s.connection c).inbox

def handledBy (s : Session) : Job → List Handling
  | .reader c => s.readings c
  | _ => []

/-- The frames that are handled in a move. -/
def handledIn (s : Session) : Move → List Handling
  | .work =>
    match s.next with
    | some (j, s) => s.handledBy j
    | none => []
  | _ => []

/-- A run of a new session, with the frames handled in it and the session it has led to. -/
inductive Run : List Handling → Session → Prop
  | new (address : String) (customEncryption : Bool) (timeout : Value) (notices : Notices) :
    Run [] (new address customEncryption timeout notices)
  | move (h : Run handled s) (m : Move) : Run (handled ++ s.handledIn m) (s.after m)

theorem Run.moves (h : Run handled s) (ms : List Move) :
    ∃ more, Run (handled ++ more) (s.afterAll ms) := by
  induction ms generalizing handled s with
  | nil => exact ⟨[], by simpa [afterAll] using h⟩
  | cons m ms ih =>
    obtain ⟨more, hmore⟩ := ih (h.move m)
    exact ⟨s.handledIn m ++ more, by simpa [afterAll] using hmore⟩

-- ---------------------------------------------------------------------------
-- Histories
-- ---------------------------------------------------------------------------

def shownIn (s : Session) : Move → List Trace
  | .observe => s.traces
  | _ => []

/-- A run of a new session, with all that was looked at in it. What was looked at and what was not yet
are together all that has happened. -/
inductive History : List Trace → Session → Prop
  | new (address : String) (customEncryption : Bool) (timeout : Value) (notices : Notices) :
    History [] (new address customEncryption timeout notices)
  | move (h : History past s) (m : Move) : History (past ++ s.shownIn m) (s.after m)

theorem History.run (h : History past s) : ∃ handled, Run handled s := by
  induction h with
  | new address customEncryption timeout notices => exact ⟨[], .new ..⟩
  | move _ m ih =>
    obtain ⟨handled, hrun⟩ := ih
    exact ⟨_, hrun.move m⟩

def shownInAll (s : Session) : List Move → List Trace
  | [] => []
  | m :: ms => s.shownIn m ++ (s.after m).shownInAll ms

theorem History.moves (h : History past s) (ms : List Move) :
    History (past ++ s.shownInAll ms) (s.afterAll ms) := by
  induction ms generalizing past s with
  | nil => simpa [shownInAll, afterAll] using h
  | cons m ms ih => simpa [shownInAll, afterAll] using ih (h.move m)

-- ---------------------------------------------------------------------------
-- The next job
-- ---------------------------------------------------------------------------

variable {s t : Session}

theorem takeJob_eq (h : s.takeJob = some (j, t)) : ∃ rest, t = { s with jobs := rest } := by
  unfold takeJob at h
  split at h
  · cases h
    exact ⟨_, rfl⟩
  · cases h

theorem next_eq (h : s.next = some (j, t)) : ∃ jobs upcoming alarms,
    t = { s with jobs := jobs, upcoming := upcoming, alarms := alarms } := by
  rcases Option.or_eq_some_iff.mp h with h | ⟨-, h⟩
  · obtain ⟨rest, rfl⟩ := takeJob_eq h
    exact ⟨rest, s.upcoming, s.alarms, rfl⟩
  · obtain ⟨rest, rfl⟩ := takeJob_eq h
    exact ⟨rest, _, _, rfl⟩

theorem jobs_of_next_eq_none (h : s.next = none) : s.jobs = [] := by
  have hnone := (Option.or_eq_none_iff.mp h).1
  unfold takeJob at hnone
  split at hnone
  · cases hnone
  · assumption

end Session

end Farcall
