import Farcall.Session.Guard
import Farcall.Session.Reader

/-!
# Running a session

A session runs in rounds. A round does all jobs that are ready when it begins; jobs that become ready
meanwhile belong to the next one. Alarms go off between rounds.
-/

namespace Farcall.Session

/-- Ends the closing of a session: whatever is still pending fails. -/
def endClosing (s : Session) (f : Option LinkFailure) : Session :=
  { s.failPending .sessionClosed with closing := .finished (f.map LinkFailure.failure) }

def finishClosing (s : Session) (held : Option Nat) : Session :=
  match held with
  | none => s.endClosing none
  | some c =>
    let s := s.note (.hungUp c)
    match s.network.closing with
    | some f => s.endClosing (some f)
    | none => if s.network.stalls then { s with closing := .hangingUp .pending } else s.endClosing none

def logReader (s : Session) : Session :=
  s.logError ("Socket receive loop for " ++ Address.socket s.address ++ " failed")

/-- Goes on with closing once the reader has ended or the connection is hung up. -/
def stepClosing (s : Session) : Session :=
  match s.closing with
  | .waiting r held =>
    match (s.connection r).reader with
    | .finished (some _) => s.logReader.finishClosing held
    | _ => s.finishClosing held
  | .hangingUp (.kept f) => s.endClosing f
  | _ => s

/-- Closes a session, once: new calls are refused from now on. The reader is stopped first; only when
it has ended is the connection hung up. -/
def close (s : Session) : Session :=
  if s.closed then s
  else
    let reader := s.reader
    let held := s.socket
    let s := { s with closed := true, httpOpen := false, reader := none, socket := none }
    match reader with
    | none => s.finishClosing held
    | some c =>
      match (s.connection c).reader with
      | .finished (some _) => s.logReader.finishClosing held
      | .finished none => s.finishClosing held
      | _ => ({ s with closing := .waiting c held }).cancelReader c

def reportCall (s : Session) (k : Nat) : Session :=
  let call := s.call k
  match call.callback, call.outcome? with
  | some cb, some o => s.note (.reported call.request.method cb o)
  | _, _ => s

def perform (s : Session) : Job → Session
  | .guard k => s.stepGuard k
  | .carrier k => s.stepCarrier k
  | .release k => s.releaseGuard k
  | .alarm k => s.ringAlarm k
  | .report k => s.reportCall k
  | .reader c => s.stepReader c
  | .closing => s.stepClosing
  | .deliver event data => s.note (.delivered event data)

def isOver (s : Session) (k : Nat) : Bool :=
  (s.call k).outcome?.isSome

def tick : Double := Double.ofRatio false 1 (Nat.pow 10 9)

/-- Begins the next round: the jobs that became ready, and after them the alarms that are due. -/
def beginRound (s : Session) : Session :=
  let alarms := Alarms.prune s.isOver s.alarms s.alarms.size
  let (due, alarms) := Alarms.due (s.clock.add tick) alarms alarms.size
  { s with alarms, jobs := s.upcoming ++ due.map .alarm, upcoming := [] }

def takeJob (s : Session) : Option (Job × Session) :=
  match s.jobs with
  | j :: rest => some (j, { s with jobs := rest })
  | [] => none

/-- The next job, in a new round if this one is over, and what is left; none if there is nothing to
do. -/
def next (s : Session) : Option (Job × Session) :=
  s.takeJob.or s.beginRound.takeJob

/-- The next job is done; none if there is nothing to do. -/
def step (s : Session) : Option Session :=
  s.next.map fun (j, s) => s.perform j

/-- What a session is left with when there is nothing to do. -/
def idle (s : Session) : Session :=
  s.beginRound

/-- Begins a call; its index is the number of calls before it. -/
def begin (s : Session) (r : Request) (callback : Option Value) : Session :=
  let k := s.calls.length
  ({ s with calls := s.calls ++ [Call.made r callback] }).enqueue
    (.guard k)

/-- Answers a request; says whether it was still waited for, and nothing if there is no such
request. -/
def reply (s : Session) (r : Nat) (a : Answer) : Session × Option Bool :=
  match s.requests[r]? with
  | none => (s, none)
  | some k =>
    match (s.call k).carrier with
    | .posting r' .pending =>
      if r' = r then (s.wakeCarrier k (.posting r (.kept a)), some true) else (s, some false)
    | _ => (s, some false)

/-- Ends a hanging attempt to connect; says whether it was still waited for, and nothing if there is
no such attempt. -/
def settle (s : Session) (a : Nat) (f : Option LinkFailure) : Session × Option Bool :=
  match s.attempts[a]? with
  | none => (s, none)
  | some k =>
    match (s.call k).carrier with
    | .connecting a' .pending =>
      if a' = a then (s.wakeCarrier k (.connecting a (.kept f)), some true) else (s, some false)
    | _ => (s, some false)

def flush (s : Session) (k : Nat) (f : Option LinkFailure) : Session :=
  match (s.call k).carrier with
  | .sending .pending => s.wakeCarrier k (.sending (.kept f))
  | _ => s

def endHangUp (s : Session) (f : Option LinkFailure) : Session :=
  match s.closing with
  | .hangingUp .pending => ({ s with closing := .hangingUp (.kept f) }).enqueue .closing
  | _ => s

/-- A frame arrives; after the end of a connection nothing does. -/
def arrive (s : Session) (c : Nat) (f : Frame) : Session :=
  match (s.connection c).ended with
  | some _ => s
  | none => (s.updateConnection c fun x => { x with inbox := x.inbox ++ [f] }).wakeReader c

def drop (s : Session) (c : Nat) (f : Option LinkFailure) : Session :=
  match (s.connection c).ended with
  | some _ => s
  | none => (s.updateConnection c fun x => { x with ended := some f }).wakeReader c

def advance (s : Session) (seconds : Double) : Session :=
  { s with clock := s.clock.add seconds }

end Farcall.Session
