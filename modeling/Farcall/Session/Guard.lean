import Farcall.Session.Carrier

/-!
# Guards

How the time of a call is limited. A guard numbers its call, starts the carrier and sets an alarm. When the
alarm goes off first, or the call is cancelled, the guard stops the carrier and waits until it has
ended.
-/

namespace Farcall.Session

inductive Limit where
  /-- No time at all. -/
  | none
  | until (time : Double)
  /-- The timeout is no number, or too large a one. -/
  | bad (f : Fault)

def limit (s : Session) : Limit :=
  match s.timeout.numeric? with
  | .none => .bad .wrongKind
  | some (.int n) =>
    if n ≤ 0 then .none
    else
      let x := Double.ofInt n
      if x.isInfinite then .bad .overflow else .until (s.clock.add x)
  | some (.float x) =>
    if x.lt (Double.ofInt 0) || x.same (Double.ofInt 0) then .none else .until (s.clock.add x)

def stop (s : Session) (k : Nat) (timedOut : Bool) : Session :=
  (s.setGuard k (.stopping timedOut .pending)).cancelCarrier k

def startCarrier (s : Session) (k : Nat) : Session :=
  s.wakeCarrier k .fresh

/-- Gives a call the next number; from now on its guard waits. -/
def number (s : Session) (k : Nat) : Session :=
  { s.updateCall k fun c => { c with id := some s.nextId, guard := .waiting .pending } with
    nextId := s.nextId + 1 }

/-- Starts a call: it gets the next number, and its carrier is on its way until the alarm. -/
def startCall (s : Session) (k : Nat) : Session :=
  if s.closed then s.finishGuard k (.failed (.transport .sessionClosed))
  else if (s.call k).request.params.members?.isNone then
    s.finishGuard k (.failed (.fault .notIterable))
  else
    let s := s.number k
    match s.limit with
    | .bad f => s.finishGuard k (.failed (.fault f))
    | .none => (s.startCarrier k).stop k true
    | .until time => ({ s with alarms := Alarms.insert s.alarms ⟨time, k⟩ }).startCarrier k

def timeOut (s : Session) (k : Nat) : Session :=
  let call := s.call k
  (s.forget (call.id.getD 0)).finishGuard k
    (.failed (.transport (.timedOut call.request.method)))

def stepGuard (s : Session) (k : Nat) : Session :=
  let call := s.call k
  let s := s.updateCall k fun c => { c with guardCancelled := false }
  match call.guard with
  | .fresh => if call.guardCancelled then s.finishGuard k .cancelled else s.startCall k
  | .waiting signal =>
    match call.carrier with
    | .finished o => s.finishGuard k o
    | _ => s.stop k (!(call.guardCancelled || signal.isWithdrawn))
  | .stopping timedOut signal =>
    if call.guardCancelled || signal.isWithdrawn || !timedOut then s.finishGuard k .cancelled
    else
      match call.carrier with
      | .finished .cancelled => s.timeOut k
      | .finished o => s.finishGuard k o
      | _ => s.timeOut k
  | .finished _ => s

def releaseGuard (s : Session) (k : Nat) : Session :=
  match (s.call k).guard with
  | .waiting .pending => s.wakeGuard k (.waiting (.kept ()))
  | .stopping t .pending => s.wakeGuard k (.stopping t (.kept ()))
  | _ => s

/-- Tells a guard that time is up; once it has been told anything it does not listen any more. -/
def ringAlarm (s : Session) (k : Nat) : Session :=
  match (s.call k).guard with
  | .waiting .pending => s.wakeGuard k (.waiting (.kept ()))
  | _ => s

/-- Asks for the end of a call; says whether it was still under way. -/
def cancel (s : Session) (k : Nat) : Session × Bool :=
  match (s.call k).guard with
  | .finished _ => (s, false)
  | .waiting .pending => (s.wakeGuard k (.waiting .withdrawn), true)
  | .stopping t .pending => (s.wakeGuard k (.stopping t .withdrawn), true)
  | _ => (s.updateCall k fun c => { c with guardCancelled := true }, true)

end Farcall.Session
