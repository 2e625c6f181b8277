import Farcall.Session.Address
import Farcall.Session.Alarm
import Farcall.Session.Network

/-!
# Sessions

A session carries calls to a service over requests and over one socket. Work is done in jobs that
run one after the other in the order in which they became ready. A call is carried by two of them:
the guard, which limits the time the call may take, and the carrier, which sends it and waits for
the response. Whoever waits for something is a promise away from it.
-/

namespace Farcall

inductive Transport where
  | http
  | socket
deriving DecidableEq, Inhabited

def Transport.label : Transport → String
  | .http => "http"
  | .socket => "socket"

structure Request where
  method : String
  params : Value
  expectReturn : Bool
  transport : Transport
deriving Inhabited

inductive Outcome where
  | value (v : Value)
  | failed (e : Failure)
  | cancelled
deriving Inhabited

inductive Promise (α : Type) where
  | pending
  | kept (a : α)
  | withdrawn
deriving Inhabited

namespace Promise

def isPending {α : Type} : Promise α → Bool
  | .pending => true
  | _ => false

def isWithdrawn {α : Type} : Promise α → Bool
  | .withdrawn => true
  | _ => false

end Promise

/-- Where the guard of a call stands. -/
inductive Guard where
  | fresh
  /-- It waits for the carrier or the alarm, whichever comes first. -/
  | waiting (signal : Promise Unit)
  /-- It has stopped the carrier, because of the alarm or of a cancellation, and waits for its
  end. -/
  | stopping (timedOut : Bool) (signal : Promise Unit)
  | finished (o : Outcome)
deriving Inhabited

/-- Where the carrier of a call stands. -/
inductive Carrier where
  | absent
  | fresh
  /-- It waits for its turn to use the socket. -/
  | queueing (turn : Promise Unit)
  | connecting (attempt : Nat) (result : Promise (Option LinkFailure))
  | posting (request : Nat) (answer : Promise Answer)
  /-- It waits until its frame has been sent. -/
  | sending (sent : Promise (Option LinkFailure))
  /-- It waits for the response. -/
  | awaiting
  | finished (o : Outcome)
deriving Inhabited

structure Call where
  request : Request
  /-- Who is told about the end. -/
  callback : Option Value
  /-- The number that connects a response with the call, once it has one. -/
  id : Option Nat
  /-- The connection that its frame is sent over, once it is. -/
  link : Option Nat
  /-- The response over the socket, from when it is noted as pending. -/
  response : Option (Promise (Except Failure Value))
  guard : Guard
  guardCancelled : Bool
  carrier : Carrier
  carrierCancelled : Bool
deriving Inhabited

namespace Call

def made (request : Request) (callback : Option Value) : Call where
  request := request
  callback := callback
  id := none
  link := none
  response := none
  guard := .fresh
  guardCancelled := false
  carrier := .absent
  carrierCancelled := false

def outcome? (c : Call) : Option Outcome :=
  match c.guard with
  | .finished o => some o
  | _ => none

end Call

inductive Reader where
  | fresh
  | waiting
  /-- It is ready to go on. -/
  | woken
  /-- It has ended, perhaps by a failure nobody has seen. -/
  | finished (failure : Option Failure)
deriving Inhabited

structure Connection where
  /-- The frames that are not handled yet. -/
  inbox : List Frame
  /-- Set once the other side is gone, with the failure it left by. -/
  ended : Option (Option LinkFailure)
  reader : Reader
  readerCancelled : Bool
deriving Inhabited

def Connection.opened : Connection := ⟨[], none, .fresh, false⟩

/-- A job that is ready to run. -/
inductive Job where
  | guard (call : Nat)
  | carrier (call : Nat)
  /-- Tells the guard that the carrier has ended. -/
  | release (call : Nat)
  /-- Tells the guard that time is up. -/
  | alarm (call : Nat)
  | report (call : Nat)
  | reader (connection : Nat)
  /-- Goes on with closing the session. -/
  | closing
  /-- Hands a notification to the listeners of its event. -/
  | deliver (event : String) (data : Value)
deriving Inhabited

inductive Notices where
  | ignored
  | recorded
  /-- They are recorded, and then their handler raises. -/
  | raising
  /-- They are handed to listeners, each in a job of its own. -/
  | delivered
deriving DecidableEq, Inhabited

/-- What a session does that others can see. -/
inductive Trace where
  | posted (request : Nat) (address body : String)
  | connecting (attempt : Nat) (address : String) (encrypted : Bool)
  | sent (connection : Nat) (text : String)
  | hungUp (connection : Nat)
  | notified (message : Value)
  | delivered (event : String) (data : Value)
  | logged (text : String)
  | reported (method : String) (callback : Value) (o : Outcome)

inductive Closing where
  | none
  /-- It waits for the reader of a connection to end, and then hangs up a connection. -/
  | waiting (reader : Nat) (held : Option Nat)
  /-- It waits until the connection is hung up. -/
  | hangingUp (done : Promise (Option LinkFailure))
  | finished (failure : Option Failure)
deriving Inhabited

structure Session where
  address : String
  /-- Whether connections use settings of their own for encryption. -/
  customEncryption : Bool
  /-- The seconds a call may take. -/
  timeout : Value
  notices : Notices
  closed : Bool
  httpOpen : Bool
  nextId : Nat
  /-- The calls that wait for a response over the socket, by number. -/
  pending : List (Nat × Nat)
  /-- The connection in use. -/
  socket : Option Nat
  /-- The connection whose reader was started last. -/
  reader : Option Nat
  /-- Whether a carrier is using the socket, and who waits for it. -/
  locked : Bool
  queue : List Nat
  calls : List Call
  connections : List Connection
  /-- The call each attempt to connect was made for. -/
  attempts : List Nat
  /-- The call each request was made for. -/
  requests : List Nat
  network : Network
  clock : Double
  alarms : Alarms
  /-- The jobs of this round and those of the next one. -/
  jobs : List Job
  upcoming : List Job
  closing : Closing
  /-- What has happened since it was last looked at. -/
  traces : List Trace
deriving Inhabited

namespace Session

def new (address : String) (customEncryption : Bool) (timeout : Value) (notices : Notices) :
    Session where
  address := address
  customEncryption := customEncryption
  timeout := timeout
  notices := notices
  closed := false
  httpOpen := false
  nextId := 1
  pending := []
  socket := none
  reader := none
  locked := false
  queue := []
  calls := []
  connections := []
  attempts := []
  requests := []
  network := .reliable
  clock := Double.ofInt 0
  alarms := #[]
  jobs := []
  upcoming := []
  closing := .none
  traces := []

def call (s : Session) (k : Nat) : Call :=
  s.calls.getD k default

def connection (s : Session) (c : Nat) : Connection :=
  s.connections.getD c default

def updateCall (s : Session) (k : Nat) (f : Call → Call) : Session :=
  { s with calls := s.calls.modify k f }

def updateConnection (s : Session) (c : Nat) (f : Connection → Connection) : Session :=
  { s with connections := s.connections.modify c f }

def enqueue (s : Session) (j : Job) : Session :=
  { s with upcoming := s.upcoming ++ [j] }

def note (s : Session) (t : Trace) : Session :=
  { s with traces := s.traces ++ [t] }

def setGuard (s : Session) (k : Nat) (g : Guard) : Session :=
  s.updateCall k fun c => { c with guard := g }

def setCarrier (s : Session) (k : Nat) (x : Carrier) : Session :=
  s.updateCall k fun c => { c with carrier := x }

def wakeCarrier (s : Session) (k : Nat) (x : Carrier) : Session :=
  (s.setCarrier k x).enqueue (.carrier k)

def wakeGuard (s : Session) (k : Nat) (g : Guard) : Session :=
  (s.setGuard k g).enqueue (.guard k)

def finishGuard (s : Session) (k : Nat) (o : Outcome) : Session :=
  (s.setGuard k (.finished o)).enqueue (.report k)

/-- Ends a carrier; a guard that waits for it is told. -/
def finishCarrier (s : Session) (k : Nat) (o : Outcome) : Session :=
  let s := s.setCarrier k (.finished o)
  match (s.call k).guard with
  | .waiting _ => s.enqueue (.release k)
  | .stopping _ _ => s.enqueue (.release k)
  | _ => s

/-- Sets what has become of the response to a call. A carrier that waits for it goes on; one that is
still sending will find it. -/
def setResponse (s : Session) (k : Nat) (p : Promise (Except Failure Value)) : Session :=
  let s := s.updateCall k fun c => { c with response := some p }
  match (s.call k).carrier with
  | .awaiting => s.enqueue (.carrier k)
  | _ => s

/-- Gives a call its response, if nothing has become of it yet. -/
def respond (s : Session) (k : Nat) (r : Except Failure Value) : Session :=
  match (s.call k).response with
  | some .pending => s.setResponse k (.kept r)
  | _ => s

def failPending (s : Session) (fault : TransportFault) : Session :=
  s.pending.foldl (fun s e => s.respond e.2 (.error (.transport fault))) { s with pending := [] }

def forget (s : Session) (id : Nat) : Session :=
  { s with pending := s.pending.filter fun e => e.1 ≠ id }

end Session

end Farcall
