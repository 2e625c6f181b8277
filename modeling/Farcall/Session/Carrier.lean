import Farcall.Session.Message

/-!
# Carriers

How a call is sent. Over the socket, carriers take turns: the one whose turn it is opens a connection
if there is none, and each sends its frame once the connection is there. A call is noted as pending
before its frame is sent.
-/

namespace Farcall.Session

/-- Gives the turn to the first carrier in the queue, if it has not got it yet. -/
def passTurn (s : Session) : Session :=
  match s.queue with
  | [] => s
  | k :: _ =>
    match (s.call k).carrier with
    | .queueing .pending => s.wakeCarrier k (.queueing (.kept ()))
    | _ => s

def unlock (s : Session) : Session :=
  passTurn { s with locked := false }

def addPending (s : Session) (k : Nat) : Session :=
  if (s.call k).request.expectReturn then
    { s.updateCall k fun c => { c with response := some .pending } with
      pending := s.pending ++ [((s.call k).id.getD 0, k)] }
  else s

/-- Goes on when the frame of a call has been sent: the response, if there is to be one, may be there
already. -/
def awaitResponse (s : Session) (k : Nat) : Session :=
  match (s.call k).response with
  | none => s.finishCarrier k (.value .null)
  | some .pending => s.setCarrier k .awaiting
  | some (.kept r) => s.finishCarrier k (.ofExcept r)
  | some .withdrawn => s.finishCarrier k .cancelled

def sendFailed (s : Session) (k : Nat) (f : LinkFailure) : Session :=
  let call := s.call k
  if f.isProtocol then
    (s.forget (call.id.getD 0)).finishCarrier k
      (.failed (.transport (.sendFailed call.request.method f.text)))
  else s.finishCarrier k (.failed f.failure)

def register (s : Session) (k c : Nat) : Session :=
  (s.updateCall k fun x => { x with link := some c }).addPending k

def transmit (s : Session) (k c : Nat) : Session :=
  let call := s.call k
  match Json.write Json.spaced (call.request.message (call.id.getD 0)) with
  | .error e => s.finishCarrier k (.failed (.fault e.fault))
  | .ok text =>
    match s.network.sending with
    | some f => s.sendFailed k f
    | none =>
      let s := s.note (.sent c text)
      if s.network.stalls then s.setCarrier k (.sending .pending) else s.awaitResponse k

def send (s : Session) (k c : Nat) : Session :=
  (s.register k c).transmit k c

def connectFailure (s : Session) (f : LinkFailure) : Failure :=
  match f with
  | .runtime _ => f.failure
  | _ => .transport (.connectFailed (Address.socket s.address) f.text)

def openConnection (s : Session) : Session :=
  let c := s.connections.length
  { s with
    connections := s.connections ++ [Connection.opened]
    socket := some c
    reader := some c }.enqueue (.reader c)

def connected (s : Session) (k : Nat) : Session :=
  s.openConnection.unlock.send k s.connections.length

def notConnected (s : Session) (k : Nat) (f : LinkFailure) : Session :=
  s.unlock.finishCarrier k (.failed (s.connectFailure f))

def connect (s : Session) (k : Nat) : Session :=
  let attempt := s.attempts.length
  let address := Address.socket s.address
  let outcome := s.network.attempts.headD .opened
  let s := { s with
    attempts := s.attempts ++ [k]
    network := { s.network with attempts := s.network.attempts.drop 1 } }
  let s := s.note (.connecting attempt address (s.customEncryption && Address.isEncrypted address))
  match outcome with
  | .opened => s.connected k
  | .hanging => s.setCarrier k (.connecting attempt .pending)
  | .failed f => s.notConnected k f

def useSocket (s : Session) (k : Nat) : Session :=
  let s := { s with locked := true }
  match s.socket with
  | some c => s.unlock.send k c
  | none => s.connect k

def hasLeft (s : Session) (k : Nat) : Bool :=
  match (s.call k).carrier with
  | .queueing turn => turn.isWithdrawn
  | _ => false

/-- Takes a turn at the socket: at once if nobody is before, else in the queue. -/
def takeTurn (s : Session) (k : Nat) : Session :=
  if !s.locked && s.queue.all s.hasLeft then s.useSocket k
  else ({ s with queue := s.queue ++ [k] }).setCarrier k (.queueing .pending)

def post (s : Session) (k : Nat) : Session :=
  let call := s.call k
  let s := { s with httpOpen := true }
  match Json.write Json.compact (call.request.message (call.id.getD 0)) with
  | .error e => s.finishCarrier k (.failed (.fault e.fault))
  | .ok body =>
    let r := s.requests.length
    let s := { s with requests := s.requests ++ [k] }
    (s.note (.posted r (Address.http s.address) body)).setCarrier k (.posting r .pending)

def endQueueing (s : Session) (k : Nat) (cancelled : Bool) : Session :=
  let s := { s with queue := s.queue.erase k }
  if cancelled then
    (if s.locked then s else s.passTurn).finishCarrier k .cancelled
  else s.useSocket k

def stepCarrier (s : Session) (k : Nat) : Session :=
  let call := s.call k
  let cancelled := call.carrierCancelled
  let s := s.updateCall k fun c => { c with carrierCancelled := false }
  match call.carrier with
  | .fresh =>
    if cancelled then s.finishCarrier k .cancelled
    else
      match call.request.transport with
      | .http => s.post k
      | .socket => s.takeTurn k
  | .queueing turn => s.endQueueing k (cancelled || turn.isWithdrawn)
  | .connecting _ result =>
    match cancelled, result with
    | false, .kept none => s.connected k
    | false, .kept (some f) => s.notConnected k f
    | _, _ => s.unlock.finishCarrier k .cancelled
  | .posting _ answer =>
    match cancelled, answer with
    | false, .kept a =>
      s.finishCarrier k (.ofExcept (Response.ofAnswer call.request (Address.http s.address) a))
    | _, _ => s.finishCarrier k .cancelled
  | .sending sent =>
    match cancelled, sent with
    | false, .kept none => s.awaitResponse k
    | false, .kept (some f) => s.sendFailed k f
    | _, _ => s.finishCarrier k .cancelled
  | .awaiting =>
    match cancelled, call.response with
    | false, some (.kept r) => s.finishCarrier k (.ofExcept r)
    | _, _ => s.finishCarrier k .cancelled
  | .absent => s
  | .finished _ => s

/-- Stops a carrier at the next opportunity: what it waits for is withdrawn, or else it is told when
it goes on. -/
def cancelCarrier (s : Session) (k : Nat) : Session :=
  match (s.call k).carrier with
  | .queueing .pending => s.wakeCarrier k (.queueing .withdrawn)
  | .connecting a .pending => s.wakeCarrier k (.connecting a .withdrawn)
  | .posting r .pending => s.wakeCarrier k (.posting r .withdrawn)
  | .sending .pending => s.wakeCarrier k (.sending .withdrawn)
  | .absent => s
  | .finished _ => s
  | x =>
    match x, (s.call k).response with
    | .awaiting, some .pending => s.setResponse k .withdrawn
    | _, _ => s.updateCall k fun c => { c with carrierCancelled := true }

end Farcall.Session
