import Farcall.Session.Carrier

/-!
# Readers

How frames are handled. A response goes to the pending call it names; any other object with a name is
a notification. A frame that is neither is passed over. When a connection ends, for whatever reason,
all calls that are pending fail.
-/

namespace Farcall.Session

def logName : String := "jsonws.runtime.tunnel"

def logError (s : Session) (text : String) : Session :=
  s.note (.logged ("ERROR " ++ logName ++ ": " ++ text))

def logFrame (s : Session) : Session :=
  s.logError "Failed to handle socket message"

def notice (name data : Value) : Value :=
  .map [(.str "name", name), (.str "data", data)]

def notify (s : Session) (name data : Value) : Session :=
  match s.notices with
  | .ignored => s
  | .recorded => s.note (.notified (notice name data))
  | .raising => (s.note (.notified (notice name data))).logFrame
  | .delivered =>
    match name with
    | .str event => s.enqueue (.deliver event data)
    | _ => s

def pendingCall? (s : Session) (r : List (Value × Value)) : Option (Nat × Nat) :=
  (Response.id? r).bind fun n => s.pending.find? fun e => (e.1 : Int) == n

/-- Gives a response to its call; a call that has been given up does not take it. -/
def answer (s : Session) (id k : Nat) (r : List (Value × Value)) : Session :=
  (s.forget id).respond k (Response.ofRecord r)

def handle (s : Session) (f : Frame) : Session :=
  match f.inbound with
  | .other => s
  | .unreadable => s.logFrame
  | .record r =>
    match s.pendingCall? r with
    | some (id, k) => s.answer id k r
    | none =>
      match Value.get? r "name" with
      | some name => s.notify name (Value.getD r "data")
      | none => s

def release (s : Session) (c : Nat) : Session :=
  if s.socket == some c then { s with socket := none } else s

def closingWaits (s : Session) (c : Nat) : Bool :=
  match s.closing with
  | .waiting r _ => r == c
  | _ => false

def endReader (s : Session) (c : Nat) (f : Option Failure) : Session :=
  let s := s.updateConnection c fun x => { x with reader := .finished f, readerCancelled := false }
  if s.closingWaits c then s.enqueue .closing else s

def connectionEnded (s : Session) (c : Nat) (f : Option LinkFailure) : Session :=
  let s := s.release c
  match f with
  | none => (s.failPending .socketClosed).endReader c none
  | some f =>
    if f.isProtocol then (s.failPending (.socketFailed f.text)).endReader c none
    else (s.failPending .socketClosed).endReader c (some f.failure)

/-- The next part of a reader's work. A reader that is stopped before it began has nothing to clean
up. -/
def stepReader (s : Session) (c : Nat) : Session :=
  let x := s.connection c
  match x.reader with
  | .finished _ => s
  | state =>
    if x.readerCancelled then
      match state with
      | .fresh => s.endReader c none
      | _ => ((s.release c).failPending .socketClosed).endReader c none
    else
      let s := s.updateConnection c fun x => { x with inbox := [], reader := .waiting }
      let s := x.inbox.foldl handle s
      match x.ended with
      | some f => s.connectionEnded c f
      | none => s

def wakeReader (s : Session) (c : Nat) : Session :=
  match (s.connection c).reader with
  | .waiting =>
    (s.updateConnection c fun x => { x with reader := .woken }).enqueue (.reader c)
  | _ => s

def cancelReader (s : Session) (c : Nat) : Session :=
  (s.updateConnection c fun x => { x with readerCancelled := true }).wakeReader c

end Farcall.Session
