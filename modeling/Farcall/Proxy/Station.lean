import Farcall.Events.Hub
import Farcall.Session.Run

/-!
# Stations

A station joins the listeners of events and the line that calls go over. The line is a session, or a
recorder that only takes calls down. The first listener of an event subscribes to it over the line,
and the loss of the last one ends the subscription.
-/

namespace Farcall

structure Recorder where
  /-- While set, calls fail with this text. -/
  refusal : Option String
  calls : List (Request × Option Value)
  closings : Nat
  /-- Notifications that are not handed over yet. -/
  waiting : List (String × Value)
deriving Inhabited

/-- What calls go over. -/
inductive Line where
  | recorder (r : Recorder)
  | session (s : Session)
deriving Inhabited

/-- What surrounds the listeners. -/
structure Station where
  line : Line
  /-- Whether work can be put off; else notifications are handed over at once. -/
  hasLoop : Bool
  /-- The listeners and callers that were called, and with what. -/
  heard : List (String × List Argument)
  log : List String
  traces : List Trace
  /-- What a listener or caller does when it is called, as things stand then and after all that was
  heard. -/
  reaction : String → List Argument → Listeners → List (String × List Argument) → Reaction :=
    fun name _ _ _ => .ofName name
deriving Inhabited

inductive Ticket where
  | token
  | task
deriving DecidableEq

namespace Station

def new (line : Line) (hasLoop : Bool) : Station where
  line := line
  hasLoop := hasLoop
  heard := []
  log := []
  traces := []

def logEntry (s : Station) (text : String) : Station :=
  { s with log := s.log ++ [text] }

def call (r : Request) (callback : Option Value) : Action Station Ticket := do
  let s ← get
  match s.line with
  | .recorder x =>
    match x.refusal with
    | some text => throw (.runtime text)
    | none =>
      set { s with line := .recorder { x with calls := x.calls ++ [(r, callback)] } }
      return .token
  | .session x =>
    if s.hasLoop then
      set { s with line := .session (x.begin r callback) }
      return .task
    else throw (.fault .noLoop)

def subscribe : String := "rpc.on"

def unsubscribe : String := "rpc.off"

def callAbout (method event : String) : Action Station Unit := do
  let _ ← call ⟨method, .list [.str event], false, .socket⟩ none

def surroundings : Surroundings Station where
  first := callAbout subscribe
  last := callAbout unsubscribe
  heard name args s := { s with heard := s.heard ++ [(name, args)] }
  reaction name args listeners s := s.reaction name args listeners s.heard

end Station

abbrev Client := Hub Station

namespace Client

def update (c : Client) (f : Station → Station) : Client :=
  { c with around := f c.around }

def updateSession (c : Client) (f : Session → Session) : Client :=
  c.update fun s =>
    match s.line with
    | .session x => { s with line := .session (f x) }
    | .recorder _ => s

def session? (c : Client) : Option Session :=
  match c.around.line with
  | .session x => some x
  | .recorder _ => none

/-- Hands a notification to the listeners of its event. A failure ends this notification only. -/
def deliver (c : Client) (event : String) (data : Value) : Client :=
  let (r, c) : Except Failure Bool × Client :=
    (Hub.emit Station.surroundings event [.value data]).run c
  match r with
  | .ok _ => c
  | .error _ =>
    Client.update c
      (·.logEntry ("ERROR jsonws.runtime.proxy: Listener for event " ++ event ++ " raised"))

/-- What a caller is told about the end of a call: an error or nothing, and a result. -/
def arguments (method : String) : Outcome → List Argument
  | .value v => [.value .null, .value v]
  | .failed e => [.error e, .value .null]
  | .cancelled => [.error (.transport (.cancelled method)), .value .null]

def report (c : Client) (method : String) (callback : Value) (o : Outcome) : Client :=
  let raised := "ERROR " ++ Session.logName ++ ": Completion callback for " ++ method ++ " raised"
  match callback with
  | .function name =>
    let (r, c) : Except Failure Unit × Client :=
      (Hub.call Station.surroundings name (arguments method o)).run c
    match r with
    | .ok _ => c
    | .error _ => Client.update c (·.logEntry raised)
  | _ => c.update (·.logEntry raised)

def follow (c : Client) (t : Trace) : Client :=
  match t with
  | .delivered event data => c.deliver event data
  | .reported method callback o => c.report method callback o
  | .logged text => c.update (·.logEntry text)
  | _ => c.update fun s => { s with traces := s.traces ++ [t] }

def drain (c : Client) : Client :=
  match c.session? with
  | some x => x.traces.foldl follow (c.updateSession fun y => { y with traces := [] })
  | none => c

def handOver? (c : Client) : Option Client :=
  match c.around.line with
  | .recorder x =>
    match x.waiting with
    | (event, data) :: rest =>
      some ((c.update fun s =>
        { s with line := .recorder { x with waiting := rest } }).deliver event data)
    | [] => none
  | .session _ => none

def step? (c : Client) : Option Client :=
  match c.around.line with
  | .session x => x.step.map fun y => (c.updateSession fun _ => y).drain
  | .recorder _ => c.handOver?

/-- Works until there is nothing to do, at most `n` pieces. -/
def run : Nat → Client → Client
  | 0, c => c
  | n + 1, c =>
    match c.step? with
    | some c => run n c
    | none => c.updateSession Session.idle

def runClosing : Nat → Client → Client
  | 0, c => c
  | n + 1, c =>
    match c.session?.map Session.closing with
    | some (.waiting _ _) =>
      match c.step? with
      | some c => runClosing n c
      | none => c
    | _ => c

/-- The pieces of work a client does at most before it looks up. -/
def patience : Nat := 1000000

def settle (c : Client) : Client :=
  c.run patience

def close (c : Client) : Client × Option Failure :=
  match c.around.line with
  | .recorder x =>
    (c.update fun s => { s with line := .recorder { x with closings := x.closings + 1 } }, none)
  | .session x =>
    if x.closed then (c, none)
    else
      let c := (c.updateSession fun _ => x.close).drain.runClosing patience
      match c.session?.map Session.closing with
      | some (.finished f) => (c, f)
      | _ => (c, none)

/-- A notification arrives. It is handed over later if it can be put off; one without a name that is
a text is passed over. -/
def notify (c : Client) (message : List (Value × Value)) : Client :=
  match Value.getD message "name" with
  | .str event =>
    let data := Value.getD message "data"
    if !c.around.hasLoop then c.deliver event data
    else
      c.update fun s =>
        match s.line with
        | .recorder x =>
          { s with line := .recorder { x with waiting := x.waiting ++ [(event, data)] } }
        | .session x => { s with line := .session (x.enqueue (.deliver event data)) }
  | _ => c

end Client

end Farcall
