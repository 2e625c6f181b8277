import Farcall.Proxy.Definition
import Farcall.Proxy.Station

/-!
# Proxies

An instance of a proxy class: its methods make calls over the line of its client. A trailing callable
among the arguments is told about the end of the call, and arguments beyond the parameters are
dropped.
-/

namespace Farcall

structure Proxy where
  definition : ProxyClass
  address : String
  transport : Transport
  closed : Bool
  client : Client
deriving Inhabited

namespace Proxy

def checkAddress : Value → Except Failure String
  | .str s => if Text.trim s = "" then .error (.argument .blankAddress) else .ok s
  | _ => .error (.argument .blankAddress)

def warnings (c : ProxyClass) : List String :=
  c.shadows.map fun key =>
    "WARNING jsonws.runtime.tree: " ++ c.quotedKey key ++ " shadows " ++ c.name ++ "." ++ key

/-- A proxy on a line, together with the warnings that its making gives rise to. -/
def new (definition : ProxyClass) (address : Value) (line : String → Line) (hasLoop : Bool) :
    Except Failure (Proxy × List String) := do
  let address ← checkAddress address
  if let some f := definition.bindFault? then
    throw (.fault f)
  let client : Client := ⟨.empty, .new (line address) hasLoop⟩
  return (⟨definition, address, .http, false, client⟩, warnings definition)

def splitCallback (args : List Value) : List Value × Option Value :=
  match args.getLast? with
  | some v => if v.callable then (args.dropLast, some v) else (args, none)
  | none => (args, none)

def request (p : Proxy) (s : Stub) (args : List Value) : Request × Option Value :=
  let (args, callback) := splitCallback args
  (⟨s.name, .list (args.take s.params.length), s.expectReturn, p.transport⟩, callback)

def find (p : Proxy) (path : List String) : Except Failure Tree :=
  match p.definition.member? path with
  | some t => .ok t
  | none => .error (.fault .noAttribute)

def withClient {α : Type} (p : Proxy) (act : Action Client α) : Proxy × Except Failure α :=
  let (r, client) := act.run p.client
  ({ p with client }, r)

def invoke (p : Proxy) (path : List String) (args : List Value) :
    Proxy × Except Failure Ticket :=
  match p.find path with
  | .error e => (p, .error e)
  | .ok (.scope _ _) => (p, .error (.fault .notCallable))
  | .ok (.method s) =>
    let (r, callback) := p.request s args
    p.withClient (Hub.outside (Station.call r callback))

def selector : Transport → String
  | .http => "use_http"
  | .socket => "use_socket"

/-- Sends subsequent calls over a transport. What stands under the name of the selector is called:
a member of the proxy, which may make a call of its own, or the codec of an enumeration, which needs
a key, or else the selector itself. -/
def use (p : Proxy) (t : Transport) : Proxy × Except Failure (Option Ticket) :=
  if (p.definition.member? [selector t]).isSome then
    let (p, r) := p.invoke [selector t] []
    (p, r.map some)
  else if (p.definition.enums.lookup (selector t)).isSome then (p, .error (.fault .badArguments))
  else ({ p with transport := t }, .ok none)

def codec (p : Proxy) (name : String) : Except Failure Codec :=
  match p.definition.enum? name with
  | some c => .ok c
  | none => .error (.fault .noAttribute)

def convert (p : Proxy) (name : String) (key : Value) : Except Failure Value := do
  let c ← p.codec name
  match key with
  | .str label =>
    if p.definition.answersTo label then c.call key
    else throw (.usage (.notALabel c.name label))
  | v => c.call v

/-- Closes the proxy. Closing it again does nothing. -/
def close (p : Proxy) : Proxy × Option Failure :=
  if p.closed then (p, none)
  else
    let (client, failure) := p.client.close
    ({ p with client, closed := true }, failure)

def shown (p : Proxy) : String :=
  p.definition.name ++ "(" ++ Text.quoted p.address ++ ", transport=" ++ p.transport.label ++ ")"

end Proxy

end Farcall
