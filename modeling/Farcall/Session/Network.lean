import Farcall.Failure

/-!
# The network under a session

What the two transports may do: attempts to connect succeed, hang or fail, sending and closing may
fail or take their time, requests are answered or fail, and connections deliver frames and end.
-/

namespace Farcall

inductive LinkFailure where
  | webSocket (text : String)
  /-- The connection is gone without a farewell. -/
  | connectionClosed
  | system (text : String)
  | runtime (text : String)
deriving DecidableEq, Inhabited

namespace LinkFailure

def text : LinkFailure → String
  | .webSocket s => s
  | .connectionClosed => "no close frame received or sent"
  | .system s => s
  | .runtime s => s

def isProtocol : LinkFailure → Bool
  | .webSocket _ => true
  | .connectionClosed => true
  | _ => false

def failure : LinkFailure → Failure
  | .webSocket _ => .fault .webSocket
  | .connectionClosed => .fault .connectionClosed
  | .system s => .system s
  | .runtime s => .runtime s

end LinkFailure

inductive Attempt where
  | opened
  | hanging
  | failed (f : LinkFailure)
deriving Inhabited

inductive Answer where
  | response (status : Nat) (location : Option String) (body : List UInt8)
  /-- A failure of the protocol or the connection. -/
  | failed (text : String)
  /-- A failure of any other kind. -/
  | broken
deriving Inhabited

inductive Frame where
  | text (s : String)
  | binary (data : List UInt8)
deriving DecidableEq, Inhabited

structure Network where
  /-- How the next attempts to connect go; further ones succeed. -/
  attempts : List Attempt
  sending : Option LinkFailure
  closing : Option LinkFailure
  /-- Whether sending and closing, where they do not fail at once, are waited for. -/
  stalls : Bool
deriving Inhabited

def Network.reliable : Network := ⟨[], none, none, false⟩

end Farcall
