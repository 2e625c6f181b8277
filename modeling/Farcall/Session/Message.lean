import Farcall.Json.Reader
import Farcall.Json.Writer
import Farcall.Session.State
import Farcall.Session.Status

/-!
# Messages

The JSON-RPC messages of calls and responses. A response that carries an error other than null fails
the call; any other object is a result, null if it names none.
-/

namespace Farcall

namespace Request

/-- The message of a call. Its parameters are the members of the value given for them. -/
def message (r : Request) (id : Nat) : Value :=
  .map [(.str "jsonrpc", .str "2.0"), (.str "method", .str r.method),
    (.str "params", .list (r.params.members?.getD [])), (.str "id", .int id)]

end Request

namespace Response

def ofRecord (r : List (Value × Value)) : Except Failure Value :=
  match Value.getD r "error" with
  | .null => .ok (Value.getD r "result")
  | e => .error (.package (PackageError.ofResponse e))

def unwrap : Value → Except Failure Value
  | .map r => do
    match Value.getD r "error" with
    | .null => pure ()
    | e => throw (.package (PackageError.ofResponse e))
    return Value.getD r "result"
  | _ => throw (.transport .notResponse)

/-- How deep a body may be nested. Of the thousand calls that the interpreter has room for, some stand
there already. -/
def bodyRoom : Nat := 983

def ofBody (method : String) (body : List UInt8) : Except Failure Value :=
  match Json.readBytes bodyRoom body with
  | .ok v => unwrap v
  | .error .tooDeep => .error (.fault .tooDeep)
  | .error _ => .error (.transport (.notJson method))

def ofAnswer (r : Request) (address : String) : Answer → Except Failure Value
  | .failed text => .error (.transport (.httpFailed r.method text))
  | .broken => .error (.fault .network)
  | .response status location body =>
    if !Status.isSuccess status then
      .error (.transport (.httpFailed r.method (Status.complaint status address location)))
    else if !r.expectReturn then .ok .null
    else ofBody r.method body

end Response

def Outcome.ofExcept : Except Failure Value → Outcome
  | .ok v => .value v
  | .error e => .failed e

def Frame.room : Nat := 984

def Frame.read : Frame → Except Json.Unreadable Value
  | .text s => Json.read room s
  | .binary data => Json.readBytes room data

inductive Inbound where
  | record (r : List (Value × Value))
  /-- Nothing a session knows, or no JSON; it is passed over. -/
  | other
  /-- JSON that cannot be read, or bytes that are no text. -/
  | unreadable

def Frame.inbound (f : Frame) : Inbound :=
  match f.read with
  | .ok (.map r) => .record r
  | .ok _ => .other
  | .error .malformed => .other
  | .error _ => .unreadable

/-- The number a response names, if it names one; truth values count as 0 and 1. -/
def Response.id? (r : List (Value × Value)) : Option Int :=
  match Value.getD r "id" with
  | .int n => some n
  | .bool b => some (if b then 1 else 0)
  | _ => none

end Farcall
