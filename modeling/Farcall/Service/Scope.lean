import Farcall.Service.Registry

/-!
# Scopes

A scope registers methods and events under a namespace: it puts its own name in front of theirs.
-/

namespace Farcall

structure Scope where
  name : String
deriving Inhabited

namespace Scope

def ofName (name : String) : Except Failure Scope :=
  if name.isEmpty || name.toList.head? == some '.' || name.toList.getLast? == some '.' then
    .error (.usage (.badNamespace (.str name)))
  else .ok ⟨name⟩

def ofValue : Value → Except Failure Scope
  | .str s => ofName s
  | v =>
    if !v.truthy then .error (.usage (.badNamespace v))
    else
      match v with
      | .bytes _ => .error (.fault .wrongKind)
      | _ => .error (.fault .noAttribute)

def qualify (s : Scope) (name : Value) : String :=
  s.name ++ "." ++ name.plain

def inner (s : Scope) (name : Value) : Except Failure Scope :=
  ofName (s.qualify name)

def chain (s : Scope) : List Value → Except Failure Scope
  | [] => .ok s
  | name :: rest => do
    let t ← s.inner name
    t.chain rest

def qualifyRecord (s : Scope) (r : Record) : Except Failure Record :=
  match Value.get? r "name" with
  | some name => .ok (Value.assign r (.str "name") (.str (s.qualify name)))
  | none => .error (.fault .noKey)

def registerMethodRecord (s : Scope) (service : Service) (r : Record) :
    Except Failure (Service × Method) := do
  service.registerMethodRecord (← s.qualifyRecord r)

def registerMethod (s : Scope) (service : Service) (m : Method) :
    Except Failure (Service × Method) := do
  let m := { m with name := s.qualify (.str m.name) }
  let service ← service.registerMethod m
  return (service, m)

def registerEvent (s : Scope) (service : Service) (name type description : Value) :
    Except Failure (Service × Event) :=
  service.registerEvent (.str (s.qualify name)) type description

end Scope

end Farcall
