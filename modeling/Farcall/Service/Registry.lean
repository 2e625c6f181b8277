import Farcall.Service.Reading

/-!
# Services

A service is grown by registering types, methods and events. Registration only appends: a name is
taken once, a type reference must resolve when it is registered, and a failed registration leaves
the service as it was. As a service is a value, it is its own snapshot.
-/

namespace Farcall

/-- A service: its definitions in the order of their registration. -/
structure Service where
  version : Value
  friendlyName : Value
  types : List (Value × TypeDef)
  methods : List Method
  events : List Event
deriving Inhabited

namespace Service

def empty (version friendlyName : Value) : Service :=
  ⟨version, friendlyName, [], [], []⟩

def methodNames (s : Service) : List String :=
  s.methods.map Method.name

def eventNames (s : Service) : List String :=
  s.events.map Event.name

def memberNames (s : Service) : List String :=
  s.methodNames ++ s.eventNames

def impliedNamespaces (s : Service) : List String :=
  s.memberNames.flatMap Name.ancestors

def namespaces (s : Service) : List String :=
  Name.namespacePaths s.memberNames

def enums (s : Service) : List (Value × List (String × Int)) :=
  s.types.filterMap fun (name, d) =>
    match d with
    | .enum members => some (name, members)
    | .struct _ => none

def structs (s : Service) : List (Value × List (String × Field)) :=
  s.types.filterMap fun (name, d) =>
    match d with
    | .enum _ => none
    | .struct fields => some (name, fields)

def shown (s : Service) : String :=
  s!"Service({s.friendlyName.shown}, version={s.version.shown}, types={s.types.length}, " ++
    s!"methods={s.methods.length}, events={s.events.length})"

def hasType (s : Service) (name : Value) : Bool :=
  s.types.any (fun t => t.1.same name) || TypeRef.builtin.any (fun b => (Value.str b).same name)

def checkTypeName (s : Service) (name : Value) : Except Failure Unit :=
  if !name.hashable then .error (.fault .notHashable)
  else if s.hasType name then .error (.alreadyDefined name "type")
  else .ok ()

def resolve (s : Service) (ref : TypeRef) (referencedBy : String) : Except Failure Unit :=
  if s.hasType (.str ref.name) then .ok () else .error (.unknownType ref.name referencedBy)

def addType (s : Service) (name : Value) (d : TypeDef) : Service :=
  { s with types := s.types ++ [(name, d)] }

def numberLabels (enum : Value) (taken : Record) (next : Nat) : List Value → Except Failure Record
  | [] => .ok taken
  | label :: rest =>
    if !label.hashable then .error (.fault .notHashable)
    else if (Value.lookup? taken label).isSome then
      .error (.alreadyDefined (.str (enum.plain ++ "." ++ label.plain)) "enum label")
    else numberLabels enum (taken ++ [(label, .int next)]) (next + 1) rest

/-- The entries of an enumeration: those of a mapping, or a list of labels numbered from zero. -/
def enumEntries (name : Value) : Value → Except Failure Record
  | .map es => .ok es
  | .str _ => .error (.usage (.enumShape name))
  | v =>
    match v.members? with
    | some labels => numberLabels name [] 0 labels
    | none => .error (.fault .notIterable)

/-- The values must be integers, each for one label; `seen` holds the values met so far. -/
def checkValues (name : Value) (seen : List (Int × Value)) : Record → Except Failure Unit
  | [] => .ok ()
  | (label, .int n) :: rest =>
    match seen.lookup n with
    | some other => .error (.package (.duplicateValue name (.int n) other label))
    | none => checkValues name (seen ++ [(n, label)]) rest
  | (label, _) :: _ => .error (.usage (.enumValue name label))

def registerEntries (s : Service) (name : Value) (entries : Record) :
    Except Failure (Service × TypeDef) := do
  checkValues name [] entries
  let d ← (Value.readEnum (.map [(.str "members", .map entries)])).mapError .invalid
  return (s.addType name d, d)

def registerEnum (s : Service) (name values : Value) : Except Failure (Service × TypeDef) := do
  s.checkTypeName name
  let entries ← enumEntries name values
  s.registerEntries name entries

def checkFields (s : Service) (name : Value) : List (String × Field) → Except Failure Unit
  | [] => .ok ()
  | (label, f) :: rest => do
    unless (Value.str f.type.name).same name do
      s.resolve f.type (name.plain ++ "." ++ label)
    s.checkFields name rest

def registerDefinition (s : Service) (name : Value) (d : TypeDef) :
    Except Failure (Service × TypeDef) := do
  s.checkTypeName name
  match d with
  | .enum members =>
    s.registerEntries name (members.map fun (label, n) => (.str label, .int n))
  | .struct fields =>
    s.checkFields name fields
    return (s.addType name d, d)

/-- Registers a type from a record; one that does not say it is an enumeration is a struct. -/
def registerType (s : Service) (name definition : Value) :
    Except Failure (Service × TypeDef) := do
  s.checkTypeName name
  match definition with
  | .map r =>
    if ((Value.get? r "kind").getD (.str "struct")).same (.str "enum") then
      match Value.get? r "members" with
      | some members => s.registerEnum name members
      | none => .error (.fault .noKey)
    else
      let d ← (Value.readStruct definition).mapError .invalid
      s.registerDefinition name d
  | _ => .error (.fault .noAttribute)

def checkAncestors (s : Service) (name : String) : Except Failure Unit :=
  match (Name.ancestors name).find? (· ∈ s.methodNames) with
  | some a => .error (.alreadyDefined (.str a) "method")
  | none => .ok ()

def checkParams (s : Service) (method : String) : List Param → Except Failure Unit
  | [] => .ok ()
  | p :: rest => do
    s.resolve p.type method
    s.checkParams method rest

/-- A return type must resolve, unless it is the marker for completion without a result. -/
def checkReturn (s : Service) (m : Method) : Except Failure Unit :=
  match m.returns with
  | some r => if m.isAsync then .ok () else s.resolve r m.name
  | none => .ok ()

def registerMethod (s : Service) (m : Method) : Except Failure Service := do
  if m.name ∈ s.methodNames then
    throw (.alreadyDefined (.str m.name) "method")
  if m.name ∈ s.impliedNamespaces then
    throw (.alreadyDefined (.str m.name) "namespace")
  s.checkAncestors m.name
  s.checkParams m.name m.params
  s.checkReturn m
  return { s with methods := s.methods ++ [m] }

def registerMethodRecord (s : Service) (r : Record) : Except Failure (Service × Method) := do
  let m ← Value.readMethod (.map r)
  let s ← s.registerMethod m
  return (s, m)

def registerReadEvent (s : Service) (e : Event) : Except Failure Service := do
  s.checkAncestors e.name
  match e.type with
  | some t => s.resolve t e.name
  | none => .ok ()
  return { s with events := s.events ++ [e] }

def checkEventName (s : Service) (name : Value) : Except Failure Unit :=
  if !name.hashable then .error (.fault .notHashable)
  else if s.eventNames.any (fun n => (Value.str n).same name) then
    .error (.alreadyDefined name "event")
  else .ok ()

/-- Registers an event from its parts. A name given as bytes reads as a text but has no segments. -/
def registerEvent (s : Service) (name type description : Value) :
    Except Failure (Service × Event) := do
  s.checkEventName name
  let e ← Value.readEvent name type description
  match name with
  | .str _ =>
    let s ← s.registerReadEvent e
    return (s, e)
  | _ => .error (.fault .wrongKind)

end Service

end Farcall
