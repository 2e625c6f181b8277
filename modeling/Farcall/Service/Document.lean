import Farcall.Service.Registry

/-!
# Description documents

A service described by one value: a mapping with the sections `enums`, `types`, `methods` and
`events`. The sections are registered in this order and their entries as they are written, so the
first thing wrong is what is reported. A section that is absent or empty in any way has no entries.
-/

namespace Farcall.Document

/-- A value that must be a mapping; anything that counts as false is an empty one. -/
def mapping (what : String) (v : Value) : Except Failure Record :=
  match v with
  | .map es => .ok es
  | _ => .error (.argument (.notMapping what v))

def mappingOrEmpty (what : String) (v : Value) : Except Failure Record :=
  if v.truthy then mapping what v else .ok []

def membersOrNone (v : Value) : Except Failure (List Value) :=
  if !v.truthy then .ok []
  else
    match v.members? with
    | some xs => .ok xs
    | none => .error (.fault .notIterable)

def required (what key : String) (r : Record) : Except Failure Value :=
  match Value.get? r key with
  | some v => .ok v
  | none => .error (.argument (.missingKey what key (.map r)))

def carried (r : Record) (key : String) : Record :=
  match Value.get? r key with
  | some v => [(.str key, v)]
  | none => []

def carriedIfTrue (r : Record) (key : String) : Record :=
  (carried r key).filter (·.2.truthy)

/-- The type entry of a record; without one any type will do. -/
def typeEntry (r : Record) : Value × Value :=
  (.str "type_ref", (Value.get? r "type").getD (.str "any"))

def fieldRecord [Alphabet] (name raw : Value) : Except Failure Value :=
  match raw with
  | .str _ => .ok (.map [(.str "type_ref", raw)])
  | .list _ => .ok (.map [(.str "type_ref", raw)])
  | _ => do
    let r ← mapping s!"field {name.shown}" raw
    return .map (typeEntry r :: (carried r "required" ++ carried r "default" ++
      carried r "description"))

def fieldRecords [Alphabet] : Record → Except Failure Record
  | [] => .ok []
  | (name, raw) :: rest => do
    let field ← fieldRecord name raw
    let fields ← fieldRecords rest
    return (name, field) :: fields

def typeRecord [Alphabet] (name raw : Value) : Except Failure Value := do
  let r ← mappingOrEmpty s!"type {name.shown}" raw
  let fields ← mappingOrEmpty s!"type {name.shown} fields" (Value.getD r "fields")
  return .map [(.str "fields", .map (← fieldRecords fields))]

def paramRecord (raw : Value) : Except Failure Value :=
  match raw with
  | .str _ => .ok raw
  | .map r => do
    let name ← required "parameter" "name" r
    return .map ((.str "name", name) :: typeEntry r :: (carried r "default" ++
      carriedIfTrue r "description"))
  | _ => .error (.argument (.badParameter raw))

def paramRecords : List Value → Except Failure (List Value)
  | [] => .ok []
  | raw :: rest => do
    let param ← paramRecord raw
    let params ← paramRecords rest
    return param :: params

def methodRecord (raw : Value) : Except Failure Record := do
  let r ← mapping "method" raw
  let name ← required "method" "name" r
  let params ← paramRecords (← membersOrNone (Value.getD r "params"))
  let returns := match Value.getD r "returns" with
    | .null => []
    | v => [(.str "returns", v)]
  return (.str "name", name) :: (.str "params", .list params) :: (returns ++
    carriedIfTrue r "description")

def registerEnums (s : Service) : Record → Except Failure Service
  | [] => .ok s
  | (name, values) :: rest => do
    let (s, _) ← s.registerEnum name values
    registerEnums s rest

def registerTypes [Alphabet] (s : Service) : Record → Except Failure Service
  | [] => .ok s
  | (name, raw) :: rest => do
    let (s, _) ← s.registerType name (← typeRecord name raw)
    registerTypes s rest

def registerMethods (s : Service) : List Value → Except Failure Service
  | [] => .ok s
  | raw :: rest => do
    let (s, _) ← s.registerMethodRecord (← methodRecord raw)
    registerMethods s rest

def registerEvent (s : Service) (raw : Value) : Except Failure Service :=
  match raw with
  | .str _ => do
    let (s, _) ← s.registerEvent raw .null .null
    return s
  | _ => do
    let r ← mapping "event" raw
    let name ← required "event" "name" r
    let (s, _) ← s.registerEvent name (Value.getD r "type") (Value.getD r "description")
    return s

def registerEvents (s : Service) : List Value → Except Failure Service
  | [] => .ok s
  | raw :: rest => do
    let s ← registerEvent s raw
    registerEvents s rest

def textOr [Alphabet] (r : Record) (key default : String) : Value :=
  .str ((Value.get? r key).getD (.str default)).plain

def serviceOfRecord [Alphabet] (r : Record) : Except Failure Service := do
  let s := Service.empty (textOr r "version" "1.0") (textOr r "name" "")
  let s ← registerEnums s (← mappingOrEmpty "enums" (Value.getD r "enums"))
  let s ← registerTypes s (← mappingOrEmpty "types" (Value.getD r "types"))
  let s ← registerMethods s (← membersOrNone (Value.getD r "methods"))
  registerEvents s (← membersOrNone (Value.getD r "events"))

def service [Alphabet] (document : Value) : Except Failure Service :=
  match document with
  | .map r => serviceOfRecord r
  | _ => .error (.argument .documentNotMapping)

end Farcall.Document
