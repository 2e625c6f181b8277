import Farcall.Failure
import Farcall.Service.Definition
import Farcall.Text.Blank
import Farcall.Text.Encoding
import Farcall.Text.Lowercase

/-!
# Definitions from values

Methods, events and types are described by records: mappings with known text keys. Reading one
reports everything that is wrong in it: the known fields first, in their order, then the unknown
keys as they were written.
-/

namespace Farcall

abbrev Reading (α : Type) := Except (List Issue) α

namespace Reading

def issue {α : Type} (kind : IssueKind) : Reading α :=
  .error [⟨kind, []⟩]

def within {α : Type} (step : PathStep) (r : Reading α) : Reading α :=
  r.mapError fun issues => issues.map fun i => ⟨i.kind, step :: i.path⟩

def issues {α : Type} : Reading α → List Issue
  | .ok _ => []
  | .error l => l

def also {α : Type} (r : Reading α) (more : List Issue) : Reading α :=
  match r with
  | .ok a => if more.isEmpty then .ok a else .error more
  | .error l => .error (l ++ more)

def both {α β : Type} (a : Reading α) (b : Reading β) : Reading (α × β) :=
  match a, b with
  | .ok x, .ok y => .ok (x, y)
  | _, _ => .error (a.issues ++ b.issues)

end Reading

namespace Record

def ofValue : Value → Reading Record
  | .map es => .ok es
  | _ => .issue .notRecord

def required {α : Type} (r : Record) (name : String) (read : Value → Reading α) : Reading α :=
  (match Value.get? r name with
    | some v => read v
    | none => .issue .missing).within (.name name)

def optional {α : Type} (r : Record) (name : String) (default : α) (read : Value → Reading α) :
    Reading α :=
  (match Value.get? r name with
    | some v => read v
    | none => .ok default).within (.name name)

def keyStep : Value → PathStep
  | .str s => .name s
  | .int n => .index n
  | .bool b => .index (if b then 1 else 0)
  | v => .name v.shown

def strangers (r : Record) (known : List String) : List Issue :=
  r.filterMap fun (k, _) =>
    match k with
    | .str s => if s ∈ known then none else some ⟨.unknownKey, [.name s]⟩
    | _ => some ⟨.keyNotText, [keyStep k]⟩

end Record

namespace Value

/-- A text; bytes count as the text they encode. -/
def readText : Value → Reading String
  | .str s => .ok s
  | .bytes b =>
    match Text.utf8? b with
    | some s => .ok s
    | none => .issue .notUnicode
  | _ => .issue .notText

def readText? : Value → Reading (Option String)
  | .null => .ok none
  | v => v.readText.map some

def truthWords : List (String × Bool) := [
  ("1", true), ("true", true), ("t", true), ("yes", true), ("y", true), ("on", true),
  ("0", false), ("false", false), ("f", false), ("no", false), ("n", false), ("off", false)]

def readTruthWord (s : String) : Reading Bool :=
  match truthWords.lookup (Text.lower s) with
  | some b => .ok b
  | none => .issue .unreadableTruth

def readTruth : Value → Reading Bool
  | .bool b => .ok b
  | .int n => if n = 0 then .ok false else if n = 1 then .ok true else .issue .unreadableTruth
  | .float x =>
    match x.toInt? with
    | some 0 => .ok false
    | some 1 => .ok true
    | _ => .issue .notTruth
  | .str s => readTruthWord s
  | .bytes b =>
    match Text.utf8? b with
    | some s => readTruthWord s
    | none => .issue .unreadableTruth
  | _ => .issue .notTruth

def plainDigits? : List Char → Option (List Char)
  | [] => none
  | [c] => if c.isDigit then some [c] else none
  | c :: '_' :: rest => if c.isDigit then (plainDigits? rest).map (c :: ·) else none
  | c :: rest => if c.isDigit then (plainDigits? rest).map (c :: ·) else none

/-- The integer that a text spells; a fraction of zeros is allowed. -/
def readIntegerText (s : String) : Reading Int :=
  let cs := (Text.trim s).toList
  let (negative, body) := match cs with
    | '-' :: rest => (true, rest)
    | '+' :: rest => (false, rest)
    | _ => (false, cs)
  let whole := body.takeWhile (· != '.')
  let zeros := (body.dropWhile (· != '.')).drop 1
  match plainDigits? whole with
  | some ds =>
    if zeros.all (· == '0') then
      let n : Nat := ds.foldl (fun n c => n * 10 + (c.toNat - '0'.toNat)) 0
      .ok (if negative then -(n : Int) else n)
    else .issue .unreadableInteger
  | none => .issue .unreadableInteger

def readInteger : Value → Reading Int
  | .int n => .ok n
  | .bool b => .ok (if b then 1 else 0)
  | .float x =>
    if !x.isFinite then .issue .notFinite
    else
      match x.toInt? with
      | some n => .ok n
      | none => .issue .fractional
  | .str s => readIntegerText s
  | .bytes b =>
    match Text.utf8? b with
    | some s => readIntegerText s
    | none => .issue .unreadableInteger
  | _ => .issue .notInteger

/-- The entries of a mapping whose keys are texts and whose values are read by `read`. -/
def readEntries {α : Type} (read : Value → Reading α) : Record → Reading (List (String × α))
  | [] => .ok []
  | (k, v) :: rest =>
    let step := Record.keyStep k
    let key := (k.readText.within (.name "[key]")).within step
    let head := key.both ((read v).within step)
    (head.both (readEntries read rest)).map fun (e, es) => e :: es

/-- Sets a key: a known key keeps its place and takes the new value, a new one goes last. -/
def putEntry {α : Type} (entries : List (String × α)) (e : String × α) : List (String × α) :=
  if e.1 ∈ entries.map Prod.fst then entries.map fun f => if f.1 = e.1 then e else f
  else entries ++ [e]

/-- A mapping from texts to what `read` reads. Different keys may read as one text. -/
def readMapping {α : Type} (read : Value → Reading α) : Value → Reading (List (String × α))
  | .map es => (readEntries read es).map fun entries => entries.foldl putEntry []
  | _ => .issue .notMapping

def readKind (kind : String) : Value → Reading Unit
  | .str s => if s = kind then .ok () else .issue .wrongKind
  | _ => .issue .wrongKind

/-- A type reference: its written form, or a record with name and array mark. -/
def readTypeRef : Value → Reading TypeRef
  | .null => .issue .notRecord
  | .map r =>
    let name := Record.required r "name" readText
    let isArray := Record.optional r "is_array" false readTruth
    ((name.both isArray).also (Record.strangers r ["name", "is_array"])).map fun (n, a) => ⟨n, a⟩
  | v =>
    match TypeRef.ofValue? v with
    | some t => .ok t
    | none => .issue (.badTypeRef v)

def readTypeRef? : Value → Reading (Option TypeRef)
  | .null => .ok none
  | v => v.readTypeRef.map some

def readField (v : Value) : Reading Field := do
  let r ← Record.ofValue v
  let type := Record.required r "type_ref" readTypeRef
  let required := Record.optional r "required" true readTruth
  let default := Record.optional r "default" .null .ok
  let description := Record.optional r "description" none readText?
  let parts := (type.both required).both (default.both description)
  let known := ["type_ref", "required", "default", "description"]
  (parts.also (Record.strangers r known)).map fun ((t, q), (d, s)) => ⟨t, q, d, s⟩

def readStruct (v : Value) : Reading TypeDef := do
  let r ← Record.ofValue v
  let kind := Record.optional r "kind" () (readKind "struct")
  let fields := Record.optional r "fields" [] (readMapping readField)
  ((kind.both fields).also (Record.strangers r ["kind", "fields"])).map fun p => .struct p.2

def readEnum (v : Value) : Reading TypeDef := do
  let r ← Record.ofValue v
  let kind := Record.optional r "kind" () (readKind "enum")
  let members := Record.required r "members" (readMapping readInteger)
  ((kind.both members).also (Record.strangers r ["kind", "members"])).map fun p => .enum p.2

def bareParam (name : String) : Param :=
  ⟨name, ⟨"any", false⟩, false, .null, none⟩

def readParam : Value → Reading Param
  | .str s => .ok (bareParam s)
  | v => do
    let r ← Record.ofValue v
    let name := Record.required r "name" readText
    let type := Record.optional r "type_ref" ⟨"any", false⟩ readTypeRef
    let default := Record.optional r "default" .null .ok
    let description := Record.optional r "description" none readText?
    let parts := (name.both type).both (default.both description)
    let known := ["name", "type_ref", "default", "description"]
    (parts.also (Record.strangers r known)).map fun ((n, t), (d, s)) =>
      ⟨n, t, (get? r "default").isSome, d, s⟩

def readParams (position : Nat) : List Value → Reading (List Param)
  | [] => .ok []
  | v :: rest =>
    ((v.readParam.within (.index position)).both (readParams (position + 1) rest)).map
      fun (p, ps) => p :: ps

/-- The members of a parameter list; null is an empty one. -/
def paramMembers? : Value → Option (List Value)
  | .null => some []
  | v => v.members?

/-- A method. A parameter list without members is a fault of its own. -/
def readMethod (v : Value) : Except Failure Method := do
  let r ← (Record.ofValue v).mapError .invalid
  let some params := paramMembers? ((get? r "params").getD .null)
    | .error (.fault .notIterable)
  let name := Record.required r "name" readText
  let params := (readParams 0 params).within (.name "params")
  let returns := Record.optional r "returns" none readTypeRef?
  let description := Record.optional r "description" none readText?
  let parts := (name.both params).both (returns.both description)
  let known := ["name", "params", "returns", "description"]
  ((parts.also (Record.strangers r known)).map fun ((n, ps), (t, d)) =>
    (⟨n, ps, t, d⟩ : Method)).mapError .invalid

def readEvent (name type description : Value) : Except Failure Event :=
  let name := name.readText.within (.name "name")
  let type := type.readTypeRef?.within (.name "type_ref")
  let description := description.readText?.within (.name "description")
  ((name.both (type.both description)).map fun (n, (t, d)) =>
    (⟨n, t, d⟩ : Event)).mapError .invalid

end Value

end Farcall
