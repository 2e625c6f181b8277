import Farcall.Failure

/-!
# Enumeration accessors

A codec leads from the labels of an enumeration to its integers and back. Labels are also
attributes of it, so a label may not hide one of its own, and no two labels share an integer.
-/

namespace Farcall

/-- The accessor of an enumeration. -/
structure Codec where
  name : String
  entries : List (String × Value)
deriving Inhabited

namespace Codec

def isReserved (label : String) : Bool :=
  label.toList.head? == some '_' || label == "items"

def distinctValues (entries : List (Value × Value)) : List Value :=
  entries.foldl (fun seen e => if seen.any e.2.same then seen else seen ++ [e.2]) []

def checkLabels (name : String) : List (Value × Value) → Except Failure (List (String × Value))
  | [] => .ok []
  | (.str label, v) :: rest =>
    if isReserved label then .error (.usage (.reservedCodecLabel name label))
    else (checkLabels name rest).map ((label, v) :: ·)
  | _ :: _ => .error (.fault .noAttribute)

def ofEntries (name : String) (entries : List (Value × Value)) : Except Failure Codec := do
  unless entries.all (·.2.hashable) do
    throw (.fault .notHashable)
  unless (distinctValues entries).length = entries.length do
    throw (.usage (.duplicateCodecValues name))
  return ⟨name, ← checkLabels name entries⟩

def ofMembers (name : String) (members : List (String × Int)) : Except Failure Codec :=
  ofEntries name (members.map fun (label, n) => (.str label, .int n))

def value? (c : Codec) (label : String) : Option Value :=
  c.entries.lookup label

def label? (c : Codec) (v : Value) : Option String :=
  (c.entries.find? fun e => e.2.same v).map Prod.fst

def call (c : Codec) : Value → Except Failure Value
  | .int n =>
    match c.label? (.int n) with
    | some label => .ok (.str label)
    | none => .error (.usage (.notAValue c.name n))
  | .str label =>
    match c.value? label with
    | some v => .ok v
    | none => .error (.usage (.notALabel c.name label))
  | v => .error (.usage (.badCodecKey c.name v.kindName))

def contains (c : Codec) (key : Value) : Except Failure Bool :=
  if !key.hashable then .error (.fault .notHashable)
  else .ok (c.entries.any fun e => (Value.str e.1).same key || e.2.same key)

def labels (c : Codec) : List String :=
  c.entries.map Prod.fst

inductive Attribute where
  /-- The value of a label. -/
  | value (v : Value)
  /-- Something that the accessor works with itself. -/
  | own

def storage : List String := ["_enum_name", "_enum_members", "_enum_labels"]

/-- The attribute that marks an accessor as complete: nothing is set after it. -/
def completion : String := "_EnumCodec__frozen"

def shared : List String :=
  ["items", "__call__", "__contains__", "__delattr__", "__dir__", "__doc__", "__eq__", "__format__",
    "__ge__", "__getattribute__", "__getstate__", "__gt__", "__hash__", "__init__",
    "__init_subclass__", "__iter__", "__le__", "__len__", "__lt__", "__module__", "__ne__",
    "__new__", "__reduce__", "__reduce_ex__", "__repr__", "__setattr__", "__sizeof__", "__str__",
    "__subclasshook__"]

def fixed : List String := ["__class__", "__dict__", "__weakref__"]

def assignments (c : Codec) : List (String × Attribute) :=
  storage.map (·, .own) ++ c.entries.map (fun (label, v) => (label, .value v)) ++
    [(completion, .own)]

/-- What an attribute holds: what it was set to last, unless all accessors share it. -/
def attribute? (c : Codec) (name : String) : Option Attribute :=
  if name ∈ fixed then some .own
  else (c.assignments.reverse.lookup name).or (if name ∈ shared then some .own else none)

def shown (c : Codec) : String :=
  let pairs := c.entries.map fun (label, v) => label ++ "=" ++ v.plain
  "EnumCodec(" ++ c.name ++ ": " ++ ", ".intercalate pairs ++ ")"

end Codec

end Farcall
