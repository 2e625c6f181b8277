import Farcall.Name
import Farcall.Value

/-!
# Definitions

What a service is made of: types, methods and events, all with fully qualified dotted names. Names and
other texts are made of Unicode scalar values, unless they are in an alphabet with halves.
-/

namespace Farcall

structure TypeRef where
  name : String
  isArray : Bool
deriving DecidableEq, Inhabited

namespace TypeRef

def text (r : TypeRef) : String :=
  if r.isArray then r.name ++ "[]" else r.name

/-- A reference from its written form: a name, or a list of one name for an array. -/
def ofValue? : Value → Option TypeRef
  | .str s => some ⟨s, false⟩
  | .list [.str s] => some ⟨s, true⟩
  | .tuple [.str s] => some ⟨s, true⟩
  | _ => none

def builtin : List String :=
  ["*", "any", "int", "integer", "number", "float", "date", "bool", "boolean", "string", "url",
    "object", "json", "buffer", "binary", "error"]

def asyncMarker : String := "async"

end TypeRef

structure Field where
  type : TypeRef
  required : Bool
  default : Value
  description : Option String
deriving Inhabited

inductive TypeDef where
  /-- Labels with distinct integers. -/
  | enum (members : List (String × Int))
  | struct (fields : List (String × Field))
deriving Inhabited

/-- A positional parameter; it is optional exactly when a default was written, even a null one. -/
structure Param where
  name : String
  type : TypeRef
  optional : Bool
  default : Value
  description : Option String
deriving Inhabited

structure Method where
  name : String
  params : List Param
  returns : Option TypeRef
  description : Option String
deriving Inhabited

namespace Method

def scope (m : Method) : String :=
  Name.parent m.name

def isAsync (m : Method) : Bool :=
  match m.returns with
  | some r => r.name == TypeRef.asyncMarker
  | none => false

def expectsReturn (m : Method) : Bool :=
  m.returns.isSome

end Method

structure Event where
  name : String
  type : Option TypeRef
  description : Option String
deriving Inhabited

def Event.scope (e : Event) : String :=
  Name.parent e.name

end Farcall
