import Farcall.Target.Python
import Farcall.Text.Compatibility
import Farcall.Tree

/-!
# Proxy classes

What the statements of a generated class define: codecs, a tree of methods and the declared events.
A name assigned in the class body hides an imported one of the same name from the statements after
it, and the class hides one from the statements that follow the class. Assigned names count in their
identifier form; texts are what their literals are read as, so a name that does not read back is
there but answers to no text.
-/

namespace Farcall

structure ProxyClass where
  name : String
  /-- Whether the texts of the class were read from literals. -/
  fromLiterals : Bool
  enums : List (String × Codec)
  tree : Tree
  /-- The code points of the declared events. -/
  events : List (List Nat)
deriving Inhabited

namespace ProxyClass

def ofTree (name : String) (tree : Tree) : ProxyClass :=
  ⟨name, false, [], tree, []⟩

def bare (name : String) : ProxyClass :=
  ⟨name, true, [], .empty "", []⟩

def codecName : String := "EnumCodec"

def treeName : String := "NamespaceNode"

def stubName : String := "MethodStub"

def setterName : String := "setattr"

/-- An imported name must not be hidden by the codec of an enumeration. -/
def checkVisible (c : ProxyClass) (name : String) : Except Failure Unit :=
  if (c.enums.lookup name).isSome then .error (.fault .badArguments) else .ok ()

def assign (c : ProxyClass) (name : String) (codec : Codec) : ProxyClass :=
  { c with enums := c.enums.filter (·.1 ≠ name) ++ [(name, codec)] }

def execute (c : ProxyClass) : Python.Statement → Except Failure ProxyClass
  | .enum name members => do
    c.checkVisible codecName
    return c.assign (Text.identifierForm name) (← Codec.ofMembers name members)
  | .tree => do
    c.checkVisible treeName
    return { c with tree := .empty "" }
  | .addNamespace path => do return { c with tree := ← c.tree.addNamespace path }
  | .addMethod name params expectReturn doc => do
    c.checkVisible stubName
    return { c with tree := ← c.tree.addMethod ⟨name, params, expectReturn, doc⟩ }
  | .events names => .ok { c with events := names.map Python.readLiteral }
  | .attach name members =>
    if c.name = codecName ∨ c.name = setterName then .error (.fault .badArguments)
    else do
      return c.assign name (← Codec.ofMembers name members)

def ofStatements (name : String) (ss : List Python.Statement) : Except Failure ProxyClass :=
  ss.foldlM execute (bare name)

/-- The one identifier, not a keyword, that nothing can be assigned to. -/
def constantName : String := "__debug__"

/-- The class that the program of a proxy defines. A program holds no null character, which only the
title brings in as it is. -/
def ofProgram (e : Emission) : Except Failure ProxyClass :=
  if e.title.toList.contains '\x00' ∨ Text.identifierForm e.className = constantName then
    .error (.fault .badProgram)
  else ofStatements (Text.identifierForm e.className) (Python.statements e.service)

def ofService (s : Service) (name : String) : Except Failure ProxyClass := do
  let e : Emission := ⟨s, name⟩
  let _ ← Python.target.compile e
  let c ← ofProgram e
  unless c.name = name do
    throw (.fault .noKey)
  return c

def answersTo (c : ProxyClass) (text : String) : Bool :=
  !c.fromLiterals || Python.readsBack text

/-- The codec under a name. Names that are identifiers were never literals. -/
def enum? (c : ProxyClass) (name : String) : Option Codec :=
  if Text.isIdentifier name || c.answersTo name then c.enums.lookup name else none

def member? (c : ProxyClass) (path : List String) : Option Tree :=
  if path.all c.answersTo then c.tree.find? path else none

def properties : List String := ["url", "transport", "declared_events", "closed"]

def hiddenAttributes : List String :=
  ["__aenter__", "__aexit__", "__annotations__", "__class__", "__delattr__", "__dict__", "__dir__",
    "__doc__", "__eq__", "__format__", "__ge__", "__getattribute__", "__getstate__", "__gt__",
    "__hash__", "__init__", "__init_subclass__", "__le__", "__lt__", "__module__", "__name__",
    "__ne__", "__new__", "__qualname__", "__reduce__", "__reduce_ex__", "__repr__", "__setattr__",
    "__sizeof__", "__str__", "__subclasshook__", "__weakref__", "__mro__", "__bases__", "__base__",
    "__call__", "__subclasses__", "__instancecheck__", "__subclasscheck__", "__prepare__",
    "__basicsize__", "__itemsize__", "__flags__", "__weakrefoffset__", "__dictoffset__", "__or__",
    "__ror__", "__text_signature__", "__abstractmethods__", "_declared_events", "_deliver",
    "_first_listener_added", "_handle_notification", "_invoke", "_last_listener_removed", "_tree",
    "mro"]

/-- Whether the codec of an enumeration is the attribute that a key names. Keys were literals, but a
codec under an identifier was assigned to the identifier itself. -/
def hasCodec (c : ProxyClass) (key : String) : Bool :=
  (c.enums.lookup key).isSome && (c.answersTo key || !Text.isIdentifier key)

/-- Whether the class has an attribute that a member of the proxy would hide. -/
def hasAttribute (c : ProxyClass) (key : String) : Bool :=
  key ∈ Python.proxyAttributes || key ∈ hiddenAttributes || c.hasCodec key

def shadows (c : ProxyClass) : List String :=
  (c.tree.children.map Prod.fst).filter c.hasAttribute

/-- A key as messages show it. What a character beyond the sixteen-bit range was read as is
unprintable. -/
def quotedKey (c : ProxyClass) (key : String) : String :=
  if c.answersTo key then Text.quoted key
  else
    let quote := Text.chooseQuote key.toList
    let shown (d : Char) : List Char :=
      if d.toNat < 0x10000 then Text.quoteChar quote d
      else (Python.readChar d).flatMap Text.escapeCode
    String.ofList (quote :: key.toList.flatMap shown ++ [quote])

/-- What goes wrong when an attribute is assigned that every object has of its own. -/
def fixedFault? : String → Option Fault
  | "__class__" => some .badArguments
  | "__dict__" => some .badArguments
  | "__weakref__" => some .noAttribute
  | _ => none

mutual

/-- What goes wrong first when a node is bound. The members of a namespace become attributes of an
object, each after its own members. -/
def nodeFault? : Tree → Option Fault
  | .method _ => none
  | .scope _ cs => membersFault? cs

def membersFault? : List (String × Tree) → Option Fault
  | [] => none
  | (key, t) :: rest => ((nodeFault? t).or (fixedFault? key)).or (membersFault? rest)

end

/-- What goes wrong first when the tree is bound to a proxy, whose properties cannot be assigned. -/
def bindFault? (c : ProxyClass) : Option Fault :=
  c.tree.children.findSome? fun (key, t) =>
    (nodeFault? t).or (if key ∈ properties then some .noAttribute else fixedFault? key)

end ProxyClass

end Farcall
