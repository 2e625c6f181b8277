import Farcall.Codec
import Farcall.Emission.Target
import Farcall.Text.Identifier

/-!
# Python proxies

A proxy in Python is a class that only declares data: codecs of the enumerations and the tree of
namespaces and methods, as a list of statements. Names that would hide a part of the proxy are
refused, and so is a class name that is no identifier.
-/

namespace Farcall.Python

def keywords : List String :=
  ["False", "None", "True", "and", "as", "assert", "async", "await", "break", "class", "continue",
    "def", "del", "elif", "else", "except", "finally", "for", "from", "global", "if", "import",
    "in", "is", "lambda", "nonlocal", "not", "or", "pass", "raise", "return", "try", "while",
    "with", "yield"]

def isName (s : String) : Bool :=
  Text.isIdentifier s && s ∉ keywords

def proxyAttributes : List String :=
  ["add_listener", "close", "closed", "declared_events", "emit", "event_names", "listener_count",
    "listeners", "off", "on", "remove_all_listeners", "remove_listener", "transport", "url",
    "use_http", "use_socket"]

def isReserved (name : String) : Bool :=
  name.toList.head? == some '_' || name ∈ proxyAttributes

def checkMembers : List String → Except Failure Unit
  | [] => .ok ()
  | m :: rest =>
    if isReserved m then .error (.argument (.shadowsProxy m)) else checkMembers rest

def checkLabels (enum : String) : List String → Except Failure Unit
  | [] => .ok ()
  | l :: rest =>
    if Codec.isReserved l then .error (.argument (.reservedLabel enum l))
    else checkLabels enum rest

/-- The enumerations must not hide anything, neither a member of the proxy. Bytes do not begin with a
text, and other values than texts do not begin with anything. -/
def checkEnums (members : List String) : List (Value × List (String × Int)) → Except Failure Unit
  | [] => .ok ()
  | (.str name, ms) :: rest => do
    if isReserved name || name ∈ members then
      throw (.argument (.enumClash name))
    checkLabels name (ms.map Prod.fst)
    checkEnums members rest
  | (.bytes _, _) :: _ => .error (.fault .wrongKind)
  | _ :: _ => .error (.fault .noAttribute)

def checkNames (e : Emission) : Except Failure Unit := do
  unless isName e.className do
    throw (.argument (.badClassName e.className))
  checkMembers e.rootMembers
  checkEnums e.rootMembers e.service.enums

/-- The code points that a character in a literal is read as. Each escape is a code point of its own,
so a character beyond the sixteen-bit range is read as two halves. -/
def readChar (c : Char) : List Nat :=
  if c.toNat < 0x10000 then [c.toNat]
  else [0xD800 + (c.toNat - 0x10000) / 0x400, 0xDC00 + (c.toNat - 0x10000) % 0x400]

def readLiteral (s : String) : List Nat :=
  s.toList.flatMap readChar

def readsBack (s : String) : Bool :=
  readLiteral s == s.toList.map Char.toNat

def docChars : List Char → List Char
  | '\"' :: '\"' :: '\"' :: rest =>
    ['\\', '\"', '\\', '\"', '\\', '\"'] ++ docChars rest
  | '\\' :: rest => '\\' :: '\\' :: docChars rest
  | c :: rest => c :: docChars rest
  | [] => []

def docText (s : String) : String :=
  String.ofList (docChars s.toList)

def paramDoc (p : Param) : String :=
  s!":param {p.name}: ({p.type.text})" ++ (if p.optional then " optional" else "") ++
    (match p.description with
      | none => ""
      | some "" => ""
      | some d => " " ++ d)

def methodDoc (m : Method) : Option String :=
  let description := (m.description.filter (· ≠ "")).toList
  let gap := if description.isEmpty || m.params.isEmpty then [] else [""]
  let returns := match m.returns with
    | some r => [s!":returns: {r.text}"]
    | none => []
  let text := "\n".intercalate (description ++ gap ++ m.params.map paramDoc ++ returns)
  if text.isEmpty then none else some text

/-- A statement of a generated class. -/
inductive Statement where
  /-- Defines the codec of an enumeration in the class body. -/
  | enum (name : String) (members : List (String × Int))
  | tree
  | addNamespace (path : String)
  | addMethod (name : String) (params : List String) (expectReturn : Bool) (doc : Option String)
  | events (names : List String)
  /-- Attaches the codec of an enumeration after the class, under a name no statement can assign. -/
  | attach (name : String) (members : List (String × Int))

namespace Statement

def indent : String := "    "

def tuple : List String → String
  | [x] => "(" ++ x ++ ",)"
  | xs => "(" ++ ", ".intercalate xs ++ ")"

def codec [Alphabet] (name : String) (members : List (String × Int)) : String :=
  "EnumCodec(" ++ Literal.text name ++ ", " ++ Literal.members members ++ ")"

def truth (b : Bool) : String :=
  if b then "True" else "False"

def lines [Alphabet] (className : String) : Statement → List String
  | .enum name members => [indent ++ name ++ " = " ++ codec name members]
  | .tree => [indent ++ "_tree = NamespaceNode()"]
  | .addNamespace path => [indent ++ "_tree.add_namespace(" ++ Literal.text path ++ ")"]
  | .addMethod name params expectReturn doc =>
    let inner := indent ++ indent
    [indent ++ "_tree.add_method(MethodStub(",
      inner ++ Literal.text name ++ ",",
      inner ++ tuple (params.map Literal.text) ++ ",",
      inner ++ "expect_return=" ++ truth expectReturn ++ ","] ++
      (match doc with
        | some d => [inner ++ "doc=" ++ Literal.text d ++ ","]
        | none => []) ++
      [indent ++ "))"]
  | .events names =>
    [indent ++ "_declared_events = ("] ++
      (names.map fun n => indent ++ indent ++ Literal.text n ++ ",") ++ [indent ++ ")"]
  | .attach name members =>
    ["setattr(" ++ className ++ ", " ++ Literal.text name ++ ", " ++ codec name members ++ ")"]

end Statement

def enumStatements (name : Value) (members : List (String × Int)) : List Statement :=
  match name with
  | .str s => if isName s then [.enum s members] else []
  | _ => []

def attachStatements (name : Value) (members : List (String × Int)) : List Statement :=
  match name with
  | .str s => if isName s then [] else [.attach s members]
  | _ => []

def methodStatement (m : Method) : Statement :=
  .addMethod m.name (m.params.map Param.name) m.expectsReturn (methodDoc m)

def eventStatements (events : List Event) : List Statement :=
  if events.isEmpty then [] else [.events (events.map Event.name)]

def statements (s : Service) : List Statement :=
  s.enums.flatMap (fun (name, ms) => enumStatements name ms) ++ [.tree] ++
    s.namespaces.map .addNamespace ++ s.methods.map methodStatement ++
    eventStatements s.events ++ s.enums.flatMap (fun (name, ms) => attachStatements name ms)

def header (e : Emission) : List String :=
  let title := docText e.title
  ["\"\"\"",
    "Client proxy for " ++ title ++ ".",
    "",
    "Generated by jsonws. Do not edit.",
    "\"\"\"",
    "",
    "from jsonws.runtime import EnumCodec, MethodStub, NamespaceNode, ProxyBase",
    "",
    "",
    "class " ++ e.className ++ "(ProxyBase):",
    Statement.indent ++ "\"\"\"" ++ title ++ " proxy.\"\"\""]

def linesOf [Alphabet] (e : Emission) (ss : List Statement) : List String :=
  ss.flatMap (Statement.lines e.className)

def closing [Alphabet] (e : Emission) : List String :=
  match e.service.enums.flatMap fun (name, ms) => attachStatements name ms with
  | [] => []
  | ss => "" :: linesOf e ss

def target [Alphabet] : Target where
  name := "Python"
  kind := "PythonEmitter"
  extension := ".py"
  indent := Statement.indent
  separateItems := false
  opening e := do
    checkNames e
    return header e
  enum e name members := do
    Literal.checkValues members
    return linesOf e (enumStatements name members)
  treeOpening e := .ok (linesOf e [.tree])
  scope e path := .ok (linesOf e [.addNamespace path])
  method e m := .ok (linesOf e [methodStatement m])
  events e events := .ok (linesOf e (eventStatements events))
  closing e := .ok (closing e)

end Farcall.Python
