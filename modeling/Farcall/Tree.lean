import Farcall.Failure
import Farcall.Name

/-!
# Trees of methods

The methods of a proxy, arranged by namespace. A namespace must be attached before what lies in it,
and a place is taken once. A name without a namespace of its own, also one whose namespace is
empty, lies at the root.
-/

namespace Farcall

structure Stub where
  name : String
  params : List String
  expectReturn : Bool
  doc : Option String
deriving DecidableEq, Inhabited

def Stub.shown (s : Stub) : String :=
  "MethodStub(" ++ s.name ++ "(" ++ ", ".intercalate s.params ++ "))"

/-- A namespace with its children in the order in which they were attached, or a method. -/
inductive Tree where
  | scope (path : String) (children : List (String × Tree))
  | method (stub : Stub)
deriving Inhabited

namespace Tree

def empty (path : String) : Tree := .scope path []

def children : Tree → List (String × Tree)
  | .scope _ cs => cs
  | .method _ => []

def replace (key : String) (t : Tree) (cs : List (String × Tree)) : List (String × Tree) :=
  cs.map fun c => if c.1 = key then (key, t) else c

/-- The children after `node` was attached under `leaf`, in the namespace that `path` leads to. -/
def attachAt (name leaf : String) (node : Tree) :
    List String → List (String × Tree) → Except Failure (List (String × Tree))
  | [], cs =>
    match cs.lookup leaf with
    | some _ => .error (.usage (.nodeExists name))
    | none => .ok (cs ++ [(leaf, node)])
  | key :: path, cs =>
    match cs.lookup key with
    | some (.scope p inner) => do
      return replace key (.scope p (← attachAt name leaf node path inner)) cs
    | _ => .error (.usage (.namespaceMissing (Name.parent name) name))

def parentPath (name : String) : List String :=
  if Name.parent name = "" then [] else Name.segments (Name.parent name)

def attach (root : Tree) (name : String) (node : Tree) : Except Failure Tree :=
  match root with
  | .scope p cs => do
    return .scope p (← attachAt name (Name.leaf name) node (parentPath name) cs)
  | .method _ => .error (.usage (.namespaceMissing (Name.parent name) name))

def addNamespace (root : Tree) (path : String) : Except Failure Tree :=
  root.attach path (.empty path)

def addMethod (root : Tree) (stub : Stub) : Except Failure Tree :=
  root.attach stub.name (.method stub)

def find? : Tree → List String → Option Tree
  | t, [] => some t
  | .scope _ cs, key :: path => (cs.lookup key).bind fun c => c.find? path
  | .method _, _ :: _ => none

def visibleNames (t : Tree) : List String :=
  (t.children.map Prod.fst).filter fun k => k.toList.head? ≠ some '_'

def shown : Tree → String
  | .scope p cs =>
    "NamespaceNode(" ++ (if p = "" then "<root>" else p) ++ ", " ++
      (Value.list (cs.map fun c => .str c.1)).shown ++ ")"
  | .method s => s.shown

def boundShown (t : Tree) : String :=
  match t with
  | .scope p _ => "<Namespace " ++ p ++ ": " ++ ", ".intercalate t.visibleNames ++ ">"
  | .method s => s.shown

end Tree

end Farcall
