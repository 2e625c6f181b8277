import Farcall.Emission.Literal
import Farcall.Service.Registry

/-!
# Targets

A target writes client proxies in one language: it turns each piece of a service into lines. What is
written and in which order is the same for all targets, and so are the empty lines between
sections.
-/

namespace Farcall

/-- One compilation: a service and the name of the class to write. -/
structure Emission where
  service : Service
  className : String

namespace Emission

def namespaces (e : Emission) : List String :=
  e.service.namespaces

/-- What the proxy itself holds: the outermost namespaces, then the methods outside all. -/
def rootMembers (e : Emission) : List String :=
  Name.firsts ((e.namespaces ++ e.service.methodNames).filter fun n => !n.toList.contains '.')

/-- The service's name and version; an unnamed service goes by the class name. -/
def title (e : Emission) : String :=
  let name :=
    if e.service.friendlyName.truthy then e.service.friendlyName.plain else e.className
  Text.trim (name ++ " " ++ e.service.version.plain)

end Emission

abbrev Lines := Except Failure (List String)

/-- How a language writes each piece of a proxy. -/
structure Target where
  name : String
  kind : String
  extension : String
  indent : String
  /-- Whether an empty line stands between enumerations and between methods. -/
  separateItems : Bool
  opening : Emission → Lines
  enum : Emission → Value → List (String × Int) → Lines
  treeOpening : Emission → Lines
  scope : Emission → String → Lines
  method : Emission → Method → Lines
  events : Emission → List Event → Lines
  closing : Emission → Lines

namespace Target

def silent (name kind : String) : Target where
  name := name
  kind := kind
  extension := ""
  indent := "    "
  separateItems := false
  opening _ := .ok []
  enum _ _ _ := .ok []
  treeOpening _ := .ok []
  scope _ _ := .ok []
  method _ _ := .ok []
  events _ _ := .ok []
  closing _ := .ok []

instance : Inhabited Target := ⟨silent "" ""⟩

def shown (t : Target) : String :=
  t.kind ++ "(" ++ Text.quoted t.name ++ ")"

def each {α : Type} (f : α → Lines) : List α → Except Failure (List (List String))
  | [] => .ok []
  | a :: rest => do
    let lines ← f a
    let more ← each f rest
    return lines :: more

/-- The nonempty chunks one after the other, with an empty line between two of them if `separate`
holds. -/
def joinChunks (separate : Bool) (chunks : List (List String)) : List String :=
  (if separate then [""] else []).intercalate (chunks.filter (!·.isEmpty))

def sections (t : Target) (e : Emission) : Except Failure (List (List String)) := do
  let opening ← t.opening e
  let enums ← each (fun (name, members) => t.enum e name members) e.service.enums
  let treeOpening ← t.treeOpening e
  let scopes ← each (t.scope e) e.namespaces
  let methods ← each (t.method e) e.service.methods
  let events ← t.events e e.service.events
  let closing ← t.closing e
  return [opening, joinChunks t.separateItems enums, treeOpening ++ scopes.flatten,
    joinChunks t.separateItems methods, events, closing]

/-- The lines of a proxy: the nonempty sections, an empty line between two of them. -/
def lines (t : Target) (e : Emission) : Except Failure (List String) := do
  return joinChunks true (← t.sections e)

def compile (t : Target) (e : Emission) : Except Failure String := do
  return "\n".intercalate (← t.lines e) ++ "\n"

end Target

end Farcall
