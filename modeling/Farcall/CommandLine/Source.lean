import Farcall.Description

/-!
# Sources

The service that a word of the command line names: a description file, or an attribute of a module
that is a service or makes one.
-/

namespace Farcall.CommandLine

inductive Entry where
  | file (content : List UInt8)
  | directory

inductive Attribute where
  | service (s : Service)
  /-- A callable and what it returns, if that is a service. -/
  | factory (made : Option Service)
  | other

/-- What a command finds around it. -/
structure Host where
  /-- The name the program is called by. -/
  program : String
  environment : List (String × String)
  /-- What there is at normal paths. -/
  entries : List (String × Entry)
  /-- The modules by name, with their attributes. -/
  modules : List (String × List (String × Attribute))

def Host.entry? (h : Host) (path : String) : Option Entry :=
  h.entries.lookup (Description.normalPath path)

@[reducible] def Host.alphabet (h : Host) (words : List String) : Alphabet :=
  let files := h.entries.filterMap fun
    | (_, .file content) => Text.utf8? content
    | (_, .directory) => none
  let texts := words ++ h.environment.map (·.2) ++ files
  .avoiding (Description.codePoints (texts.flatMap String.toList))

def fileService [Alphabet] (h : Host) (path : String) : Except Failure Service :=
  match h.entry? path with
  | some .directory => .error (.fault (.isDirectory (Description.normalPath path)))
  | some (.file content) => Description.load path (some content)
  | none => Description.load path none

/-- Why a module is not found, if so. A module is found only if those are that its name starts
with. -/
def missingModule? (h : Host) (name : String) : Option String :=
  if (h.modules.lookup name).isSome then none
  else
    let first := (name.splitOn ".").headD ""
    if (h.modules.lookup first).isSome then
      let found := ".".intercalate ((name.splitOn ".").take 2)
      some s!"No module named {Text.quoted found}; {Text.quoted first} is not a package"
    else some s!"No module named {Text.quoted first}"

def attributeService (h : Host) (source moduleName name : String) :
    Except Failure Service :=
  if moduleName.startsWith "." then .error (.fault .badArguments)
  else
    match missingModule? h moduleName with
    | some reason => .error (.argument (.cannotImport source reason))
    | none =>
      match ((h.modules.lookup moduleName).getD []).lookup name with
      | none => .error (.argument (.cannotImport source
          s!"module {Text.quoted moduleName} has no attribute {Text.quoted name}"))
      | some (.service s) => .ok s
      | some (.factory (some s)) => .ok s
      | some _ => .error (.argument (.notAService source))

def sourceService [Alphabet] (h : Host) (source : String) : Except Failure Service :=
  if Description.isDescription source then fileService h source
  else
    let cs := source.toList
    let moduleName := String.ofList (cs.takeWhile (· != ':'))
    let name := String.ofList ((cs.dropWhile (· != ':')).drop 1)
    if moduleName.isEmpty || name.isEmpty then .error (.argument (.notASource source))
    else attributeService h source moduleName name

end Farcall.CommandLine
