import Farcall.Settings
import Farcall.Target.JavaScript
import Farcall.Target.Python

/-!
# The catalog of targets

The targets by language. Languages are looked up without regard to case, and a target registered
later takes the place of an earlier one of the same language.
-/

namespace Farcall

/-- Targets under their languages in lower case, in the order in which the languages came. -/
structure Catalog where
  entries : List (String × Target)

namespace Catalog

def put (key : String) (t : Target) : List (String × Target) → List (String × Target)
  | [] => [(key, t)]
  | e :: rest => if e.1 = key then (key, t) :: rest else e :: put key t rest

def register (c : Catalog) (t : Target) : Except Failure Catalog :=
  if t.name.isEmpty then .error (.usage .unnamedEmitter)
  else .ok ⟨put (Text.lower t.name) t c.entries⟩

def standard [Alphabet] : Catalog :=
  ⟨[(Text.lower JavaScript.target.name, JavaScript.target),
    (Text.lower Python.target.name, Python.target)]⟩

instance : Inhabited Catalog := ⟨standard⟩

def insertSorted (s : String) : List String → List String
  | [] => [s]
  | t :: rest => if s < t then s :: t :: rest else t :: insertSorted s rest

def languages (c : Catalog) : List String :=
  c.entries.foldl (fun acc e => insertSorted e.2.name acc) []

def find (c : Catalog) (language : Value) : Except Failure Target :=
  let missing : Failure := .package (.unsupportedLanguage (.str language.plain) c.languages)
  match language with
  | .str s =>
    match c.entries.lookup (Text.lower s) with
    | some t => .ok t
    | none => .error missing
  | _ => .error missing

def compile (c : Catalog) (s : Service) (language : Value) (className : String) :
    Except Failure String := do
  (← c.find language).compile ⟨s, className⟩

/-- The proxy of a service; an empty class name or none leaves the choice to the settings. -/
def proxy (c : Catalog) (settings : Settings) (s : Service) (language : Value)
    (className : Option String) : Except Failure String := do
  let t ← c.find language
  c.compile s (.str t.name) ((className.filter (· ≠ "")).getD settings.className)

end Catalog

end Farcall
