import Farcall.Failure
import Farcall.Json.Writer

/-!
# Literals

Values as literals of the generated code. JSON restricted to printable ASCII is a literal in every
target language. A character beyond the sixteen-bit range is written as two halves, and so are two
halves that an alphabet brings in.
-/

namespace Farcall.Literal

def text [Alphabet] (s : String) : String :=
  Json.quote true s

/-- Any value; one without a JSON text has no literal. -/
def value [Alphabet] (v : Value) : Except Failure String :=
  (Json.write Json.spaced v).mapError fun u => .fault u.fault

def mapping [Alphabet] (entries : List (String × String)) : String :=
  "\x7b" ++ ", ".intercalate (entries.map fun (k, v) => text k ++ ": " ++ v) ++ "\x7d"

def checkValues : List (String × Int) → Except Failure Unit
  | [] => .ok ()
  | (_, n) :: rest => do
    let _ ← (Json.writeInt n).mapError fun u => .fault u.fault
    checkValues rest

def members [Alphabet] (ms : List (String × Int)) : String :=
  mapping (ms.map fun (label, n) => (label, toString n))

def labels [Alphabet] (ms : List (String × Int)) : String :=
  mapping (ms.map fun (label, n) => (toString n, text label))

end Farcall.Literal
