import Farcall.Service.Document
import Farcall.Yaml.Document

/-!
# Description files

A service from a file. The suffix of a file's name tells whether it is a description at all; its
bytes are UTF-8, its text is a YAML document, and JSON texts are among these.
-/

namespace Farcall.Description

/-- The names along a path. -/
def parts (path : String) : List String :=
  ((path.toList.splitOn '/').map String.ofList).filter fun s => s ≠ "" ∧ s ≠ "."

def fileName (path : String) : String :=
  (parts path).getLastD ""

def normalPath (path : String) : String :=
  let joined := "/".intercalate (parts path)
  if path.startsWith "/" then "/" ++ joined
  else if joined.isEmpty then "."
  else joined

/-- The suffix of a name, from its last dot on; the dot is neither the first character nor the
last. -/
def suffix (name : String) : String :=
  let cs := name.toList
  let extension := (cs.reverse.takeWhile (· != '.')).reverse
  if extension.isEmpty || cs.length < extension.length + 2 then ""
  else String.ofList ('.' :: extension)

def isDescription (path : String) : Bool :=
  ArgumentFault.suffixes.contains (Text.lower (suffix (fileName path)))

def unifyLineEnds : List Char → List Char
  | [] => []
  | '\r' :: '\n' :: rest => '\n' :: unifyLineEnds rest
  | c :: rest => (if c == '\r' then '\n' else c) :: unifyLineEnds rest

/-- The code points that the texts of a document are made of: those of its characters, and those that
it writes with eight digits. -/
def codePoints : List Char → List Nat
  | [] => []
  | c :: rest =>
    let written := if c == 'U' then Yaml.hexNumber? (rest.take 8) else none
    c.toNat :: (written.toList ++ codePoints rest)

def problemText (line : Nat) (reason : String) : String :=
  if line = 0 then reason else s!"line {line}: {reason}"

def failure (file : String) : Yaml.Problem → Failure
  | .malformed line reason => .argument (.unparsable file (problemText line reason))
  | .fault f => .fault f

def document [Alphabet] (file : String) (content : List UInt8) : Except Failure Value :=
  match Text.utf8? content with
  | none => .error (.fault .notUnicode)
  | some s =>
    (Yaml.read (String.ofList (unifyLineEnds s.toList))).mapError (failure file)

/-- The service that the file at a path describes; `content` is what the file holds, if it is
there. -/
def load [Alphabet] (path : String) (content : Option (List UInt8)) : Except Failure Service := do
  if !isDescription path then .error (.argument (.unsupportedFile (fileName path)))
  else
    match content with
    | none => .error (.fault (.noFile (normalPath path)))
    | some bytes => Document.service (← document (fileName path) bytes)

end Farcall.Description
