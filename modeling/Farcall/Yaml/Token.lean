import Farcall.Failure
import Farcall.Yaml.Cursor

/-!
# Tokens

What a document is written with: scalars, the marks of flow collections, names given to nodes, and
the starts and ends of block collections, which are implied by indentation.
-/

namespace Farcall.Yaml

inductive Problem where
  /-- The text is not well formed; `line` is where this shows, zero if in no single line. -/
  | malformed (line : Nat) (reason : String)
  /-- A scalar has no value, or there is no room for a collection. -/
  | fault (f : Fault)

inductive Directive where
  /-- The version of the format the document is written in. -/
  | version (major minor : Nat)
  | tagHandle (handle start : String)
  /-- Any other directive, which has no effect. -/
  | unknown
deriving DecidableEq

inductive Token where
  | directive (d : Directive)
  | documentStart
  | documentEnd
  | sequenceStart
  | mappingStart
  | blockEnd
  | openBracket
  | closeBracket
  | openBrace
  | closeBrace
  | comma
  /-- The dash before an entry of a block sequence. -/
  | dash
  | key
  /-- What follows is the value of a key. -/
  | value
  | reference (name : String)
  /-- A name for the node that follows. -/
  | anchor (name : String)
  /-- A tag for the node that follows; without a handle the text is the whole tag. -/
  | tag (handle : Option String) (text : String)
  /-- A scalar; a plain one is not quoted in any way. -/
  | scalar (plain : Bool) (text : String)
  | streamEnd
  /-- The text is not read beyond this point. -/
  | broken (p : Problem)

def refuse {α : Type} (c : Cursor) (reason : String) : Except Problem α :=
  .error (.malformed (c.line + 1) reason)

end Farcall.Yaml
