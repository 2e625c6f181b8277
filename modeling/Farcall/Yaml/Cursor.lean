/-!
# Positions in a text

A text being read, with the line and column reached. Lines end at a line feed, a next-line, a line
separator or a paragraph separator; a byte order mark takes no column.
-/

namespace Farcall.Yaml

def isBreak (c : Char) : Bool :=
  c == '\n' || c == '\x85' || c == '\u2028' || c == '\u2029'

def isGap (c : Char) : Bool :=
  c == ' ' || c == '\t'

def isAt (c : Char) (x : Option Char) : Bool :=
  x == some c

def endsLine : Option Char → Bool
  | none => true
  | some c => isBreak c

def endsField : Option Char → Bool
  | none => true
  | some c => isBreak c || c == ' '

def endsWord : Option Char → Bool
  | none => true
  | some c => isBreak c || isGap c

def byteOrderMark : Char := '\ufeff'

/-- A text from some position on. -/
structure Cursor where
  rest : List Char
  /-- The number of characters before. -/
  index : Nat
  line : Nat
  column : Nat

namespace Cursor

def start (s : String) : Cursor :=
  ⟨s.toList, 0, 0, 0⟩

def next (c : Cursor) : Cursor :=
  match c.rest with
  | [] => c
  | ch :: rest =>
    if isBreak ch then ⟨rest, c.index + 1, c.line + 1, 0⟩
    else ⟨rest, c.index + 1, c.line, if ch == byteOrderMark then c.column else c.column + 1⟩

def advance : Nat → Cursor → Cursor
  | 0, c => c
  | n + 1, c => advance n c.next

def peek (c : Cursor) : Option Char :=
  c.rest.head?

def peekAt (c : Cursor) (n : Nat) : Option Char :=
  c.rest[n]?

def span (p : Char → Bool) (c : Cursor) : List Char × Cursor :=
  let taken := c.rest.takeWhile p
  (taken, c.advance taken.length)

def skip (p : Char → Bool) (c : Cursor) : Cursor :=
  (c.span p).2

def skipSpaces (c : Cursor) : Cursor :=
  c.skip (· == ' ')

def skipComment (c : Cursor) : Cursor :=
  if isAt '#' c.peek then c.skip (!isBreak ·) else c

def lineEnd? (c : Cursor) : Option (Char × Cursor) :=
  match c.peek with
  | some ch =>
    if isBreak ch then some (if ch == '\x85' then '\n' else ch, c.next) else none
  | none => none

def skipLineEnd (c : Cursor) : Cursor :=
  match c.lineEnd? with
  | some (_, c) => c
  | none => c

def hasMark (ch : Char) (c : Cursor) : Bool :=
  c.rest.take 3 == [ch, ch, ch] && endsWord (c.peekAt 3)

def hasDocumentMark (c : Cursor) : Bool :=
  c.hasMark '-' || c.hasMark '.'

end Cursor

end Farcall.Yaml
