import Farcall.Yaml.Block
import Farcall.Yaml.Label
import Farcall.Yaml.Plain

/-!
# Layout

The tokens of a text. Outside brackets the collections follow from the columns: a token left of the
open block ends it, and a dash or a key right of it starts a new one. A key without a question mark
is known only by the colon after it, so every token that may be such a key is remembered, and its
mark is put before it when the colon comes. Such a key is on one line and at most 1024 characters
long.
-/

namespace Farcall.Yaml

structure KeyPlace where
  /-- The number of tokens before it. -/
  place : Nat
  /-- Whether the token has no meaning except as a key. -/
  needed : Bool
  start : Cursor

/-- The tokens read so far and the state of the layout. -/
structure Layout where
  cursor : Cursor
  /-- The tokens, the latest first. -/
  tokens : List Token
  /-- The number of brackets that are open. -/
  depth : Nat
  /-- The column of the innermost open block, -1 outside of all blocks. -/
  indent : Int
  /-- The columns of the blocks around it. -/
  outer : List Int
  /-- Whether a key without a question mark may start here. -/
  keyAllowed : Bool
  /-- The tokens that may still be keys, by the number of brackets around them. -/
  keyPlaces : List (Nat × KeyPlace)

namespace Layout

def start (s : String) : Layout :=
  let c := Cursor.start s
  ⟨if isAt byteOrderMark c.peek then c.next else c, [], 0, -1, [], true, []⟩

def inFlow (l : Layout) : Bool :=
  0 < l.depth

def put (l : Layout) (t : Token) : Layout :=
  { l with tokens := t :: l.tokens }

/-- The layout with a token put before the latest ones, of which `place` stay before it. -/
def putAt (l : Layout) (place : Nat) (t : Token) : Layout :=
  let after := l.tokens.length - place
  { l with tokens := l.tokens.take after ++ t :: l.tokens.drop after }

def advance (l : Layout) (n : Nat) : Layout :=
  { l with cursor := l.cursor.advance n }

def allowKey (l : Layout) (allowed : Bool) : Layout :=
  { l with keyAllowed := allowed }

/-- The spaces, comments and line ends before the next token. The first argument bounds the number
of lines. -/
def skipBlanks : Nat → Layout → Layout
  | 0, l => l
  | fuel + 1, l =>
    let c := l.cursor.skipSpaces.skipComment
    match c.lineEnd? with
    | some (_, c) => skipBlanks fuel { l with cursor := c, keyAllowed := l.keyAllowed || !l.inFlow }
    | none => { l with cursor := c }

def keyLimit : Nat := 1024

def isStale (l : Layout) (k : KeyPlace) : Bool :=
  k.start.line != l.cursor.line || l.cursor.index - k.start.index > keyLimit

/-- Forgets some of the tokens that may be keys; none of them may be needed as one. -/
def forget (l : Layout) (p : Nat × KeyPlace → Bool) : Except Problem Layout :=
  if l.keyPlaces.any fun k => p k && k.2.needed then refuse l.cursor "a key lacks its colon"
  else .ok { l with keyPlaces := l.keyPlaces.filter (!p ·) }

def forgetHere (l : Layout) : Except Problem Layout :=
  l.forget (·.1 == l.depth)

def remember (l : Layout) : Except Problem Layout :=
  if l.keyAllowed then do
    let needed := !l.inFlow && l.indent == l.cursor.column
    let l ← l.forgetHere
    return { l with keyPlaces := (l.depth, ⟨l.tokens.length, needed, l.cursor⟩) :: l.keyPlaces }
  else .ok l

/-- Ends the blocks right of a column. The first argument bounds their number. -/
def endBlocksFrom : Nat → Int → Layout → Layout
  | 0, _, l => l
  | fuel + 1, column, l =>
    if column < l.indent then
      endBlocksFrom fuel column { l.put .blockEnd with
        indent := l.outer.headD (-1)
        outer := l.outer.tail }
    else l

/-- Ends the blocks right of a column, unless brackets are open. -/
def endBlocks (l : Layout) (column : Int) : Layout :=
  if l.inFlow then l else endBlocksFrom (l.outer.length + 1) column l

/-- Opens a block at a column right of the open one, before the token at a place. -/
def openBlock (l : Layout) (column : Nat) (place : Nat) (t : Token) : Layout :=
  if l.indent < column then
    { l.putAt place t with indent := column, outer := l.indent :: l.outer }
  else l

def leaveBlocks (l : Layout) : Except Problem Layout := do
  return (← (l.endBlocks (-1)).forgetHere).allowKey false

def endText (l : Layout) : Except Problem Layout := do
  return (← l.leaveBlocks).put .streamEnd

def documentMark (l : Layout) (t : Token) : Except Problem Layout := do
  return ((← l.leaveBlocks).advance 3).put t

def openFlow (l : Layout) (t : Token) : Except Problem Layout := do
  let l ← l.remember
  return ({ l with depth := l.depth + 1 }.allowKey true |>.advance 1).put t

def closeFlow (l : Layout) (t : Token) : Except Problem Layout := do
  let l ← l.forgetHere
  if l.inFlow then
    return ({ l with depth := l.depth - 1 }.allowKey false |>.advance 1).put t
  else refuse l.cursor "a bracket was not opened"

def comma (l : Layout) : Except Problem Layout := do
  return ((← (l.allowKey true).forgetHere).advance 1).put .comma

def dash (l : Layout) : Except Problem Layout := do
  if !l.inFlow && !l.keyAllowed then refuse l.cursor "an entry cannot start here"
  else
    let l := if l.inFlow then l
      else l.openBlock l.cursor.column l.tokens.length .sequenceStart
    return ((← (l.allowKey true).forgetHere).advance 1).put .dash

def questionMark (l : Layout) : Except Problem Layout := do
  if !l.inFlow && !l.keyAllowed then refuse l.cursor "a key cannot start here"
  else
    let l := if l.inFlow then l
      else l.openBlock l.cursor.column l.tokens.length .mappingStart
    return ((← (l.allowKey !l.inFlow).forgetHere).advance 1).put .key

def colonAfter (l : Layout) (k : KeyPlace) : Layout :=
  let l := { l with keyPlaces := l.keyPlaces.filter (·.1 != l.depth) }.putAt k.place .key
  let l := if l.inFlow then l else l.openBlock k.start.column k.place .mappingStart
  (l.allowKey false |>.advance 1).put .value

def colon (l : Layout) : Except Problem Layout := do
  match l.keyPlaces.lookup l.depth with
  | some k => return l.colonAfter k
  | none =>
    if !l.inFlow && !l.keyAllowed then refuse l.cursor "a value cannot start here"
    else
      let l := if l.inFlow then l
        else l.openBlock l.cursor.column l.tokens.length .mappingStart
      return ((← (l.allowKey !l.inFlow).forgetHere).advance 1).put .value

def word (l : Layout) (read : Cursor → Except Problem (Token × Cursor)) :
    Except Problem Layout := do
  let l ← l.remember
  let (t, c) ← read l.cursor
  return ({ l with cursor := c }.allowKey false).put t

def blockScalar (l : Layout) (isFolded : Bool) : Except Problem Layout := do
  let l ← (l.allowKey true).forgetHere
  let (s, c) ← block isFolded l.indent l.cursor
  return { l with cursor := c }.put (.scalar false s)

def plainScalar (l : Layout) : Except Problem Layout := do
  let l ← l.remember
  let (s, leftLine, c) := plain l.inFlow l.indent l.cursor
  return ({ l with cursor := c }.allowKey leftLine).put (.scalar true s)

def named (make : String → Token) (c : Cursor) : Except Problem (Token × Cursor) :=
  (name c.next).map fun (s, c) => (make s, c)

def quotedToken [Alphabet] (quote : Char) (c : Cursor) : Except Problem (Token × Cursor) :=
  (quoted quote c).map fun (s, c) => (.scalar false s, c)

/-- Whether a plain scalar may start with the character `c`, which `next` follows. -/
def startsPlain (inFlow : Bool) (c : Char) (next : Option Char) : Bool :=
  if c == '-' then !endsWord next
  else if c == '?' || c == ':' then !inFlow && !endsWord next
  else !(endsWord (some c) || ",[]\x7b\x7d#&*!|>'\"%@\x60".toList.contains c)

def token [Alphabet] (l : Layout) (c : Char) : Except Problem Layout :=
  let atMargin := l.cursor.column == 0
  let apart := endsWord (l.cursor.peekAt 1)
  if c == '%' && atMargin then do
    let l ← l.leaveBlocks
    let (t, c) ← directive l.cursor
    return { l with cursor := c }.put t
  else if atMargin && l.cursor.hasMark '-' then l.documentMark .documentStart
  else if atMargin && l.cursor.hasMark '.' then l.documentMark .documentEnd
  else if c == '[' then l.openFlow .openBracket
  else if c == '\x7b' then l.openFlow .openBrace
  else if c == ']' then l.closeFlow .closeBracket
  else if c == '\x7d' then l.closeFlow .closeBrace
  else if c == ',' then l.comma
  else if c == '-' && apart then l.dash
  else if c == '?' && (l.inFlow || apart) then l.questionMark
  else if c == ':' && (l.inFlow || apart) then l.colon
  else if c == '*' then l.word (named .reference)
  else if c == '&' then l.word (named .anchor)
  else if c == '!' then l.word tag
  else if (c == '|' || c == '>') && !l.inFlow then l.blockScalar (c == '>')
  else if c == '\'' || c == '\"' then l.word (quotedToken c)
  else if startsPlain l.inFlow c (l.cursor.peekAt 1) then l.plainScalar
  else refuse l.cursor "a character cannot start a token"

def step [Alphabet] (l : Layout) : Except Problem (Layout × Bool) := do
  let l := l.skipBlanks (l.cursor.rest.length + 1)
  let l ← l.forget (l.isStale ·.2)
  let l := l.endBlocks l.cursor.column
  match l.cursor.peek with
  | none => return (← l.endText, true)
  | some c => return (← l.token c, false)

/-- All tokens, the latest first. The first argument bounds the number of characters left. -/
def run [Alphabet] : Nat → Layout → List Token
  | 0, l => .streamEnd :: l.tokens
  | fuel + 1, l =>
    match l.step with
    | .error p => .broken p :: l.tokens
    | .ok (l, true) => l.tokens
    | .ok (l, false) => run fuel l

end Layout

/-- The tokens of a text; the last is the end of the text or the problem met there. -/
def tokens [Alphabet] (s : String) : List Token :=
  (Layout.run (s.length + 1) (.start s)).reverse

end Farcall.Yaml
