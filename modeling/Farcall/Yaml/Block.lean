import Farcall.Yaml.Quoted

/-!
# Block scalars

Texts set off by indentation: literal ones keep their line ends, folded ones join lines that are
neither indented further nor set apart by empty lines. The head of a block scalar may say how deep
its text is indented and what becomes of the line ends after it.
-/

namespace Farcall.Yaml

inductive Chomping where
  /-- None stays. -/
  | strip
  /-- The first stays. -/
  | clip
  /-- All stay. -/
  | keep
deriving DecidableEq

structure BlockHead where
  chomping : Chomping
  /-- The depth of the text beyond the collection around it, if it is given. -/
  depth : Option Nat

def chompingOf? : Option Char → Option Chomping
  | some '+' => some .keep
  | some '-' => some .strip
  | _ => none

def takeChomping (c : Cursor) : Option Chomping × Cursor :=
  match chompingOf? c.peek with
  | some x => (some x, c.next)
  | none => (none, c)

/-- A digit of a depth, if there is one here; zero is no depth. -/
def takeDepth (c : Cursor) : Except Problem (Option Nat × Cursor) :=
  match c.peek with
  | some ch =>
    if ch == '0' then refuse c "an indentation of zero"
    else if ch.isDigit then .ok (some (ch.toNat - '0'.toNat), c.next)
    else .ok (none, c)
  | none => .ok (none, c)

/-- The head of a block scalar after its indicator. Sign and digit come in either order. -/
def blockHead (c : Cursor) : Except Problem (BlockHead × Cursor) := do
  let (first, c) := takeChomping c
  let (depth, c) ← takeDepth c
  let (second, c) := if first.isNone && depth.isSome then takeChomping c else (none, c)
  if endsField c.peek then return (⟨(first <|> second).getD .clip, depth⟩, c)
  else refuse c "a block scalar's head is followed by text"

/-- The rest of the line of a head, which may only hold a comment. -/
def endOfHead (c : Cursor) : Except Problem Cursor :=
  let c := c.skipSpaces.skipComment
  if endsLine c.peek then .ok c.skipLineEnd
  else refuse c "a block scalar's head is followed by text"

/-- The line ends before the first text of a block scalar, and the greatest column met. The first
argument bounds the length of the text. -/
def leadingLineEnds : Nat → Nat → Cursor → List Char × Nat × Cursor
  | 0, deepest, c => ([], deepest, c)
  | fuel + 1, deepest, c =>
    let c := c.skipSpaces
    let deepest := max deepest c.column
    match c.lineEnd? with
    | some (b, c) =>
      let (bs, deepest, c) := leadingLineEnds fuel deepest c
      (b :: bs, deepest, c)
    | none => ([], deepest, c)

/-- The position after the spaces up to a column. The first argument bounds their number. -/
def indentTo : Nat → Nat → Cursor → Cursor
  | 0, _, c => c
  | fuel + 1, column, c =>
    if c.column < column && isAt ' ' c.peek then indentTo fuel column c.next else c

/-- The line ends between two lines of a block scalar. The first argument bounds their number. -/
def blockLineEnds : Nat → Nat → Cursor → List Char × Cursor
  | 0, _, c => ([], c)
  | fuel + 1, indent, c =>
    let c := indentTo indent indent c
    match c.lineEnd? with
    | some (b, c) =>
      let (bs, c) := blockLineEnds fuel indent c
      (b :: bs, c)
    | none => ([], c)

def atText (indent : Nat) (c : Cursor) : Bool :=
  c.column == indent && !c.rest.isEmpty

def isSetIn (c : Cursor) : Bool :=
  match c.peek with
  | some ch => isGap ch
  | none => false

/-- The rest of a block scalar at the start of a line: its text (in pieces, reversed) after the
line ends `before`, the line end after the text and those that follow. The first argument bounds
the number of lines. -/
def blockLines (isFolded : Bool) (indent : Nat) :
    Nat → List (List Char) → List Char → Cursor →
      List (List Char) × List Char × List Char × Cursor
  | 0, acc, before, c => (acc, [], before, c)
  | fuel + 1, acc, before, c =>
    let setIn := isSetIn c
    let (line, c) := c.span (!isBreak ·)
    let (lineEnd, c) := match c.lineEnd? with
      | some (b, c) => ([b], c)
      | none => ([], c)
    let (breaks, c) := blockLineEnds (c.rest.length + 1) indent c
    let acc := line :: before :: acc
    if atText indent c then
      let joint := if isFolded && lineEnd == ['\n'] && !setIn && !isSetIn c then
          (if breaks.isEmpty then [' '] else [])
        else lineEnd
      blockLines isFolded indent fuel (joint :: acc) breaks c
    else (acc, lineEnd, breaks, c)

def block (isFolded : Bool) (around : Int) (c : Cursor) : Except Problem (String × Cursor) := do
  let (head, c) ← blockHead c.next
  let c ← endOfHead c
  let least := (max (around + 1) 1).toNat
  let (breaks, indent, c) := match head.depth with
    | some depth =>
      let indent := least + depth - 1
      let (breaks, c) := blockLineEnds (c.rest.length + 1) indent c
      (breaks, indent, c)
    | none =>
      let (breaks, deepest, c) := leadingLineEnds (c.rest.length + 1) 0 c
      (breaks, max least deepest, c)
  let (pieces, lineEnd, breaks, c) := if atText indent c then
      blockLines isFolded indent (c.rest.length + 1) [] breaks c
    else ([], [], breaks, c)
  let tail := match head.chomping with
    | .strip => []
    | .clip => lineEnd
    | .keep => lineEnd ++ breaks
  return (String.ofList (pieces.reverse.flatten ++ tail), c)

end Farcall.Yaml
