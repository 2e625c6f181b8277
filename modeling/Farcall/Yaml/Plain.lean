import Farcall.Yaml.Quoted

/-!
# Plain scalars

Texts without quotes. A plain scalar ends before a colon or a comment that is set off by blanks, and
within flow collections before their marks; it goes on in later lines that are indented deeper than
the collection around it.
-/

namespace Farcall.Yaml

/-- Whether a plain scalar stops before the character `c`, which `next` follows. -/
def stopsPlain (inFlow : Bool) (c : Char) (next : Option Char) : Bool :=
  endsWord (some c) ||
    (c == ':' && (endsWord next || (inFlow && (next.any (",[]\x7b\x7d".toList.contains ·))))) ||
    (inFlow && ",?[]\x7b\x7d".toList.contains c)

def plainRun (inFlow : Bool) : List Char → List Char
  | [] => []
  | c :: rest => if stopsPlain inFlow c rest.head? then [] else c :: plainRun inFlow rest

/-- The line ends and spaces after the first line end within a plain scalar, `none` if a document
starts or ends there. The first argument bounds the length of the text. -/
def plainLineEnds : Nat → Cursor → Option (List Char) × Cursor
  | 0, c => (some [], c)
  | fuel + 1, c =>
    if c.hasDocumentMark then (none, c)
    else
      let c := c.skipSpaces
      match c.lineEnd? with
      | some (b, c) =>
        let (bs, c) := plainLineEnds fuel c
        (bs.map (b :: ·), c)
      | none => (some [], c)

/-- What the blanks within a plain scalar stand for, and whether they hold a line end. Nothing means
that the scalar ends. -/
structure PlainGap where
  text : List Char
  crossesLine : Bool

def plainGap (c : Cursor) : PlainGap × Cursor :=
  let (gap, c) := c.span (· == ' ')
  match c.lineEnd? with
  | some (b, c) =>
    let (bs, c) := plainLineEnds (c.rest.length + 1) c
    (⟨(bs.map (folded b)).getD [], true⟩, c)
  | none => (⟨gap, false⟩, c)

/-- The rest of a plain scalar after its pieces `acc` (reversed) and the blanks `gap`, and whether
it ended by leaving its line. The first argument bounds the number of pieces. -/
def plainFrom (inFlow : Bool) (indent : Int) :
    Nat → List (List Char) → PlainGap → Cursor → List (List Char) × Bool × Cursor
  | 0, acc, gap, c => (acc, gap.crossesLine, c)
  | fuel + 1, acc, gap, c =>
    let run := if isAt '#' c.peek then [] else plainRun inFlow c.rest
    if run.isEmpty then (acc, gap.crossesLine, c)
    else
      let acc := run :: gap.text :: acc
      let (gap, c) := plainGap (c.advance run.length)
      if gap.text.isEmpty || isAt '#' c.peek || (!inFlow && (c.column : Int) < indent) then
        (acc, gap.crossesLine, c)
      else plainFrom inFlow indent fuel acc gap c

/-- A plain scalar in a collection of the given indentation, and whether it ended by leaving its
line. -/
def plain (inFlow : Bool) (around : Int) (c : Cursor) : String × Bool × Cursor :=
  let (pieces, leftLine, c) := plainFrom inFlow (around + 1) (c.rest.length + 1) [] ⟨[], false⟩ c
  (String.ofList pieces.reverse.flatten, leftLine, c)

end Farcall.Yaml
