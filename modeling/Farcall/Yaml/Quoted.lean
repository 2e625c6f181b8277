import Farcall.Json.Reader
import Farcall.Text.Alphabet
import Farcall.Yaml.Token

/-!
# Quoted scalars

Texts in single or double quotes. Within single quotes a quote is written twice; within double
quotes a backslash starts an escape. A line end within the quotes becomes a space, and of several
line ends all but the first stay; blanks around line ends do not count.
-/

namespace Farcall.Yaml

/-- The line ends from here on with the blanks between them. No document may start or end within
quotes. The first argument bounds the number of lines. -/
def quotedLineEnds : Nat → Cursor → Except Problem (List Char × Cursor)
  | 0, c => .ok ([], c)
  | fuel + 1, c =>
    if c.hasDocumentMark then refuse c "a document ends within quotes"
    else
      let c := c.skip isGap
      match c.lineEnd? with
      | some (b, c) => (quotedLineEnds fuel c).map fun (bs, c) => (b :: bs, c)
      | none => .ok ([], c)

def folded (first : Char) (others : List Char) : List Char :=
  if first != '\n' then first :: others
  else if others.isEmpty then [' ']
  else others

def quotedBlanks (c : Cursor) : Except Problem (List Char × Cursor) :=
  let (gap, c) := c.span isGap
  match c.lineEnd? with
  | some (b, c) => (quotedLineEnds (c.rest.length + 1) c).map fun (bs, c) => (folded b bs, c)
  | none => if c.rest.isEmpty then refuse c "a quote is not closed" else .ok (gap, c)

def shortEscape? : Char → Option Char
  | '0' => some '\x00'
  | 'a' => some '\x07'
  | 'b' => some '\x08'
  | 't' => some '\t'
  | '\t' => some '\t'
  | 'n' => some '\n'
  | 'v' => some '\x0b'
  | 'f' => some '\x0c'
  | 'r' => some '\r'
  | 'e' => some '\x1b'
  | ' ' => some ' '
  | '\"' => some '\"'
  | '\\' => some '\\'
  | '/' => some '/'
  | 'N' => some '\x85'
  | '_' => some '\xa0'
  | 'L' => some '\u2028'
  | 'P' => some '\u2029'
  | _ => none

def escapeWidth? : Char → Option Nat
  | 'x' => some 2
  | 'u' => some 4
  | 'U' => some 8
  | _ => none

def hexNumber? (ds : List Char) : Option Nat :=
  ds.foldl (fun n d => do return (← n) * 16 + (← Json.hexValue? d)) (some 0)

def hexDigits (width : Nat) (c : Cursor) : Except Problem (Nat × Cursor) :=
  let ds := c.rest.take width
  match hexNumber? ds with
  | some n =>
    if ds.length = width then .ok (n, c.advance width) else refuse c "an escape is cut short"
  | none => refuse c "an escape needs hexadecimal digits"

def characterOf [Alphabet] (n : Nat) : Except Problem Char :=
  if 0xD800 ≤ n ∧ n < 0xE000 then .ok (Alphabet.half n)
  else if n < 0x110000 then .ok (Char.ofNat n)
  else .error (.fault (if n < Nat.pow 2 31 then .unreadable else .overflow))

/-- A half of a surrogate pair stays a half, whatever follows. -/
def numericEscape [Alphabet] (width : Nat) (c : Cursor) : Except Problem (Char × Cursor) := do
  let (n, c) ← hexDigits width c
  return (← characterOf n, c)

def escape [Alphabet] (c : Cursor) : Except Problem (List Char × Cursor) :=
  match c.peek with
  | none => refuse c "a quote is not closed"
  | some ch =>
    match shortEscape? ch, escapeWidth? ch with
    | some x, _ => .ok ([x], c.next)
    | none, some width => (numericEscape width c.next).map fun (x, c) => ([x], c)
    | none, none =>
      if isBreak ch then quotedLineEnds (c.rest.length + 1) c.next
      else refuse c "an escape is unknown"

/-- The rest of a quoted scalar after the characters `acc` (reversed), up to its closing quote. The
first argument bounds the length of the text. -/
def quotedFrom [Alphabet] (quote : Char) : Nat → List Char → Cursor → Except Problem (String × Cursor)
  | 0, _, c => refuse c "a quote is not closed"
  | fuel + 1, acc, c =>
    match c.rest with
    | [] => refuse c "a quote is not closed"
    | ch :: rest =>
      if ch == quote then
        if quote == '\'' && isAt quote rest.head? then
          quotedFrom quote fuel (quote :: acc) (c.advance 2)
        else .ok (String.ofList acc.reverse, c.next)
      else if ch == '\\' && quote == '\"' then do
        let (xs, c) ← escape c.next
        quotedFrom quote fuel (xs.reverse ++ acc) c
      else if isGap ch || isBreak ch then do
        let (xs, c) ← quotedBlanks c
        quotedFrom quote fuel (xs.reverse ++ acc) c
      else quotedFrom quote fuel (ch :: acc) c.next

def quoted [Alphabet] (quote : Char) (c : Cursor) : Except Problem (String × Cursor) :=
  quotedFrom quote (c.rest.length + 1) [] c.next

end Farcall.Yaml
