import Farcall.Failure
import Farcall.Number.Shortest
import Farcall.Text.Quoted

/-!
# Writing JSON

JSON texts of values, in the styles used for messages over HTTP, for frames of a socket and for
literals in generated code.
-/

namespace Farcall.Json

structure Style where
  itemSeparator : String
  keySeparator : String
  /-- Everything outside printable ASCII is escaped. -/
  ascii : Bool
  /-- Numbers that are not finite are refused instead of named. -/
  finite : Bool

def spaced : Style := ⟨", ", ": ", true, false⟩

/-- No blanks, all characters as they are, and finite numbers only. -/
def compact : Style := ⟨",", ":", false, true⟩

inductive Unwritable where
  /-- A value or key of a kind JSON does not know. -/
  | kind
  /-- A number that is not finite, in a style that refuses it. -/
  | notFinite
  /-- An integer of too many digits. -/
  | tooLong
deriving DecidableEq

def Unwritable.fault : Unwritable → Fault
  | .kind => .notSerializable
  | .notFinite => .notFinite
  | .tooLong => .unreadable

def unitEscape (n : Nat) : List Char :=
  '\\' :: 'u' :: Text.hex 4 n

def codeEscape (n : Nat) : List Char :=
  if n < 0x10000 then unitEscape n
  else
    unitEscape (0xD800 + (n - 0x10000) / 0x400) ++ unitEscape (0xDC00 + (n - 0x10000) % 0x400)

def escapeChar [Alphabet] (ascii : Bool) (c : Char) : List Char :=
  if c = '\"' then ['\\', '\"']
  else if c = '\\' then ['\\', '\\']
  else if c = '\n' then ['\\', 'n']
  else if c = '\r' then ['\\', 'r']
  else if c = '\t' then ['\\', 't']
  else if c = '\x0c' then ['\\', 'f']
  else if c = '\x08' then ['\\', 'b']
  else if c.toNat < 0x20 then unitEscape c.toNat
  else if ascii && 0x7e < c.toNat then codeEscape (Alphabet.code c)
  else [c]

def quoteChars [Alphabet] (ascii : Bool) (cs : List Char) : List Char :=
  '\"' :: cs.flatMap (escapeChar ascii) ++ ['\"']

def quote [Alphabet] (ascii : Bool) (s : String) : String :=
  String.ofList (quoteChars ascii s.toList)

def digitLimit : Nat := 4300

def writeInt (n : Int) : Except Unwritable String :=
  if n.natAbs.repr.length ≤ digitLimit then .ok (toString n) else .error .tooLong

def writeFloat (style : Style) (x : Double) : Except Unwritable String :=
  if style.finite && !x.isFinite then .error .notFinite else .ok (Double.json.text x)

def writeKey [Alphabet] (style : Style) : Value → Except Unwritable String
  | .str s => .ok (quote style.ascii s)
  | .int n => (writeInt n).map (quote style.ascii)
  | .bool true => .ok (quote style.ascii "true")
  | .bool false => .ok (quote style.ascii "false")
  | .null => .ok (quote style.ascii "null")
  | .float x => (writeFloat style x).map (quote style.ascii)
  | _ => .error .kind

mutual

def write [Alphabet] (style : Style) : Value → Except Unwritable String
  | .null => .ok "null"
  | .bool true => .ok "true"
  | .bool false => .ok "false"
  | .int n => writeInt n
  | .float x => writeFloat style x
  | .str s => .ok (quote style.ascii s)
  | .list xs => do
    let items ← writeItems style xs
    return "[" ++ style.itemSeparator.intercalate items ++ "]"
  | .tuple xs => do
    let items ← writeItems style xs
    return "[" ++ style.itemSeparator.intercalate items ++ "]"
  | .map es => do
    let items ← writeEntries style es
    return "\x7b" ++ style.itemSeparator.intercalate items ++ "\x7d"
  | _ => .error .kind

def writeItems [Alphabet] (style : Style) : List Value → Except Unwritable (List String)
  | [] => .ok []
  | x :: xs => do
    let item ← write style x
    let items ← writeItems style xs
    return item :: items

def writeEntries [Alphabet] (style : Style) : List (Value × Value) → Except Unwritable (List String)
  | [] => .ok []
  | (k, v) :: rest => do
    let key ← writeKey style k
    let value ← write style v
    let items ← writeEntries style rest
    return (key ++ style.keySeparator ++ value) :: items

end

end Farcall.Json
