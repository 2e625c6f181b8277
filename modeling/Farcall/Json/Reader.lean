import Farcall.Json.Writer
import Farcall.Text.Encoding

/-!
# Reading JSON

JSON texts as values. Beyond the standard, the names of infinities and of what is no number are
read, a repeated key keeps its last value, and half of a surrogate pair reads as the replacement
character. Integers have at most 4300 digits, and lists and mappings are nested as deep as there is
room for calls of the interpreter.
-/

namespace Farcall.Json

inductive Unreadable where
  /-- The text is not JSON. -/
  | malformed
  /-- An integer has too many digits. -/
  | tooLong
  /-- The bytes are no text in the encoding they announce. -/
  | notText
  /-- There is no room for a list or mapping within so many others. -/
  | tooDeep
deriving DecidableEq

def isSpace (c : Char) : Bool :=
  c == ' ' || c == '\t' || c == '\n' || c == '\r'

def skipSpace (cs : List Char) : List Char :=
  cs.dropWhile isSpace

def hexValue? (c : Char) : Option Nat :=
  if c.isDigit then some (c.toNat - '0'.toNat)
  else if 'a' ≤ c ∧ c ≤ 'f' then some (c.toNat - 'a'.toNat + 10)
  else if 'A' ≤ c ∧ c ≤ 'F' then some (c.toNat - 'A'.toNat + 10)
  else none

def fourDigits? : List Char → Option (Nat × List Char)
  | a :: b :: c :: d :: rest => do
    let a ← hexValue? a
    let b ← hexValue? b
    let c ← hexValue? c
    let d ← hexValue? d
    return (((a * 16 + b) * 16 + c) * 16 + d, rest)
  | _ => none

def shortEscape? : Char → Option Char
  | '\"' => some '\"'
  | '\\' => some '\\'
  | '/' => some '/'
  | 'b' => some '\x08'
  | 'f' => some '\x0c'
  | 'n' => some '\n'
  | 'r' => some '\r'
  | 't' => some '\t'
  | _ => none

/-- The rest of a string after its opening quote and the characters `acc` (reversed), with the rest
of the text. The first argument bounds the length of the text. -/
def readString : Nat → List Char → List Char → Except Unreadable (String × List Char)
  | 0, _, _ => .error .malformed
  | _ + 1, _, [] => .error .malformed
  | fuel + 1, acc, c :: rest =>
    if c == '\"' then .ok (String.ofList acc.reverse, rest)
    else if c.toNat < 0x20 then .error .malformed
    else if c != '\\' then readString fuel (c :: acc) rest
    else
      match rest with
      | [] => .error .malformed
      | 'u' :: rest =>
        match fourDigits? rest with
        | none => .error .malformed
        | some (u, rest) =>
          if 0xD800 ≤ u ∧ u < 0xDC00 then
            match rest with
            | '\\' :: 'u' :: more =>
              match fourDigits? more with
              | none => .error .malformed
              | some (v, more) =>
                if 0xDC00 ≤ v ∧ v < 0xE000 then
                  readString fuel
                    (Char.ofNat (0x10000 + (u - 0xD800) * 0x400 + (v - 0xDC00)) :: acc) more
                else readString fuel (Text.replacement :: acc) rest
            | _ => readString fuel (Text.replacement :: acc) rest
          else if 0xDC00 ≤ u ∧ u < 0xE000 then readString fuel (Text.replacement :: acc) rest
          else readString fuel (Char.ofNat u :: acc) rest
      | e :: rest =>
        match shortEscape? e with
        | none => .error .malformed
        | some c => readString fuel (c :: acc) rest

def natOfDigits (cs : List Char) : Nat :=
  cs.foldl (fun n c => n * 10 + (c.toNat - '0'.toNat)) 0

def readExponent (cs : List Char) : Option Int × List Char :=
  match cs with
  | e :: rest =>
    if e == 'e' || e == 'E' then
      let (negative, digits) := match rest with
        | '-' :: more => (true, more)
        | '+' :: more => (false, more)
        | more => (false, more)
      let ds := digits.takeWhile Char.isDigit
      if ds.isEmpty then (none, cs)
      else
        let n : Int := natOfDigits (ds.take 12)
        (some (if negative then -n else n), digits.dropWhile Char.isDigit)
    else (none, cs)
  | [] => (none, cs)

def readFraction (cs : List Char) : List Char × List Char :=
  match cs with
  | '.' :: rest =>
    let ds := rest.takeWhile Char.isDigit
    if ds.isEmpty then ([], cs) else (ds, rest.dropWhile Char.isDigit)
  | _ => ([], cs)

def readNumber (cs : List Char) : Except Unreadable (Value × List Char) :=
  let (negative, body) := match cs with
    | '-' :: rest => (true, rest)
    | _ => (false, cs)
  let whole := match body with
    | '0' :: _ => ['0']
    | _ => body.takeWhile Char.isDigit
  if whole.isEmpty then .error .malformed
  else
    let rest := body.drop whole.length
    let (fraction, rest) := readFraction rest
    let (exponent, rest) := readExponent rest
    if fraction.isEmpty && exponent.isNone then
      if whole.length > digitLimit then .error .tooLong
      else
        let n : Int := natOfDigits whole
        .ok (.int (if negative then -n else n), rest)
    else
      let digits := whole ++ fraction
      .ok (.float (Double.ofDecimal negative (natOfDigits digits) digits.length
        (exponent.getD 0 - fraction.length)), rest)

def names : List (String × Value) := [
  ("null", .null), ("true", .bool true), ("false", .bool false),
  ("NaN", .float Double.nan), ("Infinity", .float (Double.infinity false)),
  ("-Infinity", .float (Double.infinity true))]

def readName? (cs : List Char) : Option (Value × List Char) :=
  names.findSome? fun (name, v) =>
    if name.toList.isPrefixOf cs then some (v, cs.drop name.length) else none

mutual

/-- A value at the start of a text, with the rest of the text. The first argument is the room for
lists and mappings within each other, the second one bounds the length of the text. -/
def readValue (room : Nat) : Nat → List Char → Except Unreadable (Value × List Char)
  | 0, _ => .error .malformed
  | fuel + 1, cs =>
    match readName? cs with
    | some found => .ok found
    | none =>
      match cs with
      | '\"' :: rest => do
        let (s, rest) ← readString (fuel + 1) [] rest
        return (.str s, rest)
      | '[' :: rest =>
        if room = 0 then .error .tooDeep
        else
          match skipSpace rest with
          | ']' :: rest => .ok (.list [], rest)
          | rest => readItems (room - 1) fuel [] rest
      | '\x7b' :: rest =>
        if room = 0 then .error .tooDeep
        else
          match skipSpace rest with
          | '\x7d' :: rest => .ok (.map [], rest)
          | rest => readEntries (room - 1) fuel [] rest
      | _ => readNumber cs

/-- The items of a list up to its end, after the items `acc` (reversed). -/
def readItems (room : Nat) : Nat → List Value → List Char → Except Unreadable (Value × List Char)
  | 0, _, _ => .error .malformed
  | fuel + 1, acc, cs => do
    let (v, rest) ← readValue room fuel cs
    match skipSpace rest with
    | ',' :: rest => readItems room fuel (v :: acc) (skipSpace rest)
    | ']' :: rest => return (.list (v :: acc).reverse, rest)
    | _ => .error .malformed

/-- The entries of a mapping up to its end, after the entries `acc` (reversed). -/
def readEntries (room : Nat) :
    Nat → List (Value × Value) → List Char → Except Unreadable (Value × List Char)
  | 0, _, _ => .error .malformed
  | fuel + 1, acc, cs =>
    match cs with
    | '\"' :: rest => do
      let (key, rest) ← readString fuel [] rest
      match skipSpace rest with
      | ':' :: rest =>
        let (v, rest) ← readValue room fuel (skipSpace rest)
        match skipSpace rest with
        | ',' :: rest => readEntries room fuel ((.str key, v) :: acc) (skipSpace rest)
        | '\x7d' :: rest => return (Value.ofEntries ((.str key, v) :: acc).reverse, rest)
        | _ => .error .malformed
      | _ => .error .malformed
    | _ => .error .malformed

end

/-- The value of a JSON text. A byte order mark is not part of a text. -/
def read (room : Nat) (s : String) : Except Unreadable Value := do
  let cs := skipSpace s.toList
  let (v, rest) ← readValue room (2 * cs.length + 2) cs
  if (skipSpace rest).isEmpty then return v else .error .malformed

/-- The text some bytes encode. The encoding shows in a byte order mark or in which of the first
bytes are zero; without either it is UTF-8. -/
def decode? (bytes : List UInt8) : Option String :=
  match bytes with
  | 0 :: 0 :: 0xfe :: 0xff :: rest => Text.utf32? .big rest
  | 0xff :: 0xfe :: 0 :: 0 :: rest => Text.utf32? .little rest
  | 0xfe :: 0xff :: rest => Text.utf16? .big rest
  | 0xff :: 0xfe :: rest => Text.utf16? .little rest
  | 0xef :: 0xbb :: 0xbf :: rest => Text.lenientUtf8? rest
  | 0 :: b :: _ :: _ :: _ => if b = 0 then Text.utf32? .big bytes else Text.utf16? .big bytes
  | _ :: 0 :: c :: d :: _ =>
    if c = 0 ∧ d = 0 then Text.utf32? .little bytes else Text.utf16? .little bytes
  | [0, _] => Text.utf16? .big bytes
  | [_, 0] => Text.utf16? .little bytes
  | _ => Text.lenientUtf8? bytes

def readBytes (room : Nat) (bytes : List UInt8) : Except Unreadable Value :=
  match decode? bytes with
  | none => .error .notText
  | some s => read room s

end Farcall.Json
