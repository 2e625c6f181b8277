/-!
# Encodings

Text from bytes. Besides UTF-8 there are UTF-16 and UTF-32 in both byte orders, which JSON texts may
use. In JSON texts half of a surrogate pair may be encoded as well; it reads as the replacement
character.
-/

namespace Farcall.Text

inductive ByteOrder where
  | little
  | big
deriving DecidableEq

def utf8? (bytes : List UInt8) : Option String :=
  String.fromUTF8? ⟨bytes.toArray⟩

def utf8 (s : String) : List UInt8 :=
  s.toUTF8.toList

def replacement : Char := '\ufffd'

/-- Bytes of UTF-8 with the replacement character for each half of a surrogate pair. -/
def replaceHalves : List UInt8 → List UInt8
  | 0xed :: b :: c :: rest =>
    if 0xa0 ≤ b ∧ b < 0xc0 ∧ 0x80 ≤ c ∧ c < 0xc0 then utf8 replacement.toString ++ replaceHalves rest
    else 0xed :: replaceHalves (b :: c :: rest)
  | b :: rest => b :: replaceHalves rest
  | [] => []

/-- A text from UTF-8 in which halves of surrogate pairs are encoded like characters. -/
def lenientUtf8? (bytes : List UInt8) : Option String :=
  utf8? (replaceHalves bytes)

def ByteOrder.number : ByteOrder → List UInt8 → Nat
  | .big, bytes => bytes.foldl (fun n b => n * 256 + b.toNat) 0
  | .little, bytes => bytes.foldr (fun b n => n * 256 + b.toNat) 0

/-- The code units of `size` bytes each; no unit may be cut short. -/
def units? (order : ByteOrder) (size : Nat) : Nat → List UInt8 → Option (List Nat)
  | _, [] => some []
  | 0, _ => none
  | fuel + 1, bytes =>
    if bytes.length < size then none
    else (units? order size fuel (bytes.drop size)).map (order.number (bytes.take size) :: ·)

def joinPairs : List Nat → List Char
  | [] => []
  | [u] => [if 0xD800 ≤ u ∧ u < 0xE000 then replacement else Char.ofNat u]
  | u :: v :: rest =>
    if 0xD800 ≤ u ∧ u < 0xDC00 then
      if 0xDC00 ≤ v ∧ v < 0xE000 then
        Char.ofNat (0x10000 + (u - 0xD800) * 0x400 + (v - 0xDC00)) :: joinPairs rest
      else replacement :: joinPairs (v :: rest)
    else if 0xDC00 ≤ u ∧ u < 0xE000 then replacement :: joinPairs (v :: rest)
    else Char.ofNat u :: joinPairs (v :: rest)

def utf16? (order : ByteOrder) (bytes : List UInt8) : Option String :=
  (units? order 2 bytes.length bytes).map fun us => String.ofList (joinPairs us)

def utf32? (order : ByteOrder) (bytes : List UInt8) : Option String := do
  let us ← units? order 4 bytes.length bytes
  if us.all (· < 0x110000) then
    some (String.ofList (us.map fun u =>
      if 0xD800 ≤ u ∧ u < 0xE000 then replacement else Char.ofNat u))
  else none

end Farcall.Text
