import Farcall.Json.Reader
import Farcall.Number.Reading

/-!
# Reading integers

Integers to the bases 2, 8, 10 and 16. A text may carry a sign and the mark of its base, its digits
may be of any script, and blanks around it do not count. Decimal texts have a limited length.
-/

namespace Farcall.Integer

def mark? : Nat → Option Char
  | 2 => some 'b'
  | 8 => some 'o'
  | 16 => some 'x'
  | _ => none

def afterMark (base : Nat) : List Char → List Char
  | '0' :: c :: rest => if mark? base == some c.toLower then rest else '0' :: c :: rest
  | cs => cs

def digits? (base : Nat) (ds : List Char) : Option Nat :=
  ds.foldl (fun n d => do
    let n ← n
    let v ← Json.hexValue? d
    if v < base then some (n * base + v) else none) (some 0)

def ofText? (base : Nat) (cs : List Char) : Option Int :=
  let trimmed := (Text.trim (String.ofList cs)).toList.map Double.plainDigit
  let (negative, body) := Double.takeSign trimmed
  let ds := afterMark base body
  if ds.isEmpty || (base == 10 && ds.length > Json.digitLimit) then none
  else (digits? base ds).map fun n => if negative then -(n : Int) else n

end Farcall.Integer
