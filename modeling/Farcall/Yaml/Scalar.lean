import Farcall.Number.Integer
import Farcall.Text.Base64
import Farcall.Value.Calendar
import Farcall.Yaml.Node

/-!
# The values of scalars

What the text of a scalar means under its tag. Underscores within numbers do not count, and numbers
may be written to the base sixty with colons between their digits. A text that does not fit its tag
is a fault; only base64 data that is not well formed makes the whole text malformed.
-/

namespace Farcall.Yaml.Scalar

def bools : List (String × Bool) :=
  [("yes", true), ("no", false), ("true", true), ("false", false), ("on", true), ("off", false)]

def bool (s : String) : Except Problem Value :=
  match bools.lookup (Text.lower s) with
  | some b => .ok (.bool b)
  | none => .error (.fault .noKey)

/-- A sign and the text after it; the text must not be empty. -/
def signed (cs : List Char) : Except Problem (Bool × List Char) :=
  if cs.isEmpty then .error (.fault .noItem)
  else .ok (cs.head? == some '-', Tag.afterSign cs)

def readable {α : Type} : Option α → Except Problem α
  | some a => .ok a
  | none => .error (.fault .unreadable)

def unsignedInt (cs : List Char) : Except Problem Int :=
  match cs with
  | [] => .error (.fault .noItem)
  | ['0'] => .ok 0
  | '0' :: 'b' :: ds => readable (Integer.ofText? 2 ds)
  | '0' :: 'x' :: ds => readable (Integer.ofText? 16 ds)
  | '0' :: _ => readable (Integer.ofText? 8 cs)
  | _ =>
    if cs.contains ':' then
      readable ((Tag.colonParts cs).foldl (fun n part => do
        return (← n) * 60 + (← Integer.ofText? 10 part)) (some 0))
    else readable (Integer.ofText? 10 cs)

def int (s : String) : Except Problem Value := do
  let (negative, body) ← signed (s.toList.filter (· != '_'))
  let n ← unsignedInt body
  return .int (if negative then -n else n)

/-- The sum of the digits of a number to the base sixty, the last first, each multiplied by its
place. -/
def sexagesimal (x : Double) (place : Nat) : List (List Char) → Option Double
  | [] => some x
  | part :: rest => do
    let d ← Double.ofText? (String.ofList part)
    sexagesimal (x.add (d.mulNat place)) (place * 60) rest

def unsignedFloat (cs : List Char) : Except Problem Double :=
  let word := String.ofList cs
  if word = ".inf" then .ok (Double.infinity false)
  else if word = ".nan" then .ok Double.nan
  else if cs.contains ':' then
    readable (sexagesimal (Double.ofInt 0) 1 (Tag.colonParts cs).reverse)
  else readable (Double.ofText? word)

def float (s : String) : Except Problem Value := do
  let (negative, body) ← signed (Text.lower (String.ofList (s.toList.filter (· != '_')))).toList
  let x ← unsignedFloat body
  return .float (if negative && !x.isNaN then x.neg else x)

def binary (s : String) : Except Problem Value :=
  if s.toList.any fun c => c.toNat ≥ 128 then
    .error (.malformed 0 "binary data holds other characters than ASCII")
  else
    match Text.base64? s.toList with
    | some b => .ok (.bytes b)
    | none => .error (.malformed 0 "binary data is cut short")

/-- The microseconds that the digits of a fraction stand for; further digits do not count. -/
def microseconds (fraction : List Char) : Nat :=
  Json.natOfDigits ((fraction ++ List.replicate 6 '0').take 6)

def timestamp (s : String) : Except Problem Value :=
  match Timestamp.ofChars? (Tag.withoutLineFeed s.toList) with
  | none => .error (.fault .noAttribute)
  | some t => readable do
    let d ← Date.ofParts? t.year t.month t.day
    match t.clock with
    | none => return .date d
    | some k =>
      return .moment (← Moment.ofParts? d k.hour k.minute k.second (microseconds k.fraction)
        k.offset)

/-- The value of a scalar; tags of collections and unknown tags have none. -/
def value (tag : Tag) (s : String) : Except Problem Value :=
  match tag with
  | .null => .ok .null
  | .bool => bool s
  | .int => int s
  | .float => float s
  | .binary => binary s
  | .timestamp => timestamp s
  | .str => .ok (.str s)
  | _ => .error (.malformed 0 "a scalar has the tag of another kind")

end Farcall.Yaml.Scalar
