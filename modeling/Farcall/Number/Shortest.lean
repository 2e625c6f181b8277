import Farcall.Number.Double

/-!
# Shortest decimals

The fewest decimal digits that read back as the same number, and among those the nearest to it.
For each count of digits the two neighbours of the number on the grid of that many digits are
tried; the first grid with a neighbour that reads back decides.
-/

namespace Farcall.Double

/-- `digits * 10 ^ exp` with `digits` not ending in zero. -/
structure Decimal where
  digits : Nat
  exp : Int
deriving DecidableEq, Inhabited

def tenFraction (n : Nat) (e : Int) : Nat × Nat :=
  match e with
  | .ofNat k => (n * Nat.pow 10 k, 1)
  | .negSucc k => (n, Nat.pow 10 (k + 1))

def readsAs (m n : Nat) (e : Int) : Bool :=
  let f := tenFraction n e
  roundMagnitude f.1 f.2 == m

/-- The exponent `k` with `10 ^ (k - 1) ≤ num / den < 10 ^ k`, searched downwards from `k`. -/
def decimalPoint (num den : Nat) : Nat → Int → Int
  | 0, k => k
  | fuel + 1, k =>
    let f := tenFraction 1 (k - 1)
    if num * f.2 < f.1 * den then decimalPoint num den fuel (k - 1) else k

/-- The better of the two neighbours of `num / den` on the grid of step `10 ^ e`, if one reads
back as `m`; of two, the nearer one, and a tie goes to the even one. -/
def neighbour? (m num den : Nat) (e : Int) : Option Nat :=
  let f := tenFraction 1 e
  let below := num * f.2 / (den * f.1)
  let rest := num * f.2 % (den * f.1)
  let above := below + 1
  match readsAs m below e, readsAs m above e with
  | true, true =>
    if 2 * rest < den * f.1 then some below
    else if den * f.1 < 2 * rest then some above
    else some (if below % 2 == 0 then below else above)
  | true, false => some below
  | false, true => some above
  | false, false => none

def searchDigits (m num den : Nat) (point : Int) : Nat → Nat → Decimal
  | 0, width => ⟨0, point - width⟩
  | fuel + 1, width =>
    match neighbour? m num den (point - width) with
    | some n => ⟨n, point - width⟩
    | none => searchDigits m num den point fuel (width + 1)

def Decimal.normalize (d : Decimal) : Nat → Decimal
  | 0 => d
  | fuel + 1 =>
    if d.digits % 10 == 0 && d.digits != 0 then
      Decimal.normalize ⟨d.digits / 10, d.exp + 1⟩ fuel
    else d

def shortest (x : Double) : Decimal :=
  let num := x.mantissa * Nat.pow 2 x.exponent
  let point := decimalPoint num scale 700 310
  (searchDigits x.magnitudeBits num scale point 18 1).normalize 20

structure Layout where
  /-- Positional notation is used while the decimal point lies in this range. -/
  lowest : Int
  highest : Int
  infinity : String
  notANumber : String

/-- The digits with `.0` or leading zeros as needed, or with a two-digit exponent. -/
def Layout.positive (l : Layout) (d : Decimal) : String :=
  let ds := Nat.repr d.digits
  let point : Int := d.exp + ds.length
  if l.lowest ≤ point && point ≤ l.highest then
    if d.exp ≥ 0 then ds ++ String.ofList (List.replicate d.exp.toNat '0') ++ ".0"
    else if point > 0 then
      String.ofList (ds.toList.take point.toNat) ++ "." ++
        String.ofList (ds.toList.drop point.toNat)
    else "0." ++ String.ofList (List.replicate (-point).toNat '0') ++ ds
  else
    let head := String.ofList (ds.toList.take 1)
    let tail := String.ofList (ds.toList.drop 1)
    let e := point - 1
    let digits := Nat.repr e.natAbs
    head ++ (if tail.isEmpty then "" else "." ++ tail) ++ "e" ++ (if e < 0 then "-" else "+") ++
      (if digits.length < 2 then "0" ++ digits else digits)

def Layout.text (l : Layout) (x : Double) : String :=
  if x.isNaN then l.notANumber
  else
    let sign := if x.negative then "-" else ""
    if x.isInfinite then sign ++ l.infinity
    else if x.magnitudeBits == 0 then sign ++ "0.0"
    else sign ++ l.positive x.shortest

/-- Numbers in messages: positional from `0.0001` up to sixteen digits before the point. -/
def plain : Layout := ⟨-3, 16, "inf", "nan"⟩

/-- Numbers in JSON: as in messages, but for the names of what JSON has no notation for. -/
def json : Layout := ⟨-3, 16, "Infinity", "NaN"⟩

def text (x : Double) : String :=
  plain.text x

end Farcall.Double
