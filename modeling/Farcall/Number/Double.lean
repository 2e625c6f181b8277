/-!
# Double-precision numbers

Binary floating-point numbers with 53 significant bits, held as their 64-bit pattern. Arithmetic
is exact arithmetic on fractions of natural numbers followed by one rounding to the nearest
number, so every operation here is decided inside the logic.
-/

namespace Farcall

/-- A double-precision number, by its bit pattern. -/
structure Double where
  bits : UInt64
deriving DecidableEq, Inhabited

namespace Double

def negative (x : Double) : Bool :=
  x.bits.toNat / Nat.pow 2 63 == 1

def magnitudeBits (x : Double) : Nat :=
  x.bits.toNat % Nat.pow 2 63

def ofMagnitude (negative : Bool) (n : Nat) : Double :=
  ⟨UInt64.ofNat (n % Nat.pow 2 63 + if negative then Nat.pow 2 63 else 0)⟩

/-- The unsigned pattern of infinity; larger ones are not numbers. -/
def infinityBits : Nat := 2047 * Nat.pow 2 52

def infinity (negative : Bool) : Double :=
  ofMagnitude negative infinityBits

def nan : Double :=
  ofMagnitude false (infinityBits + Nat.pow 2 51)

def isNaN (x : Double) : Bool :=
  infinityBits < x.magnitudeBits

def isInfinite (x : Double) : Bool :=
  x.magnitudeBits == infinityBits

def isFinite (x : Double) : Bool :=
  x.magnitudeBits < infinityBits

/-- The absolute value of a finite number is `mantissa * 2 ^ (exponent - 1074)`. -/
def mantissa (x : Double) : Nat :=
  let field := x.magnitudeBits / Nat.pow 2 52
  x.magnitudeBits % Nat.pow 2 52 + if field == 0 then 0 else Nat.pow 2 52

def exponent (x : Double) : Nat :=
  x.magnitudeBits / Nat.pow 2 52 - 1

def scale : Nat := Nat.pow 2 1074

def scaled (x : Double) : Int :=
  let n : Int := (x.mantissa * Nat.pow 2 x.exponent : Nat)
  if x.negative then -n else n

/-- The quotient rounded to the nearest natural number, a tie to the even one. -/
def roundDiv (num den : Nat) : Nat :=
  let q := num / den
  let r := num % den
  if 2 * r < den then q
  else if den < 2 * r then q + 1
  else if q % 2 == 0 then q else q + 1

def roundMagnitude (num den : Nat) : Nat :=
  if num = 0 then 0 else
  let units := num * scale / den
  let shift := if units < Nat.pow 2 53 then 0 else units.log2 - 52
  min (shift * Nat.pow 2 52 + roundDiv (num * scale) (den * Nat.pow 2 shift)) infinityBits

/-- The number nearest to `num / den`, a tie to the even neighbour. -/
def ofRatio (negative : Bool) (num den : Nat) : Double :=
  ofMagnitude negative (roundMagnitude num den)

/-- The number nearest to `digits * 10 ^ exp`, where `digits` is written with `width` digits. -/
def ofDecimal (negative : Bool) (digits width : Nat) (exp : Int) : Double :=
  if digits = 0 then ofMagnitude negative 0
  else if exp + width > 400 then infinity negative
  else if exp + width < -400 then ofMagnitude negative 0
  else
    match exp with
    | .ofNat e => ofRatio negative (digits * Nat.pow 10 e) 1
    | .negSucc e => ofRatio negative digits (Nat.pow 10 (e + 1))

def ofInt (n : Int) : Double :=
  ofRatio (n < 0) n.natAbs 1

def add (x y : Double) : Double :=
  if x.isNaN || y.isNaN then nan
  else if x.isInfinite then
    if y.isInfinite && x.negative != y.negative then nan else x
  else if y.isInfinite then y
  else
    let s := x.scaled + y.scaled
    if s = 0 then ofMagnitude (x.negative && y.negative) 0
    else ofRatio (s < 0) s.natAbs scale

def mulNat (x : Double) (n : Nat) : Double :=
  if x.isNaN then nan
  else if x.isInfinite then if n = 0 then nan else x
  else ofRatio x.negative (x.scaled.natAbs * n) scale

def neg (x : Double) : Double :=
  ofMagnitude (!x.negative) x.magnitudeBits

/-- A number as a point of the extended line, `none` if it is no number. Infinities lie beyond
every multiple of the unit. -/
def order? (x : Double) : Option Int :=
  if x.isNaN then none
  else if x.isInfinite then
    let far : Int := Nat.pow 2 4096
    some (if x.negative then -far else far)
  else some x.scaled

/-- Strict order; false as soon as one side is no number. -/
def lt (x y : Double) : Bool :=
  match x.order?, y.order? with
  | some a, some b => a < b
  | _, _ => false

/-- Equality of value: zeros of both signs agree, and what is no number differs from itself. -/
def same (x y : Double) : Bool :=
  match x.order?, y.order? with
  | some a, some b => a == b
  | _, _ => false

def toInt? (x : Double) : Option Int :=
  if x.isFinite && x.scaled % (scale : Int) == 0 then some (x.scaled / (scale : Int)) else none

end Double

end Farcall
