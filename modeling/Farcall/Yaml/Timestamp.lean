import Farcall.Json.Reader

/-!
# Timestamps

The spelling of dates and of times on them: a year of four digits, a month and a day, then perhaps a
time with a fraction of a second and an offset from universal time.
-/

namespace Farcall.Yaml

structure ClockText where
  hour : Nat
  minute : Nat
  second : Nat
  /-- The digits after the decimal point. -/
  fraction : List Char
  /-- The offset from universal time in minutes, if there is one. -/
  offset : Option Int

structure Timestamp where
  year : Nat
  month : Nat
  day : Nat
  clock : Option ClockText

namespace Timestamp

def number? (least most : Nat) (cs : List Char) : Option (Nat × List Char) :=
  let ds := (cs.take most).takeWhile Char.isDigit
  if ds.length < least then none else some (Json.natOfDigits ds, cs.drop ds.length)

def after? (c : Char) : List Char → Option (List Char)
  | [] => none
  | x :: rest => if x == c then some rest else none

def offset? (cs : List Char) : Option (Option Int) :=
  match cs.dropWhile fun c => c == ' ' || c == '\t' with
  | [] => if cs.isEmpty then some none else none
  | ['Z'] => some (some 0)
  | sign :: rest => do
    if sign != '+' && sign != '-' then none
    else
      let (hours, rest) ← number? 1 2 rest
      let minutes ← match rest with
        | [] => some 0
        | _ => do
          let (n, rest) ← number? 2 2 (← after? ':' rest)
          if rest.isEmpty then some n else none
      let total : Int := hours * 60 + minutes
      return some (if sign == '-' then -total else total)

def clock? (cs : List Char) : Option ClockText := do
  let (hour, cs) ← number? 1 2 cs
  let (minute, cs) ← number? 2 2 (← after? ':' cs)
  let (second, cs) ← number? 2 2 (← after? ':' cs)
  let (fraction, cs) := match cs with
    | '.' :: rest => (rest.takeWhile Char.isDigit, rest.dropWhile Char.isDigit)
    | _ => ([], cs)
  return ⟨hour, minute, second, fraction, ← offset? cs⟩

def afterSeparator? : List Char → Option (List Char)
  | [] => none
  | c :: rest =>
    if c == 'T' || c == 't' then some rest
    else if c == ' ' || c == '\t' then some (rest.dropWhile fun c => c == ' ' || c == '\t')
    else none

def ofChars? (cs : List Char) : Option Timestamp := do
  let (year, cs) ← number? 4 4 cs
  let (month, cs) ← number? 1 2 (← after? '-' cs)
  let (day, cs) ← number? 1 2 (← after? '-' cs)
  if cs.isEmpty then return ⟨year, month, day, none⟩
  else return ⟨year, month, day, some (← clock? (← afterSeparator? cs))⟩

/-- Whether a text without a tag is a timestamp: a bare date has two digits for month and day. -/
def isSpelled (cs : List Char) : Bool :=
  match ofChars? cs with
  | some t => t.clock.isSome || cs.length == 10
  | none => false

end Timestamp

end Farcall.Yaml
