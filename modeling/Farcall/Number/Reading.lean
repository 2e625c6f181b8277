import Farcall.Number.Double
import Farcall.Text.Blank
import Farcall.Text.Digit
import Farcall.Text.Lowercase

/-!
# Reading numbers

Decimal texts as double-precision numbers. Digits may be of any script and may be grouped by single
underscores; blanks around the number do not count.
-/

namespace Farcall.Double

def plainDigit (c : Char) : Char :=
  match Text.digitValue? c with
  | some d => Char.ofNat ('0'.toNat + d)
  | none => c

/-- The digits without the underscores between them; an underscore anywhere else is an error. -/
def ungroup? (afterDigit : Bool) : List Char → Option (List Char)
  | [] => some []
  | '_' :: c :: rest =>
    if afterDigit && c.isDigit then (ungroup? true rest).map (c :: ·) else none
  | ['_'] => none
  | c :: rest => (ungroup? c.isDigit rest).map (c :: ·)

def natOfDigits (ds : List Char) : Nat :=
  ds.foldl (fun n c => n * 10 + (c.toNat - '0'.toNat)) 0

def takeSign : List Char → Bool × List Char
  | '-' :: rest => (true, rest)
  | '+' :: rest => (false, rest)
  | cs => (false, cs)

def exponent? : List Char → Option Int
  | [] => some 0
  | e :: rest =>
    if e == 'e' || e == 'E' then
      let (negative, ds) := takeSign rest
      if ds.isEmpty || !ds.all Char.isDigit then none
      else
        let ds := ds.dropWhile (· == '0')
        let n := if ds.length > 12 then Nat.pow 10 12 else natOfDigits ds
        some (if negative then -(n : Int) else n)
    else none

def unsigned? (negative : Bool) (cs : List Char) : Option Double :=
  let whole := cs.takeWhile Char.isDigit
  let rest := cs.dropWhile Char.isDigit
  let (fraction, rest) := match rest with
    | '.' :: more => (more.takeWhile Char.isDigit, more.dropWhile Char.isDigit)
    | _ => ([], rest)
  let digits := (whole ++ fraction).dropWhile (· == '0')
  if whole.isEmpty && fraction.isEmpty then none
  else
    (exponent? rest).map fun e =>
      ofDecimal negative (natOfDigits digits) digits.length (e - fraction.length)

def ofText? (s : String) : Option Double :=
  let (negative, body) := takeSign ((Text.trim s).toList.map plainDigit)
  let word := Text.lower (String.ofList body)
  if word == "inf" || word == "infinity" then some (infinity negative)
  else if word == "nan" then some nan
  else (ungroup? false body).bind (unsigned? negative)

end Farcall.Double
