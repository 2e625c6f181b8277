/-!
# Base64

Bytes written as characters of six bits each. Characters outside of the alphabet do not count, and
what follows the padding is not read; data that stops within a byte is refused.
-/

namespace Farcall.Text

def sextet? (c : Char) : Option Nat :=
  if 'A' ≤ c ∧ c ≤ 'Z' then some (c.toNat - 'A'.toNat)
  else if 'a' ≤ c ∧ c ≤ 'z' then some (c.toNat - 'a'.toNat + 26)
  else if c.isDigit then some (c.toNat - '0'.toNat + 52)
  else if c == '+' then some 62
  else if c == '/' then some 63
  else none

/-- The bytes of the rest of a text, where `held` characters of the current group of four have been
read, `bits` are left of them, and `pads` padding characters came after them. -/
def base64From (held bits pads : Nat) : List Char → Option (List UInt8)
  | [] => if held = 0 then some [] else none
  | c :: rest =>
    if c == '=' then
      if held < 2 then base64From held bits pads rest
      else if held + pads + 1 < 4 then base64From held bits (pads + 1) rest
      else some []
    else
      match sextet? c, held with
      | none, _ => base64From held bits pads rest
      | some s, 0 => base64From 1 s 0 rest
      | some s, 1 => (base64From 2 (s % 16) 0 rest).map (UInt8.ofNat (bits * 4 + s / 16) :: ·)
      | some s, 2 => (base64From 3 (s % 4) 0 rest).map (UInt8.ofNat (bits * 16 + s / 4) :: ·)
      | some s, _ => (base64From 0 0 0 rest).map (UInt8.ofNat (bits * 64 + s) :: ·)

def base64? (cs : List Char) : Option (List UInt8) :=
  base64From 0 0 0 cs

end Farcall.Text
