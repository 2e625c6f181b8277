import Farcall.Text.Alphabet
import Farcall.Text.Printable

/-!
# Quoted text

Text as messages show it: between quotes, with backslash escapes for the quote, the backslash,
line breaks, tabs and everything unprintable. Apostrophes are used unless the text holds one and
holds no double quote.
-/

namespace Farcall.Text

def hexDigit (n : Nat) : Char :=
  Nat.digitChar n

def hex (width n : Nat) : List Char :=
  match width with
  | 0 => []
  | w + 1 => hex w (n / 16) ++ [hexDigit (n % 16)]

def escapeCode (n : Nat) : List Char :=
  if n < 0x100 then '\\' :: 'x' :: hex 2 n
  else if n < 0x10000 then '\\' :: 'u' :: hex 4 n
  else '\\' :: 'U' :: hex 8 n

def quoteChar [Alphabet] (quote c : Char) : List Char :=
  if c == quote || c == '\\' then ['\\', c]
  else if c == '\n' then ['\\', 'n']
  else if c == '\r' then ['\\', 'r']
  else if c == '\t' then ['\\', 't']
  else if isPrintable c then [c]
  else escapeCode (Alphabet.code c)

def chooseQuote (cs : List Char) : Char :=
  if cs.contains '\'' && !cs.contains '\"' then '\"' else '\''

def quoted [Alphabet] (s : String) : String :=
  let quote := chooseQuote s.toList
  String.ofList (quote :: s.toList.flatMap (quoteChar quote) ++ [quote])

def quoteByte [Alphabet] (quote : Char) (b : UInt8) : List Char :=
  let c := Char.ofNat b.toNat
  if b.toNat < 0x80 then quoteChar quote c else escapeCode b.toNat

def quotedBytes [Alphabet] (bytes : List UInt8) : String :=
  let quote := chooseQuote (bytes.map fun b => Char.ofNat b.toNat)
  String.ofList ('b' :: quote :: bytes.flatMap (quoteByte quote) ++ [quote])

end Farcall.Text
