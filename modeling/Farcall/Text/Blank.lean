import Farcall.Text.CharSet

/-!
# Blanks and lines

Blank characters as Unicode's white space plus the four separators U+001C to U+001F, trimming, and
the division of a text into lines at every line boundary Unicode knows.
-/

namespace Farcall.Text

def blanks : CharSet := ⟨[
    (9, 13), (28, 32), (133, 133), (160, 160), (5760, 5760), (8192, 8202), (8232, 8233),
    (8239, 8239), (8287, 8287), (12288, 12288)]⟩

def isBlank (c : Char) : Bool :=
  blanks.contains c

def trimEndChars (cs : List Char) : List Char :=
  (cs.reverse.dropWhile isBlank).reverse

def trimEnd (s : String) : String :=
  String.ofList (trimEndChars s.toList)

def trim (s : String) : String :=
  String.ofList (trimEndChars (s.toList.dropWhile isBlank))

def endsLine (c : Char) : Bool :=
  (10 ≤ c.toNat && c.toNat ≤ 13) || (28 ≤ c.toNat && c.toNat ≤ 30) ||
    c.toNat == 0x85 || c.toNat == 0x2028 || c.toNat == 0x2029

/-- The lines of `cs` after the already read characters `current` (reversed) of a line. A carriage
return and the line feed after it end one line; no empty line follows the last boundary. -/
def linesFrom (current : List Char) : List Char → List (List Char)
  | [] => if current.isEmpty then [] else [current.reverse]
  | '\r' :: '\n' :: rest => current.reverse :: linesFrom [] rest
  | c :: rest =>
    if endsLine c then current.reverse :: linesFrom [] rest else linesFrom (c :: current) rest

def lines (s : String) : List String :=
  (linesFrom [] s.toList).map String.ofList

end Farcall.Text
