import Farcall.Text.Encoding

/-!
# Alphabets

A text is a list of code points. Halves of surrogate pairs are code points too, but no characters; a
description can bring them in by escapes. Texts that hold halves are written in an alphabet in which
the characters of a private block stand for them. Unless an alphabet is given, every character stands
for itself, and texts are made of Unicode scalar values only.
-/

namespace Farcall

/-- What characters stand for. -/
class Alphabet where
  /-- The characters that stand for halves, if there are any: a block of 2048 private ones, by its
  number. -/
  block? : Option (Fin 64)

namespace Alphabet

instance plain : Alphabet := ⟨none⟩

def first (b : Fin 64) : Nat :=
  0xF0000 + 0x800 * b

/-- An alphabet for halves beside given code points: none of these is in its block. -/
@[reducible] def avoiding (ns : List Nat) : Alphabet :=
  ⟨(List.finRange 64).find? fun b => ns.all fun n => n < first b || first b + 0x800 ≤ n⟩

def code [a : Alphabet] (c : Char) : Nat :=
  match a.block? with
  | none => c.toNat
  | some b =>
    if first b ≤ c.toNat ∧ c.toNat < first b + 0x800 then 0xD800 + (c.toNat - first b) else c.toNat

@[simp] theorem code_plain (c : Char) : code c = c.toNat := rfl

def isHalf [Alphabet] (c : Char) : Bool :=
  0xD800 ≤ code c && code c < 0xE000

def half [a : Alphabet] (n : Nat) : Char :=
  match a.block? with
  | none => Text.replacement
  | some b => Char.ofNat (first b + (n - 0xD800))

end Alphabet

namespace Text

def codes [Alphabet] (s : String) : List Nat :=
  s.toList.map Alphabet.code

/-- Whether a text has an encoding: halves have none. -/
def isEncodable [Alphabet] (s : String) : Bool :=
  s.toList.all (!Alphabet.isHalf ·)

def codeUnits (n : Nat) : List Nat :=
  if n < 0x10000 then [n] else [0xD800 + (n - 0x10000) / 0x400, 0xDC00 + (n - 0x10000) % 0x400]

def units [Alphabet] (s : String) : List Nat :=
  (codes s).flatMap codeUnits

end Text

end Farcall
