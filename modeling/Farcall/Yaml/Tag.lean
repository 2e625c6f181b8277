import Farcall.Yaml.Timestamp

/-!
# Tags

The kinds of values that nodes stand for. A plain scalar without a tag has the kind its spelling
shows; every other scalar without a tag is a text.
-/

namespace Farcall.Yaml

inductive Tag where
  | null
  | bool
  | int
  | float
  | binary
  | timestamp
  | str
  | seq
  | map
  /-- A list of pairs with distinct keys. -/
  | omap
  | pairs
  | set
  /-- The key of entries that come from other mappings. -/
  | merge
  /-- The key of the entry that stands for its mapping. -/
  | value
  | other (text : String)
deriving DecidableEq

namespace Tag

def standardStart : String := "tag:yaml.org,2002:"

def standard : List (String × Tag) :=
  [("null", null), ("bool", bool), ("int", int), ("float", float), ("binary", binary),
    ("timestamp", timestamp), ("str", str), ("seq", seq), ("map", map), ("omap", omap),
    ("pairs", pairs), ("set", set), ("merge", merge), ("value", value)]

def ofText (s : String) : Tag :=
  match standard.find? fun t => standardStart ++ t.1 = s with
  | some t => t.2
  | none => other s

def nullWords : List String := ["~", "null", "Null", "NULL"]

def boolWords : List String :=
  ["yes", "Yes", "YES", "no", "No", "NO", "true", "True", "TRUE", "false", "False", "FALSE",
    "on", "On", "ON", "off", "Off", "OFF"]

def infinityWords : List String := [".inf", ".Inf", ".INF"]

def nanWords : List String := [".nan", ".NaN", ".NAN"]

def isDigitOrGroup (c : Char) : Bool :=
  c.isDigit || c == '_'

def afterSign : List Char → List Char
  | '+' :: rest => rest
  | '-' :: rest => rest
  | cs => cs

def allOf (p : Char → Bool) (cs : List Char) : Bool :=
  !cs.isEmpty && cs.all p

def colonParts : List Char → List (List Char)
  | [] => [[]]
  | c :: rest =>
    match colonParts rest with
    | [] => [[c]]
    | part :: parts => if c == ':' then [] :: part :: parts else (c :: part) :: parts

def isSixtieth : List Char → Bool
  | [d] => d.isDigit
  | [t, d] => '0' ≤ t && t ≤ '5' && d.isDigit
  | _ => false

/-- Parts of a number to the base sixty, of which the first may be any number. -/
def isSexagesimal (first : List Char → Bool) (cs : List Char) : Bool :=
  match colonParts cs with
  | part :: parts => first part && !parts.isEmpty && parts.all isSixtieth
  | [] => false

def isGroupedFrom (p : Char → Bool) : List Char → Bool
  | [] => false
  | d :: rest => p d && rest.all isDigitOrGroup

def isNonZeroDigit (c : Char) : Bool :=
  c.isDigit && c != '0'

def isInt (cs : List Char) : Bool :=
  let body := afterSign cs
  (match body with
    | '0' :: 'b' :: ds => allOf (fun c => c == '0' || c == '1' || c == '_') ds
    | '0' :: 'x' :: ds => allOf (fun c => (Json.hexValue? c).isSome || c == '_') ds
    | '0' :: ds => ds.all fun c => ('0' ≤ c && c ≤ '7') || c == '_'
    | _ => false) ||
    isGroupedFrom isNonZeroDigit body || isSexagesimal (isGroupedFrom isNonZeroDigit) body

def isExponent : List Char → Bool
  | [] => true
  | e :: sign :: ds =>
    (e == 'e' || e == 'E') && (sign == '+' || sign == '-') && allOf Char.isDigit ds
  | _ => false

def isFloat (cs : List Char) : Bool :=
  let body := afterSign cs
  let whole := body.takeWhile (· != '.')
  match body.dropWhile (· != '.') with
  | [] => false
  | _ :: rest =>
    let tail := rest.dropWhile isDigitOrGroup
    (isGroupedFrom Char.isDigit whole && isExponent tail) ||
      (whole.isEmpty && body.length == cs.length && isGroupedFrom Char.isDigit
        (rest.takeWhile isDigitOrGroup) && isExponent tail) ||
      (isSexagesimal (isGroupedFrom Char.isDigit) whole && tail.isEmpty) ||
      infinityWords.contains (String.ofList body) || nanWords.contains (String.ofList cs)

def withoutLineFeed (cs : List Char) : List Char :=
  if cs.getLast? == some '\n' then cs.dropLast else cs

/-- The kind that the spelling of a plain scalar shows. A line feed at the end does not count. -/
def ofSpelling (s : String) : Tag :=
  let cs := withoutLineFeed s.toList
  let word := String.ofList cs
  if s.isEmpty then null
  else if boolWords.contains word then bool
  else if isFloat cs then float
  else if isInt cs then int
  else if word = "<<" then merge
  else if nullWords.contains word then null
  else if Timestamp.isSpelled cs then timestamp
  else if word = "=" then value
  else if ["!", "&", "*"].contains word then other (standardStart ++ "yaml")
  else str

end Tag

end Farcall.Yaml
