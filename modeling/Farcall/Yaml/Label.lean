import Farcall.Yaml.Quoted

/-!
# Names and tags

The words that stand before a node (its name and its tag), references to named nodes, and the
directives before a document. A tag is written in full between angle brackets, or as a handle and
the rest of the tag; characters of a tag may be written as the bytes of their encoding.
-/

namespace Farcall.Yaml

def isWordChar (c : Char) : Bool :=
  c.isAlphanum || c == '-' || c == '_'

def isTagChar (c : Char) : Bool :=
  c.isAlphanum || "-;/?:@&=+$,_.!~*'()[]%".toList.contains c

def endsName (c : Option Char) : Bool :=
  endsWord c || c.any ("?:,]\x7d%@\x60".toList.contains ·)

def name (c : Cursor) : Except Problem (String × Cursor) :=
  let (cs, c) := c.span isWordChar
  if cs.isEmpty then refuse c "a name is empty"
  else if endsName c.peek then .ok (String.ofList cs, c)
  else refuse c "a name holds other characters than letters, digits, dashes and underscores"

/-- The bytes written as percent signs and hexadecimal digits from here on. The first argument
bounds their number. -/
def escapedBytes : Nat → Cursor → Except Problem (List UInt8 × Cursor)
  | 0, c => .ok ([], c)
  | fuel + 1, c =>
    if isAt '%' c.peek then do
      let (n, c) ← hexDigits 2 c.next
      let (bs, c) ← escapedBytes fuel c
      return (UInt8.ofNat n :: bs, c)
    else .ok ([], c)

/-- The characters of a tag from here on. The first argument bounds their number. -/
def tagChars : Nat → Cursor → Except Problem (List Char × Cursor)
  | 0, c => .ok ([], c)
  | fuel + 1, c =>
    match c.peek with
    | none => .ok ([], c)
    | some ch =>
      if ch == '%' then do
        let (bytes, after) ← escapedBytes (c.rest.length + 1) c
        match Text.utf8? bytes with
        | none => refuse c "the bytes within a tag are no text"
        | some s =>
          let (cs, c) ← tagChars fuel after
          return (s.toList ++ cs, c)
      else if isTagChar ch then do
        let (cs, c) ← tagChars fuel c.next
        return (ch :: cs, c)
      else .ok ([], c)

def tagText (c : Cursor) : Except Problem (String × Cursor) :=
  if c.peek.any isTagChar then
    (tagChars (c.rest.length + 1) c).map fun (cs, c) => (String.ofList cs, c)
  else refuse c "a tag is empty"

def tagHandle (c : Cursor) : Except Problem (String × Cursor) :=
  if !isAt '!' c.peek then refuse c "a handle starts with an exclamation mark"
  else if isAt ' ' (c.peekAt 1) then .ok ("!", c.next)
  else
    let (word, after) := c.next.span isWordChar
    if isAt '!' after.peek then .ok (String.ofList ('!' :: (word ++ ['!'])), after.next)
    else refuse after "a handle ends with an exclamation mark"

def tag (c : Cursor) : Except Problem (Token × Cursor) := do
  let (t, c) ← if isAt '<' (c.peekAt 1) then do
      let (text, c) ← tagText (c.advance 2)
      if isAt '>' c.peek then pure (Token.tag none text, c.next)
      else refuse c "a tag is not closed"
    else if endsWord (c.peekAt 1) then pure (Token.tag none "!", c.next)
    else
      let word := c.next.rest.takeWhile fun ch => !endsField (some ch)
      if word.contains '!' then do
        let (handle, c) ← tagHandle c
        let (text, c) ← tagText c
        pure (Token.tag (some handle) text, c)
      else do
        let (text, c) ← tagText c.next
        pure (Token.tag (some "!") text, c)
  if endsField c.peek then return (t, c) else refuse c "a tag is followed by text"

def versionNumber (c : Cursor) : Except Problem (Nat × Cursor) :=
  let (ds, c) := c.span Char.isDigit
  if ds.isEmpty then refuse c "a version is a number" else .ok (Json.natOfDigits ds, c)

def directiveBody (word : String) (c : Cursor) : Except Problem (Directive × Cursor) :=
  if word = "YAML" then do
    let (major, c) ← versionNumber c.skipSpaces
    if !isAt '.' c.peek then refuse c "a version has two numbers"
    else
      let (minor, c) ← versionNumber c.next
      if endsField c.peek then return (.version major minor, c)
      else refuse c "a version is followed by text"
  else if word = "TAG" then do
    let (handle, c) ← tagHandle c.skipSpaces
    if !isAt ' ' c.peek then refuse c "a handle is followed by text"
    else
      let (start, c) ← tagText c.skipSpaces
      if endsField c.peek then return (.tagHandle handle start, c)
      else refuse c "a tag is followed by text"
  else .ok (.unknown, c.skip (!isBreak ·))

def directive (c : Cursor) : Except Problem (Token × Cursor) := do
  let (word, c) := c.next.span isWordChar
  if word.isEmpty || !endsField c.peek then refuse c "a directive has no name"
  else
    let (d, c) ← directiveBody (String.ofList word) c
    let c := c.skipSpaces.skipComment
    if endsLine c.peek then return (.directive d, c.skipLineEnd)
    else refuse c "a directive is followed by text"

end Farcall.Yaml
