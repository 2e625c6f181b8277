import Farcall.Yaml.Layout
import Farcall.Yaml.Tag

/-!
# Nodes

A document as a tree of tagged nodes. A reference stands for a copy of the node it names; a
reference from within that node stands for an empty collection. A text holds at most one document.
-/

namespace Farcall.Yaml

inductive Node where
  | scalar (tag : Tag) (text : String)
  | sequence (tag : Tag) (items : List Node)
  | mapping (tag : Tag) (entries : List (Node × Node))

instance : Inhabited Node := ⟨.scalar .null ""⟩

/-- The tokens not read yet and the names known so far. -/
structure Reading where
  tokens : List Token
  /-- What the handles of tags stand for. -/
  handles : List (String × String)
  anchors : List (String × Node)
  /-- How many more collections may stand within each other. -/
  room : Nat

abbrev Reader := StateT Reading (Except Problem)

namespace Reader

def refuse {α : Type} (reason : String) : Reader α :=
  throw (.malformed 0 reason)

def peek : Reader Token := do
  match (← get).tokens with
  | [] => return .streamEnd
  | .broken p :: _ => throw p
  | t :: _ => return t

def skip : Reader Unit :=
  modify fun r => { r with tokens := r.tokens.tail }

def standardHandles : List (String × String) :=
  [("!", "!"), ("!!", Tag.standardStart)]

def tagText (handle : Option String) (text : String) : Reader String := do
  match handle with
  | none => return text
  | some h =>
    match (← get).handles.lookup h with
    | some start => return start ++ text
    | none => refuse "a handle is unknown"

def takeTag : Reader (Option String) := do
  match ← peek with
  | .tag handle text =>
    skip
    return some (← tagText handle text)
  | _ => return none

def takeAnchor : Reader (Option String) := do
  match ← peek with
  | .anchor name =>
    skip
    return some name
  | _ => return none

def properties : Reader (Option String × Option String) := do
  match ← takeAnchor with
  | some name => return (some name, ← takeTag)
  | none =>
    let tag ← takeTag
    let anchor ← if tag.isSome then takeAnchor else pure none
    return (anchor, tag)

def scalarTag (tag : Option String) (plain : Bool) (text : String) : Tag :=
  match tag with
  | none => if plain then Tag.ofSpelling text else .str
  | some "!" => Tag.ofSpelling text
  | some t => Tag.ofText t

def collectionTag (tag : Option String) (kind : Tag) : Tag :=
  match tag with
  | none => kind
  | some "!" => kind
  | some t => Tag.ofText t

def absent : Node :=
  .scalar .null ""

/-- Gives a node its name; a name is given once. -/
def bind (anchor : Option String) (n : Node) : Reader Unit := do
  match anchor with
  | none => return
  | some name =>
    if ((← get).anchors.lookup name).isSome then refuse "a name is given twice"
    else modify fun r => { r with anchors := (name, n) :: r.anchors }

def rebind (anchor : Option String) (n : Node) : Reader Unit :=
  match anchor with
  | none => return
  | some name => modify fun r => { r with anchors := (name, n) :: r.anchors }

def find (name : String) : Reader Node := do
  match (← get).anchors.lookup name with
  | some n => return n
  | none => refuse "a name is unknown"

def nested {α : Type} (read : Reader α) : Reader α := do
  let room := (← get).room
  if room = 0 then throw (.fault .tooDeep)
  modify fun r => { r with room := room - 1 }
  let a ← read
  modify fun r => { r with room := room }
  return a

/-- Whether a node of a block collection is left out before a token. -/
def endsEntry : Token → Bool
  | .dash | .blockEnd => true
  | _ => false

/-- Whether a key or a value of a block mapping is left out before a token. -/
def endsPart : Token → Bool
  | .key | .value | .blockEnd => true
  | _ => false

/-- Whether an entry of a sequence without a block of its own is left out before a token. -/
def endsBareEntry : Token → Bool
  | .dash | .key | .value | .blockEnd => true
  | _ => false

def closes (mapping : Bool) : Token → Bool
  | .closeBrace => mapping
  | .closeBracket => !mapping
  | _ => false

def isComma : Token → Bool
  | .comma => true
  | _ => false

def isValue : Token → Bool
  | .value => true
  | _ => false

inductive Place where
  /-- Within brackets: nothing. -/
  | flow
  /-- Within a block: a block of its own. -/
  | block
  /-- In an entry of a block mapping: also dashes without a block of their own. -/
  | entry
deriving DecidableEq

mutual

/-- The next node. The first argument, here and below, bounds the number of steps. -/
def node : Nat → Place → Reader Node
  | 0, _ => refuse "the nodes are nested too deep"
  | fuel + 1, place => do
    match ← peek with
    | .reference name =>
      skip
      find name
    | _ =>
      let (anchor, tag) ← properties
      content fuel place anchor tag

def content : Nat → Place → Option String → Option String → Reader Node
  | 0, _, _, _ => refuse "the nodes are nested too deep"
  | fuel + 1, place, anchor, tag => do
    let sequence (read : Reader (List Node)) : Reader Node := do
      let kind := collectionTag tag .seq
      bind anchor (.sequence kind [])
      let n := Node.sequence kind (← nested read)
      rebind anchor n
      return n
    let mapping (read : Reader (List (Node × Node))) : Reader Node := do
      let kind := collectionTag tag .map
      bind anchor (.mapping kind [])
      let n := Node.mapping kind (← nested read)
      rebind anchor n
      return n
    let scalar (plain : Bool) (text : String) : Reader Node := do
      let n := Node.scalar (scalarTag tag plain text) text
      bind anchor n
      return n
    match ← peek with
    | .scalar plain text =>
      skip
      scalar plain text
    | .openBracket =>
      skip
      sequence (flowItems fuel true)
    | .openBrace =>
      skip
      mapping (flowEntries fuel true)
    | .dash =>
      if place = .entry then sequence (bareItems fuel) else leftOut anchor tag (scalar true "")
    | .sequenceStart =>
      if place = .flow then leftOut anchor tag (scalar true "")
      else
        skip
        sequence (blockItems fuel)
    | .mappingStart =>
      if place = .flow then leftOut anchor tag (scalar true "")
      else
        skip
        mapping (blockEntries fuel)
    | _ => leftOut anchor tag (scalar true "")

def leftOut (anchor tag : Option String) (n : Reader Node) : Reader Node :=
  if anchor.isSome || tag.isSome then n else refuse "a node is missing"

def blockItems : Nat → Reader (List Node)
  | 0 => refuse "the nodes are nested too deep"
  | fuel + 1 => do
    match ← peek with
    | .dash =>
      skip
      let n ← if endsEntry (← peek) then pure absent else node fuel .block
      return n :: (← blockItems fuel)
    | .blockEnd =>
      skip
      return []
    | _ => refuse "a block does not end where it should"

def bareItems : Nat → Reader (List Node)
  | 0 => refuse "the nodes are nested too deep"
  | fuel + 1 => do
    match ← peek with
    | .dash =>
      skip
      let n ← if endsBareEntry (← peek) then pure absent else node fuel .block
      return n :: (← bareItems fuel)
    | _ => return []

def blockEntries : Nat → Reader (List (Node × Node))
  | 0 => refuse "the nodes are nested too deep"
  | fuel + 1 => do
    match ← peek with
    | .key =>
      skip
      let k ← if endsPart (← peek) then pure absent else node fuel .entry
      let v ← blockValue fuel
      return (k, v) :: (← blockEntries fuel)
    | .blockEnd =>
      skip
      return []
    | _ => refuse "a block does not end where it should"

def blockValue : Nat → Reader Node
  | 0 => refuse "the nodes are nested too deep"
  | fuel + 1 => do
    if isValue (← peek) then
      skip
      if endsPart (← peek) then return absent else node fuel .entry
    else return absent

/-- The items of a flow sequence; all but the first follow a comma. -/
def flowItems : Nat → Bool → Reader (List Node)
  | 0, _ => refuse "the nodes are nested too deep"
  | fuel + 1, first => do
    if closes false (← peek) then
      skip
      return []
    else
      separate first
      match ← peek with
      | .key =>
        skip
        let n ← nested do
          let next ← peek
          let k ← if isValue next || isComma next || closes false next then pure absent
            else node fuel .flow
          return .mapping .map [(k, ← flowValue fuel false)]
        return n :: (← flowItems fuel false)
      | .closeBracket =>
        skip
        return []
      | _ =>
        let n ← node fuel .flow
        return n :: (← flowItems fuel false)

def separate (first : Bool) : Reader Unit := do
  if first then return
  else if isComma (← peek) then skip
  else refuse "a comma is missing"

/-- The entries of a flow mapping; all but the first follow a comma. -/
def flowEntries : Nat → Bool → Reader (List (Node × Node))
  | 0, _ => refuse "the nodes are nested too deep"
  | fuel + 1, first => do
    if closes true (← peek) then
      skip
      return []
    else
      separate first
      match ← peek with
      | .key =>
        skip
        let next ← peek
        let k ← if isValue next || isComma next || closes true next then pure absent
          else node fuel .flow
        let v ← flowValue fuel true
        return (k, v) :: (← flowEntries fuel false)
      | .closeBrace =>
        skip
        return []
      | _ =>
        let k ← node fuel .flow
        return (k, absent) :: (← flowEntries fuel false)

def flowValue : Nat → Bool → Reader Node
  | 0, _ => refuse "the nodes are nested too deep"
  | fuel + 1, mapping => do
    if isValue (← peek) then
      skip
      let next ← peek
      if isComma next || closes mapping next then return absent else node fuel .flow
    else return absent

end

/-- The directives before a document. The first argument bounds their number. -/
def directives : Nat → Bool → Reader Unit
  | 0, _ => return
  | fuel + 1, versioned => do
    match ← peek with
    | .directive (.version major _) =>
      skip
      if versioned then refuse "the version is given twice"
      else if major ≠ 1 then refuse "the version is unknown"
      else directives fuel true
    | .directive (.tagHandle handle start) =>
      skip
      if ((← get).handles.lookup handle).isSome then refuse "a handle is given twice"
      else
        modify fun r => { r with handles := (handle, start) :: r.handles }
        directives fuel versioned
    | .directive .unknown =>
      skip
      directives fuel versioned
    | _ => return

/-- Passes over the marks that end a document. The first argument bounds their number. -/
def skipEnds : Nat → Reader Unit
  | 0 => return
  | fuel + 1 => do
    match ← peek with
    | .documentEnd =>
      skip
      skipEnds fuel
    | _ => return

def documentBody (fuel : Nat) : Reader Node := do
  match ← peek with
  | .directive _ | .documentStart | .documentEnd | .streamEnd => return absent
  | _ => node fuel .block

def document (fuel : Nat) : Reader (Option Node) := do
  match ← peek with
  | .streamEnd => return none
  | .directive _ | .documentStart =>
    directives fuel false
    modify fun r => { r with handles := r.handles ++ standardHandles }
    match ← peek with
    | .documentStart =>
      skip
      return some (← documentBody fuel)
    | _ => refuse "a document does not start where it should"
  | _ =>
    modify fun r => { r with handles := standardHandles }
    return some (← node fuel .block)

def onlyDocument (fuel : Nat) : Reader (Option Node) := do
  match ← document fuel with
  | none => return none
  | some n =>
    skipEnds fuel
    match ← peek with
    | .streamEnd => return some n
    | _ => refuse "a text holds more than one document"

end Reader

/-- How deep a document may be nested: two calls of the interpreter stand for each collection. -/
def depthLimit : Nat := 480

def Node.ofText [Alphabet] (s : String) : Except Problem (Option Node) :=
  let ts := tokens s
  (Reader.onlyDocument (8 * ts.length + 8)).run' ⟨ts, [], [], depthLimit⟩

end Farcall.Yaml
