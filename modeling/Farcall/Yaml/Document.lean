import Farcall.Yaml.Scalar

/-!
# The values of documents

A document as a value. Collections are read level by level: all of one level before the parts of its
parts, so of several problems the one at the lowest level is reported, and on one level the first.
A mapping takes over the entries of the mappings it merges; they come before its own, and an own
entry replaces a merged one of the same key.
-/

namespace Farcall.Yaml

namespace Node

def tag : Node → Tag
  | .scalar t _ => t
  | .sequence t _ => t
  | .mapping t _ => t

mutual

/-- The text a node stands for where a scalar is needed: its own, or that of the entry of a mapping
which stands for the mapping. -/
def scalarText? : Node → Option String
  | .scalar _ s => some s
  | .sequence _ _ => none
  | .mapping _ es => entryText? es

def entryText? : List (Node × Node) → Option String
  | [] => none
  | (k, v) :: rest => if k.tag = .value then v.scalarText? else entryText? rest

end

end Node

/-- A problem and when it is met: problems of a lower rank are met first. -/
structure Trouble where
  rank : Nat
  problem : Problem

/-- A part of a document that has been read, or what is wrong with it. -/
abbrev Outcome (α : Type) := Except Trouble α

namespace Outcome

/-- Two parts that are read one after the other; of two problems of one rank the first counts. -/
def both {α β γ : Type} (f : α → β → γ) (a : Outcome α) (b : Outcome β) : Outcome γ :=
  match a, b with
  | .ok x, .ok y => .ok (f x y)
  | .error e, .error d => .error (if d.rank < e.rank then d else e)
  | .error e, .ok _ => .error e
  | .ok _, .error d => .error d

def atRank {α : Type} (rank : Nat) (r : Except Problem α) : Outcome α :=
  r.mapError fun p => ⟨rank, p⟩

def malformed {α : Type} (rank : Nat) (reason : String) : Outcome α :=
  .error ⟨rank, .malformed 0 reason⟩

end Outcome

def mergeRank (level : Nat) : Nat :=
  2 * level

def partRank (level : Nat) : Nat :=
  2 * level + 1

def isCollection : Tag → Bool
  | .seq | .map | .omap | .pairs | .set => true
  | _ => false

/-- The value of a node that is not a collection of the kind its tag tells. Collections are read one
level after the nodes that hold them. -/
def misfit (level : Nat) (n : Node) : Outcome Value :=
  if isCollection n.tag then .malformed (partRank (level + 1)) "a node has the tag of another kind"
  else
    match n.scalarText? with
    | none => .malformed (partRank level) "a collection has the tag of a scalar"
    | some s => match n, n.tag with
      | .mapping _ _, .timestamp => .atRank (partRank level) (.error (.fault .wrongKind))
      | _, t => .atRank (partRank level) (Scalar.value t s)

def setOf (entries : Record) : Value :=
  match Value.ofEntries entries with
  | .map es => .set (es.map Prod.fst)
  | v => v

mutual

def valueAt (level : Nat) : Node → Outcome Value
  | .scalar t s => misfit level (.scalar t s)
  | .sequence t items => match t with
    | .seq => (valuesAt (level + 1) items).map .list
    | .omap => (pairsAt (level + 1) items).map .list
    | .pairs => (pairsAt (level + 1) items).map .list
    | _ => misfit level (.sequence t items)
  | .mapping t entries => match t with
    | .map => (recordAt (level + 1) entries).map Value.ofEntries
    | .set => (recordAt (level + 1) entries).map setOf
    | _ => misfit level (.mapping t entries)

def valuesAt (level : Nat) : List Node → Outcome (List Value)
  | [] => .ok []
  | n :: rest => .both (· :: ·) (valueAt level n) (valuesAt level rest)

def pairsAt (level : Nat) : List Node → Outcome (List Value)
  | [] => .ok []
  | .mapping _ [(k, v)] :: rest =>
    .both (· :: ·) (.both (fun k v => .tuple [k, v]) (valueAt level k) (valueAt level v))
      (pairsAt level rest)
  | _ :: _ => .malformed (partRank level) "a pair is a mapping with one entry"

def recordAt (level : Nat) (entries : List (Node × Node)) : Outcome Record :=
  .both (· ++ ·) (mergedAt level entries) (ownAt level entries)

def mergedAt (level : Nat) : List (Node × Node) → Outcome Record
  | [] => .ok []
  | (k, v) :: rest =>
    if k.tag = .merge then
      .both (· ++ ·)
        (match v with
          | .mapping _ es => recordAt level es
          | .sequence _ items => mergedItemsAt level items
          | .scalar _ _ => .malformed (mergeRank level) "only mappings can be merged")
        (mergedAt level rest)
    else mergedAt level rest

/-- The entries that a mapping takes over from several; the last come first. -/
def mergedItemsAt (level : Nat) : List Node → Outcome Record
  | [] => .ok []
  | .mapping _ es :: rest =>
    .both (fun own later => later ++ own) (recordAt level es) (mergedItemsAt level rest)
  | _ :: _ => .malformed (mergeRank level) "only mappings can be merged"

def ownAt (level : Nat) : List (Node × Node) → Outcome Record
  | [] => .ok []
  | (k, v) :: rest =>
    if k.tag = .merge then ownAt level rest
    else
      .both (· :: ·) (.both Prod.mk (keyAt level k) (valueAt level v)) (ownAt level rest)

def keyAt (level : Nat) (k : Node) : Outcome Value :=
  if k.tag = .value then .ok (.str (k.scalarText?.getD ""))
  else if isCollection k.tag then .malformed (partRank level) "a collection cannot be a key"
  else valueAt level k

end

def isAllowed (c : Char) : Bool :=
  c == '\t' || c == '\n' || c == '\r' || c == '\x85' || (' ' ≤ c && c ≤ '~') ||
    ('\xa0' ≤ c && c ≤ '\ufffd') || 0x10000 ≤ c.toNat

def read [Alphabet] (s : String) : Except Problem Value := do
  if s.toList.all isAllowed then
    match ← Node.ofText s with
    | none => return .null
    | some n => (valueAt 0 n).mapError Trouble.problem
  else .error (.malformed 0 "a character may not stand in a text")

end Farcall.Yaml
