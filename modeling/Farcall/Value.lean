import Farcall.Number.Double

/-!
# Values

The dynamic values that service descriptions, call arguments and responses are made of. Mappings
keep the order in which their keys were first written.
-/

namespace Farcall

structure Date where
  year : Nat
  month : Nat
  day : Nat
deriving DecidableEq, Inhabited

structure Moment where
  date : Date
  hour : Nat
  minute : Nat
  second : Nat
  microsecond : Nat
  /-- Minutes ahead of universal time, if the time names its zone. -/
  offset : Option Int
deriving DecidableEq, Inhabited

inductive Value where
  | null
  | bool (b : Bool)
  | int (n : Int)
  | float (x : Double)
  | str (s : String)
  | bytes (data : List UInt8)
  | list (items : List Value)
  | tuple (items : List Value)
  | set (items : List Value)
  | map (entries : List (Value × Value))
  | date (d : Date)
  | moment (t : Moment)
  /-- A callable, known by its name. -/
  | function (name : String)
  /-- The accessor of an enumeration, known by the enumeration's name; it is callable too. -/
  | codec (name : String)
deriving Inhabited

abbrev Record := List (Value × Value)

namespace Value

/-- The number a value counts as in comparisons; truth values count as 0 and 1. -/
inductive Numeric where
  | int (n : Int)
  | float (x : Double)

def numeric? : Value → Option Numeric
  | .bool b => some (.int (if b then 1 else 0))
  | .int n => some (.int n)
  | .float x => some (.float x)
  | _ => none

def Numeric.same : Numeric → Numeric → Bool
  | .int a, .int b => a == b
  | .float a, .float b => a.same b
  | .int a, .float b => b.toInt? == some a
  | .float a, .int b => a.toInt? == some b

def sameScalar (a b : Value) : Bool :=
  match a.numeric?, b.numeric? with
  | some m, some n => m.same n
  | none, none =>
    match a, b with
    | .null, .null => true
    | .str s, .str t => s == t
    | .bytes s, .bytes t => s == t
    | .date d, .date e => d == e
    | .moment s, .moment t => s == t
    | .function f, .function g => f == g
    | .codec f, .codec g => f == g
    | _, _ => false
  | _, _ => false

mutual

/-- Equality of values: numbers compare across kinds, lists by position, mappings by key. -/
def same : Value → Value → Bool
  | .list xs, b => match b with
    | .list ys => sameList xs ys
    | _ => false
  | .tuple xs, b => match b with
    | .tuple ys => sameList xs ys
    | _ => false
  | .set xs, b => match b with
    | .set ys => xs.length == ys.length && allIn xs ys
    | _ => false
  | .map xs, b => match b with
    | .map ys => xs.length == ys.length && allEntriesIn xs ys
    | _ => false
  | a, b => sameScalar a b

def sameList : List Value → List Value → Bool
  | [], [] => true
  | x :: xs, y :: ys => same x y && sameList xs ys
  | _, _ => false

def allIn : List Value → List Value → Bool
  | [], _ => true
  | x :: xs, ys => ys.any (same x) && allIn xs ys

def allEntriesIn : List (Value × Value) → List (Value × Value) → Bool
  | [], _ => true
  | (k, v) :: rest, ys => ys.any (fun e => same k e.1 && same v e.2) && allEntriesIn rest ys

end

theorem same_str (a b : String) : (str a).same (.str b) = (a == b) := by
  simp [same, sameScalar, numeric?]

theorem same_str_iff {v : Value} {name : String} : v.same (.str name) = true ↔ v = .str name := by
  cases v <;> simp [same, sameScalar, numeric?]

theorem str_same_iff {v : Value} {name : String} : (str name).same v = true ↔ v = .str name := by
  cases v with
  | str t => simpa [same_str] using eq_comm
  | _ => simp [same, sameScalar, numeric?]

mutual

/-- Whether a value may be a key: everything but lists, sets and mappings. -/
def hashable : Value → Bool
  | .list _ => false
  | .set _ => false
  | .map _ => false
  | .tuple xs => allHashable xs
  | _ => true

def allHashable : List Value → Bool
  | [] => true
  | x :: xs => x.hashable && allHashable xs

end

/-- Whether a value counts as true: zero, empty and null values do not. -/
def truthy : Value → Bool
  | .null => false
  | .bool b => b
  | .int n => n != 0
  | .float x => x.magnitudeBits != 0
  | .str s => s != ""
  | .bytes b => !b.isEmpty
  | .list xs => !xs.isEmpty
  | .tuple xs => !xs.isEmpty
  | .set xs => !xs.isEmpty
  | .map es => !es.isEmpty
  | _ => true

def callable : Value → Bool
  | .function _ => true
  | .codec _ => true
  | _ => false

def lookup? (entries : List (Value × Value)) (key : Value) : Option Value :=
  (entries.find? fun e => e.1.same key).map Prod.snd

/-- Sets a key: a known key keeps its place and takes the new value, a new one goes last. -/
def assign (entries : List (Value × Value)) (key value : Value) : List (Value × Value) :=
  match entries with
  | [] => [(key, value)]
  | e :: rest => if e.1.same key then (e.1, value) :: rest else e :: assign rest key value

/-- A mapping from its written entries; of equal keys the first place and the last value stay. -/
def ofEntries (entries : List (Value × Value)) : Value :=
  .map (entries.foldl (fun acc e => assign acc e.1 e.2) [])

def get? (entries : List (Value × Value)) (key : String) : Option Value :=
  lookup? entries (.str key)

def getD (entries : List (Value × Value)) (key : String) : Value :=
  (get? entries key).getD .null

/-- The members met when going through a value: characters of a text, bytes as numbers, keys of a
mapping. Other values have no members. -/
def members? : Value → Option (List Value)
  | .str s => some (s.toList.map fun c => .str (String.singleton c))
  | .bytes b => some (b.map fun x => .int x.toNat)
  | .list xs => some xs
  | .tuple xs => some xs
  | .set xs => some xs
  | .map es => some (es.map Prod.fst)
  | _ => none

end Value

end Farcall
