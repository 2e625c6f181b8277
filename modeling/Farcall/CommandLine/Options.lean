import Farcall.Text.Quoted
import Farcall.Text.Similarity

/-!
# Options

The options and operands among the words of a command line. An option has a long name and perhaps a
letter; its value is attached to it or is the next word. Two dashes end the options.
-/

namespace Farcall.CommandLine

structure OptionSpec where
  name : String
  letter : Option Char
  takesValue : Bool

def helpOption : OptionSpec :=
  ⟨"--help", none, false⟩

structure Parsed where
  /-- The options that are given, with their values. -/
  given : List (String × String)
  operands : List String

namespace Parsed

def value? (p : Parsed) (name : String) : Option String :=
  p.given.reverse.lookup name

def has (p : Parsed) (name : String) : Bool :=
  (p.value? name).isSome

end Parsed

def unknownOption (specs : List OptionSpec) (name : String) : String :=
  let near := (specs.map OptionSpec.name).filter (Text.similar name)
  let names := ", ".intercalate (near.mergeSort)
  s!"No such option: {name}" ++
    match near with
    | [] => ""
    | [_] => s!" Did you mean {names}?"
    | _ => s!" (Possible options: {names})"

/-- The value of an option that has none attached, and the words after it. -/
def nextValue (name : String) : List String → Except String (String × List String)
  | [] => .error s!"Option {Text.quoted name} requires an argument."
  | v :: rest => .ok (v, rest)

def letters (specs : List OptionSpec) (rest : List String) :
    List Char → Except String (List (String × String) × List String)
  | [] => .ok ([], rest)
  | c :: more =>
    match specs.find? (·.letter == some c) with
    | none => .error (unknownOption [] (String.ofList ['-', c]))
    | some spec =>
      if !spec.takesValue then
        (letters specs rest more).map fun (given, rest) => ((spec.name, "") :: given, rest)
      else if more.isEmpty then
        (nextValue (String.ofList ['-', c]) rest).map fun (v, rest) => ([(spec.name, v)], rest)
      else .ok ([(spec.name, String.ofList more)], rest)

/-- The part of a word before its first equals sign, and the part after it. -/
def splitValue (word : String) : String × Option String :=
  let cs := word.toList
  match cs.dropWhile (· != '=') with
  | [] => (word, none)
  | _ :: value => (String.ofList (cs.takeWhile (· != '=')), some (String.ofList value))

def option (specs : List OptionSpec) (word : String) (rest : List String) :
    Except String (List (String × String) × List String) :=
  let (name, value) := splitValue word
  match specs.find? (·.name == name) with
  | some spec =>
    match spec.takesValue, value with
    | true, some v => .ok ([(name, v)], rest)
    | true, none => (nextValue name rest).map fun (v, rest) => ([(name, v)], rest)
    | false, some _ => .error s!"Option {Text.quoted name} does not take a value."
    | false, none => .ok ([(name, "")], rest)
  | none =>
    if word.startsWith "--" then .error (unknownOption specs name)
    else letters specs rest (word.toList.drop 1)

/-- Tells the words of a command line apart. Options may stand among the operands only if `mixed`
holds. The first argument bounds the number of words. -/
def parseWords (specs : List OptionSpec) (mixed : Bool) : Nat → List String → Except String Parsed
  | 0, _ => .ok ⟨[], []⟩
  | _ + 1, [] => .ok ⟨[], []⟩
  | fuel + 1, word :: rest =>
    if word = "--" then .ok ⟨[], rest⟩
    else if word.startsWith "-" && word ≠ "-" then do
      let (given, rest) ← option specs word rest
      let p ← parseWords specs mixed fuel rest
      return { p with given := given ++ p.given }
    else if mixed then do
      let p ← parseWords specs mixed fuel rest
      return { p with operands := word :: p.operands }
    else .ok ⟨[], word :: rest⟩

def parse (specs : List OptionSpec) (mixed : Bool) (words : List String) : Except String Parsed :=
  parseWords specs mixed (words.length + 1) words

end Farcall.CommandLine
