import Farcall.Failure

/-!
# Arguments

Values given to named parameters, by position or by name. Every parameter takes one value; one
without a default must be given.
-/

namespace Farcall

/-- A parameter of a call, with its default if it has one. -/
structure Slot where
  name : String
  default : Option Value

namespace Slot

def required (name : String) : Slot := ⟨name, none⟩

def optional (name : String) (default : Value) : Slot := ⟨name, some default⟩

def fill (named : List (String × Value)) : List Slot → Except Failure (List Value)
  | [] => .ok []
  | s :: rest =>
    match (named.lookup s.name).or s.default with
    | some v => (fill named rest).map (v :: ·)
    | none => .error (.fault .badArguments)

def bind (slots : List Slot) (args : List Value) (named : List (String × Value)) :
    Except Failure (List Value) :=
  let given := slots.take args.length
  let open_ := slots.drop args.length
  if slots.length < args.length then .error (.fault .badArguments)
  else if named.any fun n => open_.all (·.name ≠ n.1) then .error (.fault .badArguments)
  else if given.any fun s => (named.lookup s.name).isSome then .error (.fault .badArguments)
  else (fill named open_).map (args ++ ·)

end Slot

end Farcall
