import Farcall.Arguments

/-!
# Errors by name

The package's errors built from the name of their kind and the arguments of their kind, as a program
that raises them itself does.
-/

namespace Farcall.PackageError

/-- The code that an argument names; null names none. -/
def codeArgument : Value → Option ErrorCode
  | .int n => if 0 ≤ n then ErrorCode.ofNumber? n.toNat else none
  | _ => none

def labelPair : Value → Except Failure (Value × Value)
  | .tuple (a :: b :: _) => .ok (a, b)
  | .list (a :: b :: _) => .ok (a, b)
  | _ => .error (.fault .wrongKind)

def texts : Value → Except Failure (List String)
  | v =>
    match v.members? with
    | none => .error (.fault .wrongKind)
    | some vs => vs.mapM fun
      | .str s => .ok s
      | _ => .error (.fault .wrongKind)

def statedSlots : List Slot :=
  [.required "message", .optional "code" .null]

def build (kind : String) (args : List Value) (named : List (String × Value)) :
    Except Failure PackageError := do
  match kind with
  | "AlreadyDefinedError" =>
    match ← Slot.bind [.required "name", .optional "kind" (.str "name")] args named with
    | [name, kind] => return .alreadyDefined name kind
    | _ => throw (.fault .badArguments)
  | "UnknownTypeError" =>
    match ← Slot.bind [.required "type_name", .optional "referenced_by" .null] args named with
    | [name, by_] => return .unknownType name by_
    | _ => throw (.fault .badArguments)
  | "DuplicateValueError" =>
    match ← Slot.bind [.required "enum_name", .required "value", .required "labels"] args named with
    | [enum, value, labels] =>
      let (a, b) ← labelPair labels
      return .duplicateValue enum value a b
    | _ => throw (.fault .badArguments)
  | "UnsupportedLanguageError" =>
    match ← Slot.bind [.required "language", .optional "available" (.tuple [])] args named with
    | [language, available] => return .unsupportedLanguage language (← texts available)
    | _ => throw (.fault .badArguments)
  | "RpcError" =>
    match ← Slot.bind [.required "message", .optional "rpc_code" .null, .optional "data" .null]
      args named with
    | [message, code, data] => return .rpc message code data
    | _ => throw (.fault .badArguments)
  | _ =>
    match ← Slot.bind statedSlots args named with
    | [message, code] =>
      let code := codeArgument code
      match kind with
      | "InvalidArgumentError" =>
        return .invalidArgument (.stated message) (code.getD .invalidArgument)
      | "TransportError" => return .transport (.stated message) (code.getD .transport)
      | _ => return .plain message code
    | _ => throw (.fault .badArguments)

def attributes : PackageError → List (String × Value)
  | .alreadyDefined name _ => [("name", name)]
  | .unknownType name by_ => [("type_name", name), ("referenced_by", by_)]
  | .duplicateValue enum value a b =>
    [("enum_name", enum), ("value", value), ("labels", .list [a, b])]
  | .unsupportedLanguage language available =>
    [("language", language), ("available", .list (available.map .str))]
  | .rpc _ code data => [("rpc_code", code), ("data", data)]
  | _ => []

def isValueError : PackageError → Bool
  | .invalidArgument .. => true
  | _ => false

end Farcall.PackageError
