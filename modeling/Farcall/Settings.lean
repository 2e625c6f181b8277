import Farcall.Failure
import Farcall.Number.Reading

/-!
# Settings

The defaults that apply where a caller names no language, no class name and no timeout. Every change
goes through `configure`; the environment is another source of the same three settings.
-/

namespace Farcall

/-- The settings as they were given last; an empty language or name stands for the default. -/
structure Settings where
  language : Value
  localName : Value
  timeout : Double

namespace Settings

def defaultLanguage : String := "Python"

def defaultName : String := "Proxy"

def defaultTimeout : Double := Double.ofInt 30

def initial : Settings :=
  ⟨.str defaultLanguage, .str defaultName, defaultTimeout⟩

instance : Inhabited Settings := ⟨initial⟩

def textOr (default : String) (v : Value) : String :=
  if v.truthy then v.plain else default

def languageName (s : Settings) : String :=
  textOr defaultLanguage s.language

def className (s : Settings) : String :=
  textOr defaultName s.localName

def known : List String := ["default_language", "local_name", "timeout"]

/-- A timeout: a positive number, or one that compares with none. -/
def readTimeout (v : Value) : Except Failure Double :=
  match v.numeric? with
  | none => .error (.fault .wrongKind)
  | some (.int n) =>
    if n ≤ 0 then .error (.usage .timeoutNotPositive)
    else
      let x := Double.ofInt n
      if x.isInfinite then .error (.fault .overflow) else .ok x
  | some (.float x) =>
    if x.lt (Double.ofInt 0) || x.same (Double.ofInt 0) then .error (.usage .timeoutNotPositive)
    else .ok x

/-- The settings with the given changes; a null change is none. Changes made before a bad timeout
is met stay made. -/
def configure (s : Settings) (changes : List (String × Value)) : Settings × Except Failure Unit :=
  if changes.any fun c => c.1 ∉ known then (s, .error (.fault .badArguments))
  else
    let change (name : String) := (changes.lookup name).getD .null
    let s := match change "default_language" with
      | .null => s
      | v => { s with language := v }
    let s := match change "local_name" with
      | .null => s
      | v => { s with localName := v }
    match change "timeout" with
    | .null => (s, .ok ())
    | v =>
      match readTimeout v with
      | .ok x => ({ s with timeout := x }, .ok ())
      | .error e => (s, .error e)

def timeoutVariable : String := "JSONWS_TIMEOUT"

/-- A timeout given as text; none if it is empty. -/
def timeoutOfText? : Option String → Except UsageError (Option Double)
  | none => .ok none
  | some "" => .ok none
  | some s =>
    match Double.ofText? s with
    | some x => .ok (some x)
    | none => .error (.timeoutNotNumber timeoutVariable s)

def envText (env : List (String × String)) (name : String) : Value :=
  match env.lookup name with
  | some s => .str s
  | none => .null

def configureFrom (s : Settings) (env : List (String × String)) : Settings × Except Failure Unit :=
  match timeoutOfText? (env.lookup timeoutVariable) with
  | .error e => (s, .error (.usage e))
  | .ok timeout =>
    s.configure [
      ("default_language", envText env "JSONWS_LANGUAGE"),
      ("local_name", envText env "JSONWS_PROXY_NAME"),
      ("timeout", (timeout.map Value.float).getD .null)]

def initialTimeout (text : Option String) : Double × List String :=
  match timeoutOfText? text with
  | .error e => (defaultTimeout, [e.message ++ "; using " ++ defaultTimeout.text])
  | .ok none => (defaultTimeout, [])
  | .ok (some x) =>
    if x.lt (Double.ofInt 0) || x.same (Double.ofInt 0) then (defaultTimeout, []) else (x, [])

end Settings

end Farcall
