import Farcall.Value
import Farcall.Number.Shortest
import Farcall.Text.Quoted

/-!
# Values as text

The two spellings of values in messages: `shown`, which marks texts by quotes, and `plain`, which
leaves a text as it is.
-/

namespace Farcall

def padded (width n : Nat) : String :=
  let digits := Nat.repr n
  String.ofList (List.replicate (width - digits.length) '0') ++ digits

namespace Date

def iso (d : Date) : String :=
  s!"{padded 4 d.year}-{padded 2 d.month}-{padded 2 d.day}"

def shown (d : Date) : String :=
  s!"datetime.date({d.year}, {d.month}, {d.day})"

end Date

namespace Moment

def zone (minutes : Int) : String :=
  (if minutes < 0 then "-" else "+") ++ padded 2 (minutes.natAbs / 60) ++ ":" ++
    padded 2 (minutes.natAbs % 60)

def isoWith (separator : String) (t : Moment) : String :=
  t.date.iso ++ separator ++ s!"{padded 2 t.hour}:{padded 2 t.minute}:{padded 2 t.second}" ++
    (if t.microsecond = 0 then "" else "." ++ padded 6 t.microsecond) ++
    (match t.offset with
      | none => ""
      | some m => zone m)

def iso (t : Moment) : String :=
  t.isoWith "T"

def shownZone (minutes : Int) : String :=
  if minutes = 0 then "datetime.timezone.utc"
  else
    let days := minutes / 1440
    let seconds := minutes % 1440 * 60
    let parts := (if days = 0 then [] else [s!"days={days}"]) ++
      (if seconds = 0 then [] else [s!"seconds={seconds}"])
    "datetime.timezone(datetime.timedelta(" ++ ", ".intercalate parts ++ "))"

/-- The time as the expression that builds it; trailing zero seconds are left out. -/
def shown (t : Moment) : String :=
  let fields := [t.date.year, t.date.month, t.date.day, t.hour, t.minute]
  let fields :=
    if t.microsecond ≠ 0 then fields ++ [t.second, t.microsecond]
    else if t.second ≠ 0 then fields ++ [t.second]
    else fields
  let zone := match t.offset with
    | none => []
    | some m => ["tzinfo=" ++ shownZone m]
  "datetime.datetime(" ++ ", ".intercalate (fields.map Nat.repr ++ zone) ++ ")"

end Moment

namespace Value

def bracketed (opening closing : String) (items : List String) : String :=
  opening ++ ", ".intercalate items ++ closing

mutual

def shown [Alphabet] : Value → String
  | .null => "None"
  | .bool true => "True"
  | .bool false => "False"
  | .int n => toString n
  | .float x => x.text
  | .str s => Text.quoted s
  | .bytes b => Text.quotedBytes b
  | .list xs => bracketed "[" "]" (shownItems xs)
  | .tuple [x] => "(" ++ x.shown ++ ",)"
  | .tuple xs => bracketed "(" ")" (shownItems xs)
  | .set [] => "set()"
  | .set xs => bracketed "\x7b" "\x7d" (shownItems xs)
  | .map es => bracketed "\x7b" "\x7d" (shownEntries es)
  | .date d => d.shown
  | .moment t => t.shown
  | .function f => f
  | .codec f => f

def shownItems [Alphabet] : List Value → List String
  | [] => []
  | x :: xs => x.shown :: shownItems xs

def shownEntries [Alphabet] : List (Value × Value) → List String
  | [] => []
  | (k, v) :: rest => (k.shown ++ ": " ++ v.shown) :: shownEntries rest

end

/-- The value with a text left as it is; texts inside collections are quoted. -/
def plain [Alphabet] : Value → String
  | .str s => s
  | .date d => d.iso
  | .moment t => t.isoWith " "
  | v => v.shown

def kindName : Value → String
  | .null => "NoneType"
  | .bool _ => "bool"
  | .int _ => "int"
  | .float _ => "float"
  | .str _ => "str"
  | .bytes _ => "bytes"
  | .list _ => "list"
  | .tuple _ => "tuple"
  | .set _ => "set"
  | .map _ => "dict"
  | .date _ => "date"
  | .moment _ => "datetime"
  | .function _ => "function"
  | .codec _ => "EnumCodec"

end Value

end Farcall
