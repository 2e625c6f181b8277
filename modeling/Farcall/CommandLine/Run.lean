import Farcall.CommandLine.Page
import Farcall.CommandLine.Source
import Farcall.Target.Catalog

/-!
# The command line

What a call of the program prints, writes and answers, as a function of its words and of what it
finds around it. A wrong call ends with status 2; what goes wrong with a service or the settings is
told on standard error and ends with status 1.
-/

namespace Farcall.CommandLine

structure Report where
  status : Nat
  output : String
  errors : String
  /-- The file written: its normal path and its text. -/
  written : Option (String × String)
  /-- A failure that the program does not tell about but stops with. -/
  escaped : Option Failure

namespace Report

def printed (text : String) : Report :=
  ⟨0, text, "", none, none⟩

def complaint (page : Page) (message : String) : Report :=
  ⟨2, "", page.complaint message, none, none⟩

def after (errors : String) (r : Report) : Report :=
  { r with errors := errors ++ r.errors }

end Report

def faultText : Fault → String
  | .noFile path => s!"[Errno 2] No such file or directory: {Text.quoted path}"
  | .isDirectory path => s!"[Errno 21] Is a directory: {Text.quoted path}"
  | .notDirectory path => s!"[Errno 20] Not a directory: {Text.quoted path}"
  | .notUnicode => "the file is not UTF-8"
  | .badProgram => "a program cannot be read"
  | .unreadable => "a scalar does not fit its tag"
  | .notFinite => "a number is not finite"
  | .overflow => "a number is too large"
  | .noAttribute => "a scalar is not a timestamp"
  | .noKey => "a scalar is not a truth value"
  | .noItem => "a scalar is empty"
  | .notIterable => "a value has no members"
  | .notHashable => "a value cannot be a key"
  | .notCallable => "a value cannot be called"
  | .notSerializable => "a value has no JSON text"
  | .badArguments => "the arguments do not fit"
  | .wrongKind => "a value is of a wrong kind"
  | .noLoop => "no loop runs"
  | .badAddress => "no request can go to the address"
  | .network | .webSocket | .connectionClosed => "the network failed"
  | .notEncodable => "a text has no encoding"
  | .tooDeep => "a value is nested too deep"

def stepText : PathStep → String
  | .name s => s
  | .index n => toString n

def issueText [Alphabet] (i : Issue) : String :=
  let reason := match i.kind with
    | .notText | .keyNotText => "must be a text"
    | .notUnicode => "must be Unicode"
    | .missing => "is missing"
    | .unknownKey => "is not known"
    | .notRecord | .notMapping => "must be a mapping"
    | .wrongKind => "is of another kind"
    | .notTruth | .unreadableTruth => "must be a truth value"
    | .notInteger | .unreadableInteger | .fractional | .notFinite => "must be an integer"
    | .badTypeRef v => "is an " ++ (UsageError.badTypeRef v).message
  ".".intercalate (i.path.map stepText) ++ " " ++ reason

def failureText [Alphabet] : Failure → String
  | .package e => (e.line?).getD e.message.plain
  | .usage e => e.message
  | .invalid issues => "\n".intercalate (issues.map issueText)
  | .fault f => faultText f
  | .runtime text => text
  | .system text => text

/-- Whether a failure is told about: the package's own errors, wrong values and failures of the
system are, all others escape. -/
def isTold : Failure → Bool
  | .package _ => true
  | .usage e => e.kind = .value
  | .invalid _ => true
  | .fault f => match f with
    | .notFinite | .unreadable | .notUnicode | .noFile _ | .isDirectory _ | .notDirectory _ => true
    | _ => false
  | .runtime _ => false
  | .system _ => true

def escaped [Alphabet] (s : String) : String :=
  String.ofList (s.toList.flatMap fun c =>
    if Alphabet.isHalf c then Text.escapeCode (Alphabet.code c) else [c])

def errorText [Alphabet] (what : String) (e : Failure) : String :=
  let text := escaped (failureText e)
  s!"Error: {what}\n" ++ if text.isEmpty then "" else text ++ "\n"

def failed [Alphabet] (what : String) (e : Failure) : Report :=
  if isTold e then ⟨1, "", errorText what e, none, none⟩
  else ⟨1, "", "", none, some e⟩

def logLine (name text : String) : String :=
  s!"DEBUG:jsonws.{name}:{text}\n"

structure GenerateCall where
  source : String
  language : Option String
  className : Option String
  output : Option String

def generateOptions : List OptionSpec :=
  [⟨"--language", some 'l', true⟩, ⟨"--name", some 'n', true⟩, ⟨"--output", some 'o', true⟩,
    helpOption]

def leftOver (words : List String) : String :=
  "Got unexpected extra argument" ++ (if words.length = 1 then " (" else "s (") ++
    " ".intercalate words ++ ")"

def Host.isDirectory (h : Host) (path : String) : Bool :=
  match h.entry? path with
  | some .directory => path ≠ ""
  | _ => false

/-- The call that the words after `generate` make, or the report of a wrong one. -/
def generateCall (h : Host) (words : List String) : Except Report GenerateCall :=
  let page := generatePage h.program
  let complain (message : String) : Except Report GenerateCall :=
    .error (.complaint page message)
  match parse generateOptions true words with
  | .error message => complain message
  | .ok p =>
    let output := p.value? "--output"
    if p.has "--help" then .error (.printed page.text)
    else if output.any h.isDirectory then
      complain ("Invalid value for '-o' / '--output': File " ++
        Text.quoted (output.getD "") ++ " is a directory.")
    else
      match p.operands with
      | [] => complain "Missing argument 'SOURCE'."
      | [source] => .ok ⟨source, p.value? "--language", p.value? "--name", output⟩
      | _ :: extra => complain (leftOver extra)

def orDefault (s : Option String) (default : String) : String :=
  (s.filter (· ≠ "")).getD default

def compileLogged [Alphabet] (settings : Settings) (s : Service) (language : String)
    (className : Option String) : String × Except Failure String :=
  match Catalog.standard.find (.str language) with
  | .error e => ("", .error e)
  | .ok t =>
    let name := orDefault className settings.className
    let start := logLine "compiler" s!"Compiling {t.name} proxy {name}"
    match t.lines ⟨s, name⟩ with
    | .error e => (start, .error e)
    | .ok lines =>
      (start ++ logLine "compiler" s!"Compiled {t.name} proxy {name} ({lines.length} lines)",
        Catalog.standard.proxy settings s (.str language) className)

def sourceLog (source : String) : String :=
  if Description.isDescription source then
    logLine "loader" ("Loading service description from " ++ Description.normalPath source)
  else ""

def proxyText [Alphabet] (h : Host) (settings : Settings) (c : GenerateCall) :
    String × Except Failure String :=
  match sourceService h c.source with
  | .error e => (sourceLog c.source, .error e)
  | .ok s =>
    let language := orDefault c.language settings.languageName
    let (log, text) := compileLogged settings s language c.className
    (sourceLog c.source ++ log, text)

def pathsTo (path : String) : List String :=
  let parts := Description.parts path
  let root := if path.startsWith "/" then "/" else ""
  (List.range parts.length).filterMap fun n =>
    if n = 0 then none else some (root ++ "/".intercalate (parts.take n))

def writeFault? (h : Host) (path : String) : Option Fault :=
  let path := Description.normalPath path
  match h.entry? path with
  | some .directory => some (.isDirectory path)
  | some (.file _) => none
  | none =>
    (pathsTo path).findSome? fun p =>
      match h.entry? p with
      | some .directory => none
      | some (.file _) => some (.notDirectory path)
      | none => some (.noFile path)

/-- Writes a proxy to its output. A file is there, and empty, before it shows that the text has no
encoding. -/
def delivered [Alphabet] (h : Host) (output : Option String) (text : String) : Report :=
  match output with
  | none =>
    if Text.isEncodable text then .printed text
    else ⟨1, "", "", none, some (.fault .notEncodable)⟩
  | some path =>
    match writeFault? h path with
    | some f => ⟨1, "", "", none, some (.fault f)⟩
    | none =>
      let path := Description.normalPath path
      if Text.isEncodable text then ⟨0, s!"[ok] Wrote {path}\n", "", some (path, text), none⟩
      else ⟨1, "", "", some (path, ""), some (.fault .notEncodable)⟩

def generate [Alphabet] (h : Host) (settings : Settings) (debug : Bool) (words : List String) :
    Report :=
  match generateCall h words with
  | .error r => r
  | .ok c =>
    let (log, text) := proxyText h settings c
    let report := match text with
      | .error e => failed s!"Cannot generate proxy for {c.source}" e
      | .ok text => delivered h c.output text
    if debug then report.after log else report

def languages (h : Host) (words : List String) : Report :=
  let page := languagesPage h.program
  match parse [helpOption] true words with
  | .error message => .complaint page message
  | .ok p =>
    if p.has "--help" then .printed page.text
    else if p.operands.isEmpty then
      .printed (String.join (Catalog.standard.languages.map (· ++ "\n")))
    else .complaint page (leftOver p.operands)

def mainOptions : List OptionSpec :=
  [⟨"--debug", none, false⟩, helpOption]

def command [Alphabet] (h : Host) (run : Settings → Report) : Report :=
  match Settings.initial.configureFrom h.environment with
  | (_, .error e) => failed "Invalid configuration" e
  | (settings, .ok ()) => run settings

/-- What is said about a word that names no command; it may have been meant as an option. -/
def unknownCommand (page : Page) (word : String) (words : List String) : Report :=
  let complaint := Report.complaint page s!"No such command {Text.quoted word}."
  if word.startsWith "-" then
    match parse mainOptions false words with
    | .error message => .complaint page message
    | .ok p => if p.has "--help" then .printed page.text else complaint
  else complaint

def run [Alphabet] (h : Host) (words : List String) : Report :=
  let page := mainPage h.program
  if words.isEmpty then ⟨2, "", page.text, none, none⟩
  else
    match parse mainOptions false words with
    | .error message => .complaint page message
    | .ok p =>
      if p.has "--help" then .printed page.text
      else
        match p.operands with
        | [] => .complaint page "Missing command."
        | "generate" :: rest => command h fun s => generate h s (p.has "--debug") rest
        | "languages" :: rest => command h fun _ => languages h rest
        | word :: rest => unknownCommand page word (word :: rest)

end Farcall.CommandLine
