import Farcall.Value.Text

/-!
# Failures

Everything that can go wrong, by cause. The package's own errors carry a numeric code and print as
`NAME(code): text`; faults of use carry a text, or none where the text is not the package's own.
-/

namespace Farcall

inductive ErrorCode where
  | alreadyDefined
  | unknownType
  | duplicateValue
  | unsupportedLanguage
  | invalidArgument
  | transport
  | rpc
deriving DecidableEq

namespace ErrorCode

def number : ErrorCode → Nat
  | .alreadyDefined => 1001
  | .unknownType => 1002
  | .duplicateValue => 1003
  | .unsupportedLanguage => 2001
  | .invalidArgument => 3001
  | .transport => 4001
  | .rpc => 4002

def label : ErrorCode → String
  | .alreadyDefined => "ALREADY_DEFINED"
  | .unknownType => "UNKNOWN_TYPE"
  | .duplicateValue => "DUPLICATE_VALUE"
  | .unsupportedLanguage => "UNSUPPORTED_LANGUAGE"
  | .invalidArgument => "INVALID_ARGUMENT"
  | .transport => "TRANSPORT_ERROR"
  | .rpc => "RPC_ERROR"

def all : List ErrorCode :=
  [.alreadyDefined, .unknownType, .duplicateValue, .unsupportedLanguage, .invalidArgument,
    .transport, .rpc]

def ofNumber? (n : Nat) : Option ErrorCode :=
  all.find? (·.number == n)

end ErrorCode

inductive ArgumentFault where
  /-- Any text. -/
  | stated (message : Value)
  | blankAddress
  | notMapping (what : String) (found : Value)
  | documentNotMapping
  | missingKey (what key : String) (found : Value)
  | badParameter (found : Value)
  | unsupportedFile (name : String)
  /-- A description file is not well formed; `detail` says where, if known. -/
  | unparsable (file detail : String)
  | badClassName (name : String)
  | shadowsProxy (member : String)
  | enumClash (name : String)
  | reservedLabel (enum label : String)
  | notASource (source : String)
  | cannotImport (source reason : String)
  | notAService (source : String)
deriving Inhabited

namespace ArgumentFault

def suffixes : List String := [".yaml", ".yml", ".json"]

def message [Alphabet] : ArgumentFault → Value
  | .stated v => v
  | .blankAddress => .str "a non-empty base URL string is required"
  | .notMapping what found => .str s!"{what} description must be a mapping: {found.shown}"
  | .documentNotMapping => .str "service description must be a mapping"
  | .missingKey what key found =>
    .str s!"{what} description needs a {Text.quoted key}: {found.shown}"
  | .badParameter found => .str s!"invalid parameter description: {found.shown}"
  | .unsupportedFile name =>
    .str (s!"unsupported description file {Text.quoted name} (expected " ++
      ", ".intercalate suffixes ++ ")")
  | .unparsable file detail => .str s!"cannot parse {file}: {detail}"
  | .badClassName name => .str s!"{Text.quoted name} is not a valid Python class name"
  | .shadowsProxy member => .str s!"{Text.quoted member} would shadow ProxyBase.{member}"
  | .enumClash name => .str s!"enum {Text.quoted name} clashes with a proxy attribute"
  | .reservedLabel enum label =>
    .str s!"enum {Text.quoted enum} label {Text.quoted label} is reserved by EnumCodec"
  | .notASource source =>
    .str (Text.quoted source ++
      " is neither a description file nor a module:attribute reference")
  | .cannotImport source reason => .str s!"cannot import {Text.quoted source}: {reason}"
  | .notAService source => .str s!"{Text.quoted source} does not provide a Service"

end ArgumentFault

inductive TransportFault where
  /-- Any text. -/
  | stated (message : Value)
  | sessionClosed
  | timedOut (method : String)
  | cancelled (method : String)
  | httpFailed (method reason : String)
  | notJson (method : String)
  /-- A response that is not a JSON object. -/
  | notResponse
  | sendFailed (method reason : String)
  | connectFailed (address reason : String)
  | socketClosed
  | socketFailed (reason : String)
deriving Inhabited

def TransportFault.message : TransportFault → Value
  | .stated v => v
  | .sessionClosed => .str "tunnel is closed"
  | .timedOut method => .str s!"RPC call timed out: {method}"
  | .cancelled method => .str s!"call {method} was cancelled"
  | .httpFailed method reason => .str s!"HTTP call {method} failed: {reason}"
  | .notJson method => .str s!"invalid JSON-RPC response for {method}"
  | .notResponse => .str "invalid JSON-RPC response"
  | .sendFailed method reason => .str s!"socket call {method} failed: {reason}"
  | .connectFailed address reason => .str s!"cannot connect to {address}: {reason}"
  | .socketClosed => .str "socket closed"
  | .socketFailed reason => .str s!"socket closed: {reason}"

inductive PackageError where
  /-- An error of no particular kind; it may lack a code. -/
  | plain (message : Value) (code : Option ErrorCode)
  | alreadyDefined (name kind : Value)
  | unknownType (name referencedBy : Value)
  | duplicateValue (enum value first second : Value)
  | unsupportedLanguage (language : Value) (available : List String)
  | invalidArgument (fault : ArgumentFault) (code : ErrorCode)
  | transport (fault : TransportFault) (code : ErrorCode)
  /-- An error response of a service. -/
  | rpc (message rpcCode data : Value)
deriving Inhabited

namespace PackageError

def message [Alphabet] : PackageError → Value
  | .plain m _ => m
  | .alreadyDefined name kind => .str s!"{kind.plain} {name.shown} is already defined"
  | .unknownType name referencedBy =>
    .str (s!"unknown type {name.shown}" ++
      if referencedBy.truthy then s!" referenced by {referencedBy.shown}" else "")
  | .duplicateValue enum value first second =>
    .str (s!"enum {enum.shown} assigns {value.plain} to both {first.shown} and " ++ second.shown)
  | .unsupportedLanguage language available =>
    .str (s!"no proxy emitter for language {language.shown}" ++
      if available.isEmpty then "" else " (available: " ++ ", ".intercalate available ++ ")")
  | .invalidArgument fault _ => fault.message
  | .transport fault _ => fault.message
  | .rpc m _ _ => m

def code? : PackageError → Option ErrorCode
  | .plain _ code => code
  | .alreadyDefined .. => some .alreadyDefined
  | .unknownType .. => some .unknownType
  | .duplicateValue .. => some .duplicateValue
  | .unsupportedLanguage .. => some .unsupportedLanguage
  | .invalidArgument _ code => some code
  | .transport _ code => some code
  | .rpc .. => some .rpc

def className : PackageError → String
  | .plain .. => "JsonWsError"
  | .alreadyDefined .. => "AlreadyDefinedError"
  | .unknownType .. => "UnknownTypeError"
  | .duplicateValue .. => "DuplicateValueError"
  | .unsupportedLanguage .. => "UnsupportedLanguageError"
  | .invalidArgument .. => "InvalidArgumentError"
  | .transport .. => "TransportError"
  | .rpc .. => "RpcError"

/-- Code, number and text; an error without a code has no such line. -/
def line? [Alphabet] (e : PackageError) : Option String :=
  e.code?.map fun c => s!"{c.label}({c.number}): {e.message.plain}"

/-- The error as the expression that builds it; an error without a code has none. -/
def shown? [Alphabet] (e : PackageError) : Option String :=
  e.code?.map fun c => s!"{e.className}({e.message.shown}, code={c.number})"

def ofResponse : Value → PackageError
  | .map es =>
    .rpc (.str ((Value.get? es "message").getD (.str "RPC error")).plain) (Value.getD es "code")
      (Value.getD es "data")
  | v => .rpc (.str v.plain) .null .null

end PackageError

inductive PathStep where
  | name (s : String)
  | index (n : Int)
deriving DecidableEq

inductive IssueKind where
  | notText
  | notUnicode
  | missing
  | unknownKey
  | keyNotText
  | notRecord
  | notMapping
  | wrongKind
  | notTruth
  | unreadableTruth
  | notInteger
  | unreadableInteger
  | fractional
  | notFinite
  | badTypeRef (found : Value)

structure Issue where
  kind : IssueKind
  path : List PathStep

inductive Fault where
  /-- Members of a value that has none. -/
  | notIterable
  /-- A list, set or mapping as a key. -/
  | notHashable
  | wrongKind
  /-- Arguments that do not fit what is called. -/
  | badArguments
  | notCallable
  /-- A value without a JSON text. -/
  | notSerializable
  /-- A number that is not finite where JSON needs one. -/
  | notFinite
  /-- A text that is not a number or a date. -/
  | unreadable
  | overflow
  | noAttribute
  | noKey
  /-- The first character of an empty text. -/
  | noItem
  | noFile (path : String)
  | isDirectory (path : String)
  | notDirectory (path : String)
  | notUnicode
  /-- A text with halves of surrogate pairs where bytes are needed. -/
  | notEncodable
  /-- Nesting beyond what the interpreter has room for. -/
  | tooDeep
  /-- A program text that cannot be read. -/
  | badProgram
  /-- A call while no loop runs. -/
  | noLoop
  /-- An address no request can go to. -/
  | badAddress
  /-- A failure of the network layer outside its own error family. -/
  | network
  | webSocket
  | connectionClosed
deriving DecidableEq

inductive UsageError where
  | badTypeRef (found : Value)
  | enumShape (name : Value)
  | enumValue (name label : Value)
  | badNamespace (found : Value)
  | duplicateCodecValues (name : String)
  | reservedCodecLabel (name label : String)
  | notAValue (name : String) (key : Int)
  | notALabel (name key : String)
  | badCodecKey (name kind : String)
  | readOnlyCodec (name : String)
  | listenerNotCallable
  | definitionAndFields
  | unnamedEmitter
  | timeoutNotPositive
  | timeoutNotNumber (setting text : String)
  | nodeExists (name : String)
  | namespaceMissing (parent name : String)
deriving Inhabited

inductive UsageKind where
  | value
  | type
  | attribute
  | key
deriving DecidableEq

namespace UsageError

def kind : UsageError → UsageKind
  | .badCodecKey .. => .type
  | .listenerNotCallable => .type
  | .definitionAndFields => .type
  | .readOnlyCodec _ => .attribute
  | .namespaceMissing .. => .key
  | _ => .value

def message [Alphabet] : UsageError → String
  | .badTypeRef found => s!"invalid type reference: {found.shown}"
  | .enumShape name => s!"enum {name.shown} values must be a mapping or a list of labels"
  | .enumValue name label => s!"enum {name.shown} value for {label.shown} must be an integer"
  | .badNamespace found => s!"invalid namespace prefix: {found.shown}"
  | .duplicateCodecValues name => s!"enum {Text.quoted name} has duplicate values"
  | .reservedCodecLabel name label =>
    s!"enum {Text.quoted name} label {Text.quoted label} is reserved by EnumCodec"
  | .notAValue name key => s!"{key} is not a value of enum {name}"
  | .notALabel name key => s!"{Text.quoted key} is not a label of enum {name}"
  | .badCodecKey name kind => s!"{name} expects a label or an integer, got {kind}"
  | .readOnlyCodec name => s!"enum {name} is read-only"
  | .listenerNotCallable => "listener must be callable"
  | .definitionAndFields => "pass either a MethodDef or keyword fields, not both"
  | .unnamedEmitter => "emitter must have a language name"
  | .timeoutNotPositive => "timeout must be positive"
  | .timeoutNotNumber setting text =>
    s!"{setting} must be a number of seconds, got {Text.quoted text}"
  | .nodeExists name => s!"{Text.quoted name} is already defined"
  | .namespaceMissing parent name =>
    s!"namespace {Text.quoted parent} must be added before {Text.quoted name}"

end UsageError

inductive Failure where
  | package (e : PackageError)
  | usage (e : UsageError)
  | invalid (issues : List Issue)
  | fault (f : Fault)
  /-- A failure of a listener or of the network, with its own text. -/
  | runtime (text : String)
  | system (text : String)

namespace Failure

def alreadyDefined (name : Value) (kind : String) : Failure :=
  .package (.alreadyDefined name (.str kind))

def unknownType (name : String) (referencedBy : String) : Failure :=
  .package (.unknownType (.str name) (.str referencedBy))

def argument (fault : ArgumentFault) : Failure :=
  .package (.invalidArgument fault .invalidArgument)

def transport (fault : TransportFault) : Failure :=
  .package (.transport fault .transport)

end Failure

end Farcall
