import Farcall.Emission.Target

/-!
# JavaScript proxies

A proxy in JavaScript is a constructor that owns its session and emits the events of the service.
Namespaces and methods are members of its prototype, bound to each instance.
-/

namespace Farcall.JavaScript

def member (owner key : String) : String :=
  owner ++ "[" ++ key ++ "]"

def prototypePath [Alphabet] (className name : String) : String :=
  (Name.segments name).foldl (fun path s => member path (Literal.text s))
    (className ++ ".prototype")

def paramDoc (p : Param) : String :=
  let name := if p.optional then "[" ++ p.name ++ "]" else p.name
  " * @param \x7b" ++ p.type.text ++ "\x7d " ++ name ++
    (match p.description with
      | none => ""
      | some "" => ""
      | some d => " " ++ d)

def methodDoc (m : Method) : List String :=
  let description := (Text.lines (m.description.getD "")).map fun l => Text.trimEnd (" * " ++ l)
  let returns := match m.returns with
    | some r => [" * @returns \x7b" ++ r.text ++ "\x7d"]
    | none => []
  ["/**"] ++ description ++ m.params.map paramDoc ++ [" * @param \x7bfunction\x7d [callback]"] ++
    returns ++ [" */"]

def preamble (e : Emission) : List String := [
  "/**",
  " * Client proxy for " ++ e.title ++ ".",
  " *",
  " * Generated by jsonws. Do not edit.",
  " */",
  "'use strict';",
  "",
  "var EventEmitter = require('events').EventEmitter;",
  "var inherits = require('util').inherits;",
  "var RpcTunnel = require('jsonws-client').RpcTunnel;",
  "",
  "function bindNamespace(source, receiver) \x7b",
  "\tvar bound = \x7b\x7d;",
  "\tObject.keys(source).forEach(function (key) \x7b",
  "\t\tvar value = source[key];",
  "\t\tbound[key] = typeof value === 'function' ? value.bind(receiver) : " ++
    "bindNamespace(value, receiver);",
  "\t\x7d);",
  "\treturn bound;",
  "\x7d",
  ""]

def constructor [Alphabet] (e : Emission) : List String :=
  let name := e.className
  let members := ", ".intercalate (e.rootMembers.map Literal.text)
  ["/**",
    " * @param \x7bstring\x7d url",
    " * @param \x7bobject\x7d [sslSettings]",
    " * @constructor",
    " */",
    "function " ++ name ++ "(url, sslSettings) \x7b",
    "\tif (!(this instanceof " ++ name ++ ")) \x7b",
    "\t\treturn new " ++ name ++ "(url, sslSettings);",
    "\t\x7d",
    "\tif (typeof url !== 'string' || !url) \x7b",
    "\t\tthrow new TypeError('Invalid argument: a non-empty base URL string is required');",
    "\t\x7d",
    "\tEventEmitter.call(this);",
    "",
    "\tvar self = this;",
    "\tthis.defaultTransport = 'http';",
    "\tthis.rpc = new RpcTunnel(url, sslSettings);",
    "\tthis.rpc.on('event', function (event) \x7b",
    "\t\tsetImmediate(function () \x7b",
    "\t\t\tself.emit(event.name, event.data);",
    "\t\t\x7d);",
    "\t\x7d);",
    "\tthis.on('newListener', function (event) \x7b",
    "\t\tif (event !== 'newListener' && event !== 'removeListener' && " ++
      "self.listeners(event).length === 0) \x7b",
    "\t\t\tself.rpc.call(\x7bmethod: 'rpc.on', params: [event], expectReturn: false, " ++
      "transport: 'socket'\x7d);",
    "\t\t\x7d",
    "\t\x7d);",
    "",
    "\t[" ++ members ++ "].forEach(function (key) \x7b",
    "\t\tvar value = " ++ name ++ ".prototype[key];",
    "\t\tself[key] = typeof value === 'function' ? value.bind(self) : " ++
      "bindNamespace(value, self);",
    "\t\x7d);",
    "\x7d",
    "inherits(" ++ name ++ ", EventEmitter);",
    ""]

def transportMethods (name : String) : List String := [
  name ++ ".prototype.useHTTP = function () \x7b",
  "\tthis.defaultTransport = 'http';",
  "\treturn this;",
  "\x7d;",
  "",
  name ++ ".prototype.useSocket = function () \x7b",
  "\tthis.defaultTransport = 'socket';",
  "\treturn this;",
  "\x7d;",
  ""]

def listenerMethods (name : String) : List String := [
  name ++ ".prototype.removeListener = function (event, listener) \x7b",
  "\tvar hadListeners = this.listeners(event).length > 0;",
  "\tEventEmitter.prototype.removeListener.call(this, event, listener);",
  "\tif (hadListeners && this.listeners(event).length === 0) \x7b",
  "\t\tthis.rpc.call(\x7bmethod: 'rpc.off', params: [event], expectReturn: false, " ++
    "transport: 'socket'\x7d);",
  "\t\x7d",
  "\treturn this;",
  "\x7d;",
  "",
  name ++ ".prototype.off = " ++ name ++ ".prototype.removeListener;",
  "",
  name ++ ".prototype.removeAllListeners = function (event) \x7b",
  "\tvar self = this;",
  "\tvar names = event === undefined ? this.eventNames().filter(function (key) \x7b",
  "\t\treturn key !== 'newListener' && key !== 'removeListener';",
  "\t\x7d) : [event];",
  "\tnames.forEach(function (key) \x7b",
  "\t\tEventEmitter.prototype.removeAllListeners.call(self, key);",
  "\t\tself.rpc.call(\x7bmethod: 'rpc.off', params: [key], expectReturn: false, " ++
    "transport: 'socket'\x7d);",
  "\t\x7d);",
  "\treturn this;",
  "\x7d;",
  ""]

def closeMethod (name : String) : List String := [
  name ++ ".prototype.close = function () \x7b",
  "\tif (this.rpc) \x7b",
  "\t\tthis.rpc.close();",
  "\t\tthis.rpc = null;",
  "\t\x7d",
  "\x7d;"]

def enumLines [Alphabet] (className key : String) (ms : List (String × Int)) : List String := [
  member className key ++ " = (function () \x7b",
  "\tvar labels = " ++ Literal.members ms ++ ";",
  "\tvar values = " ++ Literal.labels ms ++ ";",
  "\tvar codec = function (key) \x7b",
  "\t\treturn typeof key === 'number' ? values[key] : labels[key];",
  "\t\x7d;",
  "\tObject.keys(labels).forEach(function (label) \x7b",
  "\t\tObject.defineProperty(codec, label, \x7bvalue: labels[label], enumerable: true\x7d);",
  "\t\x7d);",
  "\treturn Object.freeze(codec);",
  "\x7d)();"]

def methodLines [Alphabet] (className : String) (m : Method) : List String :=
  methodDoc m ++ [
    prototypePath className m.name ++ " = function () \x7b",
    "\tvar args = Array.prototype.slice.call(arguments);",
    "\tvar callback = typeof args[args.length - 1] === 'function' ? args.pop() : null;",
    "\treturn this.rpc.call(\x7b",
    "\t\tmethod: " ++ Literal.text m.name ++ ",",
    "\t\tparams: args.slice(0, " ++ toString m.params.length ++ "),",
    "\t\texpectReturn: " ++ (if m.expectsReturn then "true" else "false") ++ ",",
    "\t\ttransport: this.defaultTransport",
    "\t\x7d, callback);",
    "\x7d;"]

def target [Alphabet] : Target where
  name := "JavaScript"
  kind := "JavaScriptEmitter"
  extension := ".js"
  indent := "\t"
  separateItems := true
  opening e := .ok (preamble e ++ constructor e ++ transportMethods e.className ++
    listenerMethods e.className ++ closeMethod e.className)
  enum e name ms := do
    Literal.checkValues ms
    return enumLines e.className (← Literal.value name) ms
  treeOpening _ := .ok []
  scope e path := .ok [prototypePath e.className path ++ " = \x7b\x7d;"]
  method e m := .ok (methodLines e.className m)
  events e events :=
    .ok [e.className ++ ".events = Object.freeze([" ++
      ", ".intercalate (events.map fun v => Literal.text v.name) ++ "]);"]
  closing e := .ok ["module.exports = " ++ e.className ++ ";"]

end Farcall.JavaScript
