import Farcall.CommandLine.Options

/-!
# Help pages

What each command says about itself, and about words it does not understand.
-/

namespace Farcall.CommandLine

structure Page where
  /-- The words that call the command. -/
  call : String
  /-- What may follow them. -/
  operands : String
  summary : List String
  options : List (String × String)
  commands : List (String × String)

namespace Page

def usage (p : Page) : String :=
  s!"Usage: {p.call} {p.operands}\n"

def table (title : String) (rows : List (String × String)) : String :=
  if rows.isEmpty then ""
  else
    let width := rows.foldl (fun n r => max n r.1.length) 0
    s!"\n{title}:\n" ++ String.join (rows.map fun (left, right) =>
      s!"  {left}" ++ String.ofList (List.replicate (width + 2 - left.length) ' ') ++ right ++ "\n")

def text (p : Page) : String :=
  p.usage ++ String.join (p.summary.map fun line => s!"\n  {line}\n") ++
    table "Options" p.options ++ table "Commands" p.commands

def complaint (p : Page) (message : String) : String :=
  p.usage ++ s!"Try '{p.call} --help' for help.\n\nError: {message}\n"

end Page

def helpRow : String × String :=
  ("--help", "Show this message and exit.")

def generateSummary : String :=
  "Generate a client proxy for SOURCE."

def languagesSummary : String :=
  "List the supported target languages."

def mainPage (program : String) : Page where
  call := program
  operands := "[OPTIONS] COMMAND [ARGS]..."
  summary := ["jsonws - JSON-WS client proxy generator",
    "Use 'jsonws-proxy generate api.yaml -l JavaScript' to print a proxy."]
  options := [("--debug", "Show debug information"), helpRow]
  commands := [("generate", generateSummary), ("languages", languagesSummary)]

def generatePage (program : String) : Page where
  call := program ++ " generate"
  operands := "[OPTIONS] SOURCE"
  summary := [generateSummary]
  options := [("-l, --language TEXT", "Target language (default: Python)"),
    ("-n, --name TEXT", "Proxy class name (default: Proxy)"),
    ("-o, --output FILE", "Write to FILE instead of standard output"), helpRow]
  commands := []

def languagesPage (program : String) : Page where
  call := program ++ " languages"
  operands := "[OPTIONS]"
  summary := [languagesSummary]
  options := [helpRow]
  commands := []

end Farcall.CommandLine
