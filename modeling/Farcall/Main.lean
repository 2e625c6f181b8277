import Farcall.CommandLine.Run

/-!
# The program

Gathers what a call needs from the system, runs it, and prints and writes what it comes to.
-/

namespace Farcall

def settingNames : List String :=
  ["JSONWS_LANGUAGE", "JSONWS_PROXY_NAME", "JSONWS_TIMEOUT"]

def readEnvironment : IO (List (String × String)) :=
  settingNames.filterMapM fun name => do return (← IO.getEnv name).map (name, ·)

def directoryCode : UInt32 := 21

def readEntry (path : String) : IO (Option CommandLine.Entry) := do
  try
    return some (.file (← IO.FS.readBinFile path).toList)
  catch e =>
    match e with
    | .inappropriateType _ code _ => return if code = directoryCode then some .directory else none
    | _ => return none

def candidatePaths (words : List String) : List String :=
  let paths := words.flatMap fun w =>
    [w, ((CommandLine.splitValue w).2).getD w, String.ofList (w.toList.drop 2)]
  (paths.flatMap fun p =>
    Description.normalPath p :: (CommandLine.pathsTo p).map Description.normalPath).eraseDups

def readHost (words : List String) : IO CommandLine.Host := do
  let entries ← (candidatePaths words).filterMapM fun p => do
    return (← readEntry p).map (p, ·)
  return ⟨"jsonws-proxy", ← readEnvironment, entries, []⟩

end Farcall

def main (words : List String) : IO UInt32 := do
  let host ← Farcall.readHost words
  let _alphabet : Farcall.Alphabet := host.alphabet words
  let r := Farcall.CommandLine.run host words
  if let some (path, text) := r.written then IO.FS.writeFile path text
  (← IO.getStdout).putStr r.output
  (← IO.getStderr).putStr r.errors
  if let some e := r.escaped then
    (← IO.getStderr).putStrLn (Farcall.CommandLine.failureText e)
  return UInt32.ofNat r.status
