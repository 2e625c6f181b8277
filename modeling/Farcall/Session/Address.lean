/-!
# Service addresses

One base address serves both transports. Only the scheme differs, and it says whether the
connection is encrypted.
-/

namespace Farcall.Address

def after? (start s : String) : Option String :=
  if start.toList.isPrefixOf s.toList then some (String.ofList (s.toList.drop start.length))
  else none

def startsWith (start s : String) : Bool :=
  (after? start s).isSome

def socket (s : String) : String :=
  if startsWith "wss://" s || startsWith "ws://" s then s
  else
    match after? "https://" s, after? "http://" s with
    | some rest, _ => "wss://" ++ rest
    | none, some rest => "ws://" ++ rest
    | none, none => "ws://" ++ s

def http (s : String) : String :=
  match after? "wss://" s, after? "ws://" s with
  | some rest, _ => "https://" ++ rest
  | none, some rest => "http://" ++ rest
  | none, none => if startsWith "https://" s || startsWith "http://" s then s else "http://" ++ s

def isEncrypted (s : String) : Bool :=
  startsWith "wss://" s

end Farcall.Address
