/-!
# Dotted names

Methods and events carry dotted names. A name implies a namespace for every proper initial run of
its segments: `a.b.c` implies `a` and `a.b`. Namespaces are never declared, so all questions about
them are questions about names. A name is split at its dots in any alphabet.
-/

namespace Farcall.Name

def pieces : List Char → List (List Char)
  | [] => [[]]
  | c :: rest =>
    if c = '.' then [] :: pieces rest
    else
      match pieces rest with
      | [] => [[c]]
      | p :: ps => (c :: p) :: ps

/-- The segments of a dotted name; empty segments count. -/
def segments (name : String) : List String :=
  (pieces name.toList).map String.ofList

def ofSegments (segs : List String) : String :=
  ".".intercalate segs

def parent (name : String) : String :=
  ofSegments (segments name).dropLast

def leaf (name : String) : String :=
  (segments name).getLastD ""

def runs {α : Type} : List α → List (List α)
  | [] => []
  | x :: xs => [x] :: (runs xs).map (x :: ·)

def ancestors (name : String) : List String :=
  (runs (segments name).dropLast).map ofSegments

def firsts (xs : List String) : List String :=
  xs.foldl (fun seen x => if x ∈ seen then seen else seen ++ [x]) []

/-- The distinct namespaces implied by some names: each appears after its own namespace, and all
in order of first appearance. -/
def namespacePaths (names : List String) : List String :=
  firsts (names.flatMap ancestors)

end Farcall.Name
