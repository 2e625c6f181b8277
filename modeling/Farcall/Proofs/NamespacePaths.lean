import Farcall.Proofs.Names

/-!
# Namespaces in order

The namespaces that a name implies are the texts it begins with up to a dot, and the innermost of
them is what stands before its last dot. The distinct namespaces of a list of names are listed by
first appearance: what more names contribute comes at the end, less what is already there.
-/

namespace Farcall.Name

-- ---------------------------------------------------------------------------
-- Dots
-- ---------------------------------------------------------------------------

/-- A dot puts the segments before it and after it side by side. -/
theorem segments_append (p rest : String) :
    segments (p ++ "." ++ rest) = segments p ++ segments rest := by
  have hname : p ++ "." ++ rest = ofSegments (segments p ++ segments rest) := by
    have hjoin : ofSegments (segments p ++ segments rest) =
        ofSegments (segments p) ++ "." ++ ofSegments (segments rest) :=
      String.intercalate_append_of_ne_nil (segments_ne_nil p) (segments_ne_nil rest)
    rw [hjoin, ofSegments_segments, ofSegments_segments]
  rw [hname]
  refine segments_ofSegments (by simp) fun s hs => ?_
  rcases List.mem_append.mp hs with hs | hs <;> exact not_mem_of_mem_segments hs

/-- A name implies whatever it begins with up to a dot. -/
theorem mem_ancestors_iff : p ∈ ancestors n ↔ ∃ rest, n = p ++ "." ++ rest := by
  constructor
  · exact eq_append_of_mem_ancestors
  · rintro ⟨rest, rfl⟩
    rw [mem_ancestors, segments_append, List.dropLast_append_of_ne_nil (segments_ne_nil rest)]
    exact List.prefix_append _ _

theorem not_mem_leaf (name : String) : '.' ∉ (leaf name).toList := by
  have hleaf : leaf name ∈ segments name := by
    rw [leaf, List.getLastD_eq_getLast?, List.getLast?_eq_some_getLast (segments_ne_nil name)]
    exact List.getLast_mem _
  exact not_mem_of_mem_segments hleaf

/-- A name with a dot is its namespace, the last dot and its leaf. -/
theorem eq_parent_append_leaf (h : '.' ∈ name.toList) :
    name = parent name ++ "." ++ leaf name := by
  obtain ⟨init, last, hsplit⟩ :=
    (List.eq_nil_or_concat (segments name)).resolve_left (segments_ne_nil name)
  rw [List.concat_eq_append] at hsplit
  have hinit : init ≠ [] := by
    rintro rfl
    exact (segments_eq_singleton.mp hsplit).2 h
  have hparent : parent name = ofSegments init := by rw [parent, hsplit, List.dropLast_concat]
  have hleaf : leaf name = ofSegments [last] := by
    rw [leaf, hsplit]
    simp [ofSegments]
  calc name = ofSegments (init ++ [last]) := by rw [← hsplit, ofSegments_segments]
    _ = ofSegments init ++ "." ++ ofSegments [last] :=
        String.intercalate_append_of_ne_nil hinit (by simp)
    _ = parent name ++ "." ++ leaf name := by rw [hparent, hleaf]

theorem parent_mem_ancestors (h : '.' ∈ name.toList) : parent name ∈ ancestors name :=
  mem_ancestors_iff.mpr ⟨leaf name, eq_parent_append_leaf h⟩

-- ---------------------------------------------------------------------------
-- One name
-- ---------------------------------------------------------------------------

theorem segments_of_not_mem (h : '.' ∉ name.toList) : segments name = [name] :=
  segments_eq_singleton.mpr ⟨rfl, h⟩

theorem segments_parent (h : '.' ∈ name.toList) :
    segments (parent name) = (segments name).dropLast := by
  have hsplit : segments name = segments (parent name) ++ [leaf name] := by
    rw [← segments_of_not_mem (not_mem_leaf name), ← segments_append, ← eq_parent_append_leaf h]
  rw [hsplit, List.dropLast_concat]

theorem runs_concat (xs : List α) (x : α) : runs (xs ++ [x]) = runs xs ++ [xs ++ [x]] := by
  induction xs with
  | nil => rfl
  | cons y ys ih => simp [runs, ih]

theorem ancestors_eq_concat (h : '.' ∈ name.toList) :
    ancestors name = ancestors (parent name) ++ [parent name] := by
  obtain ⟨init, last, hsplit⟩ :=
    (List.eq_nil_or_concat (segments (parent name))).resolve_left (segments_ne_nil _)
  rw [List.concat_eq_append] at hsplit
  have hparent : ofSegments (init ++ [last]) = parent name := by
    rw [← hsplit, ofSegments_segments]
  rw [ancestors, ancestors, ← segments_parent h, hsplit, List.dropLast_concat, runs_concat,
    List.map_append, List.map_singleton, hparent]

theorem ancestors_eq_nil (h : '.' ∉ name.toList) : ancestors name = [] := by
  rw [ancestors, segments_of_not_mem h]
  rfl

theorem mem_ancestors_of_lt (hp : p ∈ ancestors n) (hq : q ∈ ancestors n)
    (h : (segments p).length < (segments q).length) : p ∈ ancestors q := by
  rw [mem_ancestors] at *
  refine List.prefix_of_prefix_length_le hp ((List.dropLast_prefix _).trans hq) ?_
  rw [List.length_dropLast]
  omega

theorem ancestors_pairwise_length (n : String) :
    (ancestors n).Pairwise fun p q => p.length < q.length := by
  refine (ancestors_pairwise n).imp_of_mem fun {p q} hp hq h => ?_
  obtain ⟨rest, rfl⟩ := mem_ancestors_iff.mp (mem_ancestors_of_lt hp hq h)
  simp only [String.length_append]
  have hdot : ".".length = 1 := rfl
  omega

/-- The namespaces of a name are what it begins with up to a dot, from the shortest to the longest;
its last dot parts it into the longest of them and a segment. -/
theorem name_by_dots (n : String) :
    (∀ p, p ∈ ancestors n ↔ ∃ rest, n = p ++ "." ++ rest) ∧
      (ancestors n).Pairwise (fun p q => p.length < q.length) ∧
      (if '.' ∈ n.toList then ancestors n = ancestors (parent n) ++ [parent n]
        else ancestors n = []) ∧
      '.' ∉ (leaf n).toList ∧
      (if '.' ∈ n.toList then n = parent n ++ "." ++ leaf n else n = leaf n ∧ parent n = "") := by
  refine ⟨fun _ => mem_ancestors_iff, ancestors_pairwise_length n, ?_, not_mem_leaf n, ?_⟩
  · split
    · exact ancestors_eq_concat ‹_›
    · exact ancestors_eq_nil ‹_›
  · split
    · exact eq_parent_append_leaf ‹_›
    · rename_i h
      rw [leaf, parent, segments_of_not_mem h]
      exact ⟨rfl, rfl⟩

example : ancestors ".a..b" = ["", ".a", ".a."] ∧ parent ".a..b" = ".a." ∧ leaf ".a..b" = "b" := by
  decide +kernel

-- ---------------------------------------------------------------------------
-- First appearances
-- ---------------------------------------------------------------------------

/-- More members add those that were not there, in their own order of first appearance. -/
theorem firsts_append (xs ys : List String) :
    firsts (xs ++ ys) = firsts xs ++ (firsts ys).filter (· ∉ firsts xs) := by
  induction ys using List.reverseRecOn with
  | nil => simp [firsts]
  | append_singleton ys y ih =>
    rw [← List.append_assoc, firsts_concat, firsts_concat, ih]
    by_cases hy : y ∈ ys
    · simp [hy]
    · by_cases hx : y ∈ xs <;> simp [hx, hy]

/-- Every path with a dot stands after its namespace, the text before its last dot. -/
def AfterParents (paths : List String) : Prop :=
  ∀ before p after, paths = before ++ p :: after → '.' ∈ p.toList →
    ∃ last, p = parent p ++ "." ++ last ∧ '.' ∉ last.toList ∧ parent p ∈ before

theorem OutermostFirst.afterParents (h : OutermostFirst paths) : AfterParents paths :=
  fun before p after hpaths hdot => ⟨leaf p, eq_parent_append_leaf hdot, not_mem_leaf p,
    h before p after hpaths (parent_mem_ancestors hdot)⟩

/-- The namespaces of some names are what the names begin with up to a dot, each once and after its
own namespace, in order of first appearance. -/
theorem namespacePaths_by_appearance (names more : List String) :
    (namespacePaths names).Nodup ∧
      (∀ p, p ∈ namespacePaths names ↔ ∃ n ∈ names, ∃ rest, n = p ++ "." ++ rest) ∧
      AfterParents (namespacePaths names) ∧
      namespacePaths (names ++ more) =
        namespacePaths names ++ (namespacePaths more).filter (· ∉ namespacePaths names) := by
  refine ⟨nodup_namespacePaths names, fun p => ?_,
    (namespacePaths_outermostFirst names).afterParents, ?_⟩
  · simp only [mem_namespacePaths, mem_ancestors_iff]
  · rw [namespacePaths, List.flatMap_append, firsts_append]
    rfl

example : namespacePaths ["x.y.m", "a.n", "x..m", "top"] = ["x", "x.y", "a", "x."] := by
  decide +kernel

end Farcall.Name
