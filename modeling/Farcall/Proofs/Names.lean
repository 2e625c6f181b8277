import Farcall.Name
import Mathlib.Data.List.Induction

/-!
# Names are their segments

A name and the list of its segments determine each other, so that a namespace a name implies is a
proper initial run of its segments. The namespaces of a list of names are exactly the implied ones,
none twice, and each stands after its own namespace.
-/

namespace Farcall.Name

-- ---------------------------------------------------------------------------
-- Segments
-- ---------------------------------------------------------------------------

theorem pieces_eq_splitOn (cs : List Char) : pieces cs = cs.splitOn '.' := by
  induction cs with
  | nil => rfl
  | cons c cs ih =>
    rw [pieces, List.splitOn_cons_eq_if_modifyHead, ih]
    obtain ⟨p, ps, hp⟩ := List.exists_cons_of_ne_nil (List.splitOn_ne_nil '.' cs)
    simp [hp]

@[simp] theorem segments_ne_nil (name : String) : segments name ≠ [] := by
  simp [segments, pieces_eq_splitOn]

theorem toList_ofSegments (segs : List String) :
    (ofSegments segs).toList = ['.'].intercalate (segs.map String.toList) := by
  simp [ofSegments]

@[simp] theorem ofSegments_segments (name : String) : ofSegments (segments name) = name := by
  rw [← String.toList_inj, toList_ofSegments, segments, List.map_map, pieces_eq_splitOn]
  have h : String.toList ∘ String.ofList = id := funext fun _ => String.toList_ofList
  rw [h, List.map_id, List.intercalate_splitOn]

theorem segments_ofSegments (hne : segs ≠ []) (hd : ∀ s ∈ segs, '.' ∉ s.toList) :
    segments (ofSegments segs) = segs := by
  rw [segments, toList_ofSegments, pieces_eq_splitOn, List.splitOn_intercalate]
  · have h : String.ofList ∘ String.toList = id := funext fun _ => String.ofList_toList
    rw [List.map_map, h, List.map_id]
  · simpa using hd
  · simpa using hne

theorem segments_inj : segments a = segments b ↔ a = b := by
  constructor
  · intro h
    rw [← ofSegments_segments a, h, ofSegments_segments]
  · exact congrArg segments

theorem not_mem_of_mem_pieces (hp : p ∈ pieces cs) : '.' ∉ p := by
  induction cs generalizing p with
  | nil => simp_all [pieces]
  | cons c cs ih =>
    rw [pieces] at hp
    split at hp
    · rcases List.mem_cons.mp hp with rfl | hp
      · simp
      · exact ih hp
    · rename_i hc
      split at hp
      · simp_all
        exact fun h => hc h.symm
      · rename_i q qs hq
        rcases List.mem_cons.mp hp with rfl | hp
        · have := ih (p := q) (by simp [hq])
          simp_all
          exact fun h => hc h.symm
        · exact ih (by simp [hq, hp])

theorem forall_mem_pieces {P : Char → Prop} (hdot : P '.') :
    (∀ p ∈ pieces cs, ∀ c ∈ p, P c) ↔ ∀ c ∈ cs, P c := by
  induction cs with
  | nil => simp [pieces]
  | cons c cs ih =>
    rw [List.forall_mem_cons, ← ih, pieces]
    by_cases hc : c = '.'
    · simp [hc, hdot]
    · obtain ⟨p, ps, hp⟩ : ∃ p ps, pieces cs = p :: ps := by
        rw [pieces_eq_splitOn]
        exact List.exists_cons_of_ne_nil (List.splitOn_ne_nil '.' cs)
      simp [hc, hp, and_assoc]

/-- What holds of the dot holds of all characters of a name if it holds of those of its segments. -/
theorem forall_mem_segments {P : Char → Prop} (hdot : P '.') :
    (∀ s ∈ segments name, ∀ c ∈ s.toList, P c) ↔ ∀ c ∈ name.toList, P c := by
  rw [← forall_mem_pieces hdot]
  simp [segments]

theorem not_mem_of_mem_segments (hs : s ∈ segments name) : '.' ∉ s.toList := by
  obtain ⟨p, hp, rfl⟩ := List.mem_map.mp hs
  simpa using not_mem_of_mem_pieces hp

theorem segments_ofSegments_subset (hne : segs ≠ []) (hs : segs ⊆ segments name) :
    segments (ofSegments segs) = segs :=
  segments_ofSegments hne fun _ h => not_mem_of_mem_segments (hs h)

theorem segments_eq_singleton {segment : String} :
    segments name = [segment] ↔ name = segment ∧ '.' ∉ name.toList := by
  constructor
  · intro h
    have hname := ofSegments_segments name
    rw [h] at hname
    obtain rfl : segment = name := by simpa [ofSegments] using hname
    have hmem : segment ∈ segments segment := by simp [h]
    exact ⟨rfl, not_mem_of_mem_segments hmem⟩
  · rintro ⟨rfl, hd⟩
    rw [segments, pieces_eq_splitOn, List.splitOn_eq_singleton hd]
    simp

theorem head?_of_segments (h : segments name = "" :: seg :: segs) :
    name.toList.head? = some '.' := by
  rw [← ofSegments_segments name, h, toList_ofSegments]
  simp

-- ---------------------------------------------------------------------------
-- Implied namespaces
-- ---------------------------------------------------------------------------

theorem mem_runs {xs : List α} : r ∈ runs xs ↔ r ≠ [] ∧ r <+: xs := by
  induction xs generalizing r with
  | nil => simp [runs]
  | cons x xs ih =>
    cases r with
    | nil => simp [runs]
    | cons y ys =>
      simp only [runs, List.mem_cons, List.mem_map, List.cons.injEq, ih, ne_eq, reduceCtorEq,
        not_false_eq_true, true_and, List.cons_prefix_cons]
      constructor
      · rintro (⟨rfl, rfl⟩ | ⟨r, ⟨-, hr⟩, rfl, rfl⟩)
        · exact ⟨rfl, List.nil_prefix⟩
        · exact ⟨rfl, hr⟩
      · rintro ⟨rfl, hr⟩
        by_cases hy : ys = []
        · exact .inl ⟨rfl, hy⟩
        · exact .inr ⟨ys, ⟨hy, hr⟩, rfl, rfl⟩

theorem mem_ancestors : p ∈ ancestors n ↔ segments p <+: (segments n).dropLast := by
  simp only [ancestors, List.mem_map, mem_runs]
  constructor
  · rintro ⟨r, ⟨hne, hr⟩, rfl⟩
    rwa [segments_ofSegments_subset hne (List.Subset.trans hr.subset (List.dropLast_subset _))]
  · intro h
    exact ⟨segments p, ⟨segments_ne_nil p, h⟩, ofSegments_segments p⟩

theorem length_lt_of_mem_ancestors (h : p ∈ ancestors n) :
    (segments p).length < (segments n).length := by
  have hle := (mem_ancestors.mp h).length_le
  have hpos := List.length_pos_iff.mpr (segments_ne_nil n)
  rw [List.length_dropLast] at hle
  omega

theorem not_mem_ancestors_self (n : String) : n ∉ ancestors n :=
  fun h => Nat.lt_irrefl _ (length_lt_of_mem_ancestors h)

theorem ancestors_trans (hp : p ∈ ancestors q) (hq : q ∈ ancestors n) : p ∈ ancestors n := by
  rw [mem_ancestors] at *
  exact (hp.trans (List.dropLast_prefix _)).trans hq

theorem runs_pairwise (xs : List α) :
    (runs xs).Pairwise fun a b => a.length < b.length := by
  induction xs with
  | nil => exact .nil
  | cons x xs ih =>
    refine List.pairwise_cons.mpr ⟨?_, ?_⟩
    · intro r hr
      obtain ⟨s, hs, rfl⟩ := List.mem_map.mp hr
      have := List.length_pos_iff.mpr (mem_runs.mp hs).1
      simpa using this
    · rw [List.pairwise_map]
      exact ih.imp fun h => by simpa using h

theorem eq_append_of_mem_ancestors (h : p ∈ ancestors n) : ∃ rest, n = p ++ "." ++ rest := by
  obtain ⟨inner, hinner⟩ := mem_ancestors.mp h
  obtain ⟨init, leaf, hn⟩ := (List.eq_nil_or_concat (segments n)).resolve_left (segments_ne_nil n)
  have hsplit : segments n = segments p ++ (inner ++ [leaf]) := by
    rw [hn, List.concat_eq_append, List.dropLast_concat] at hinner
    rw [hn, List.concat_eq_append, ← hinner, List.append_assoc]
  refine ⟨ofSegments (inner ++ [leaf]), ?_⟩
  calc n = ofSegments (segments p ++ (inner ++ [leaf])) := by rw [← hsplit, ofSegments_segments]
    _ = ofSegments (segments p) ++ "." ++ ofSegments (inner ++ [leaf]) :=
        String.intercalate_append_of_ne_nil (segments_ne_nil p) (by simp)
    _ = p ++ "." ++ ofSegments (inner ++ [leaf]) := by rw [ofSegments_segments]

theorem head?_of_mem_ancestors (h : p ∈ ancestors n) (hdot : n.toList.head? ≠ some '.') :
    p.toList.head? ≠ some '.' := by
  obtain ⟨rest, rfl⟩ := eq_append_of_mem_ancestors h
  intro hp
  exact hdot (by simp [hp])

theorem ancestors_pairwise (n : String) :
    (ancestors n).Pairwise fun a b => (segments a).length < (segments b).length := by
  rw [ancestors, List.pairwise_map]
  refine (runs_pairwise _).imp_of_mem fun {a b} ha hb h => ?_
  have hrun {r} (hr : r ∈ runs (segments n).dropLast) : segments (ofSegments r) = r := by
    obtain ⟨hne, hpre⟩ := mem_runs.mp hr
    exact segments_ofSegments_subset hne (List.Subset.trans hpre.subset (List.dropLast_subset _))
  rwa [hrun ha, hrun hb]

-- ---------------------------------------------------------------------------
-- Namespaces of many names
-- ---------------------------------------------------------------------------

/-- Every name of the list stands after the namespaces it implies. -/
def OutermostFirst (names : List String) : Prop :=
  ∀ before name after, names = before ++ name :: after → ancestors name ⊆ before

theorem ancestors_outermostFirst (n : String) : OutermostFirst (ancestors n) := by
  intro before p after h q hq
  have hp : p ∈ ancestors n := by simp [h]
  have hmem := ancestors_trans hq hp
  have hlt := length_lt_of_mem_ancestors hq
  have hpair := h ▸ ancestors_pairwise n
  rw [h] at hmem
  rcases List.mem_append.mp hmem with hmem | hmem
  · exact hmem
  · have hafter := (List.pairwise_cons.mp (List.pairwise_append.mp hpair).2.1).1
    rcases List.mem_cons.mp hmem with rfl | hmem
    · exact absurd hlt (Nat.lt_irrefl _)
    · exact absurd hlt (Nat.lt_asymm (hafter q hmem))

theorem OutermostFirst.append (hx : OutermostFirst xs) (hy : OutermostFirst ys) :
    OutermostFirst (xs ++ ys) := by
  intro before p after h q hq
  rcases List.append_eq_append_iff.mp h with ⟨more, rfl, hys⟩ | ⟨more, hxs, hrest⟩
  · exact List.mem_append_right _ (hy more p after hys hq)
  · cases more with
    | nil =>
      have hempty := hy [] p after (by simpa using hrest.symm) hq
      simp at hempty
    | cons c more =>
      obtain ⟨rfl, -⟩ := List.cons.inj hrest
      exact hx before p more hxs hq

theorem flatMap_ancestors_outermostFirst (names : List String) :
    OutermostFirst (names.flatMap ancestors) := by
  induction names with
  | nil => intro before p after h; simp at h
  | cons n names ih => exact (ancestors_outermostFirst n).append ih

theorem firsts_concat (xs : List String) (x : String) :
    firsts (xs ++ [x]) = if x ∈ firsts xs then firsts xs else firsts xs ++ [x] := by
  simp only [firsts, List.foldl_append, List.foldl_cons, List.foldl_nil]
  rfl

@[simp] theorem mem_firsts : x ∈ firsts xs ↔ x ∈ xs := by
  induction xs using List.reverseRecOn with
  | nil => simp [firsts]
  | append_singleton xs y ih =>
    rw [firsts_concat]
    split
    · rename_i hy
      grind
    · grind

theorem nodup_firsts (xs : List String) : (firsts xs).Nodup := by
  induction xs using List.reverseRecOn with
  | nil => exact .nil
  | append_singleton xs y ih =>
    rw [firsts_concat]
    split
    · exact ih
    · grind

theorem OutermostFirst.firsts (h : OutermostFirst xs) : OutermostFirst (firsts xs) := by
  induction xs using List.reverseRecOn with
  | nil => exact h
  | append_singleton xs y ih =>
    have hxs : OutermostFirst xs := fun before p after hs =>
      h before p (after ++ [y]) (by simp [hs])
    rw [firsts_concat]
    split
    · exact ih hxs
    · intro before p after hs
      rcases List.eq_nil_or_concat after with rfl | ⟨after, z, rfl⟩
      · obtain ⟨rfl, hy⟩ := List.append_inj' hs rfl
        obtain rfl := List.singleton_inj.mp hy
        exact fun q hq => mem_firsts.mpr (h xs y [] rfl hq)
      · rw [List.concat_eq_append, ← List.cons_append, ← List.append_assoc] at hs
        exact ih hxs before p after (List.append_inj' hs rfl).1

theorem firsts_of_nodup (h : xs.Nodup) : firsts xs = xs := by
  induction xs using List.reverseRecOn with
  | nil => rfl
  | append_singleton xs y ih =>
    obtain ⟨hxs, -, hne⟩ := List.nodup_append.mp h
    have hy : y ∉ xs := fun hy => hne y hy y (by simp) rfl
    rw [firsts_concat, ih hxs, if_neg hy]

theorem mem_namespacePaths : p ∈ namespacePaths names ↔ ∃ n ∈ names, p ∈ ancestors n := by
  simp [namespacePaths]

theorem nodup_namespacePaths (names : List String) : (namespacePaths names).Nodup :=
  nodup_firsts _

theorem namespacePaths_outermostFirst (names : List String) :
    OutermostFirst (namespacePaths names) :=
  (flatMap_ancestors_outermostFirst names).firsts

end Farcall.Name
