import Farcall.Proofs.Names
import Farcall.Proofs.Success
import Farcall.Tree

/-!
# Trees as mappings from paths

What a tree holds is said by `at?`: what kind of node stands at the end of a path of keys. Attaching
a node fills one path and leaves the others alone, and it succeeds exactly if that path is free and
leads through namespaces.
-/

namespace Farcall.Tree

/-- A node, apart from what lies in it. -/
inductive Kind where
  | scope (path : String)
  | method (stub : Stub)
deriving DecidableEq

def kind : Tree → Kind
  | .scope p _ => .scope p
  | .method s => .method s

@[simp] theorem kind_empty (path : String) : (empty path).kind = .scope path := rfl

@[simp] theorem kind_method (stub : Stub) : (method stub).kind = .method stub := rfl

def at? (t : Tree) (path : List String) : Option Kind :=
  (t.find? path).map kind

@[simp] theorem at?_nil (t : Tree) : t.at? [] = some t.kind := by
  cases t <;> rfl

@[simp] theorem at?_scope_cons :
    (scope p cs).at? (key :: path) = (cs.lookup key).bind (·.at? path) := by
  simp only [at?, find?]
  cases cs.lookup key <;> rfl

@[simp] theorem at?_method_cons : (method s).at? (key :: path) = none := rfl

/-- Every key stands once among the children of a namespace. -/
inductive KeysDistinct : Tree → Prop
  | method : KeysDistinct (.method s)
  | scope : (cs.map Prod.fst).Nodup → (∀ c ∈ cs, KeysDistinct c.2) → KeysDistinct (.scope p cs)

-- ---------------------------------------------------------------------------
-- Children
-- ---------------------------------------------------------------------------

variable {cs cs' : List (String × Tree)}

theorem lookup_replace :
    (replace key t cs).lookup k = if k = key then (cs.lookup k).map fun _ => t else cs.lookup k := by
  induction cs with
  | nil => simp [replace]
  | cons c cs ih =>
    obtain ⟨n, u⟩ := c
    simp only [replace, List.map_cons] at ih ⊢
    by_cases hn : n = key
    · subst hn
      by_cases hk : k = n
      · simp [hk]
      · simpa [hk, List.lookup_cons, beq_eq_false_iff_ne.mpr hk] using ih
    · by_cases hk : k = n
      · subst hk
        simp [hn]
      · simpa [hn, List.lookup_cons, beq_eq_false_iff_ne.mpr hk] using ih

theorem keys_replace : (replace key t cs).map Prod.fst = cs.map Prod.fst := by
  simp only [replace, List.map_map]
  refine List.map_congr_left fun c _ => ?_
  simp only [Function.comp]
  split <;> simp_all

theorem mem_of_lookup [BEq κ] [LawfulBEq κ] {entries : List (κ × α)}
    (h : entries.lookup key = some a) : (key, a) ∈ entries := by
  obtain ⟨l, r, rfl, -⟩ := List.lookup_eq_some_iff.mp h
  simp

theorem lookup_of_mem [BEq κ] [LawfulBEq κ] {entries : List (κ × α)}
    (hkeys : (entries.map Prod.fst).Nodup) (h : (key, a) ∈ entries) :
    entries.lookup key = some a := by
  obtain ⟨l, r, rfl⟩ := List.append_of_mem h
  rw [List.map_append, List.nodup_append] at hkeys
  refine List.lookup_eq_some_iff.mpr ⟨l, r, rfl, fun e he => ?_⟩
  exact bne_iff_ne.mpr fun hk => hkeys.2.2 e.1 (List.mem_map_of_mem he) key (by simp) hk.symm

theorem lookup_eq_some_iff [BEq κ] [LawfulBEq κ] {entries : List (κ × α)}
    (hkeys : (entries.map Prod.fst).Nodup) :
    entries.lookup key = some a ↔ (key, a) ∈ entries :=
  ⟨mem_of_lookup, lookup_of_mem hkeys⟩

theorem lookup_eq_none_iff [BEq κ] [LawfulBEq κ] {entries : List (κ × α)} :
    entries.lookup key = none ↔ key ∉ entries.map Prod.fst := by
  rw [List.lookup_eq_none_iff, List.mem_map]
  exact ⟨fun h ⟨e, he, hk⟩ => bne_iff_ne.mp (h e he) hk.symm,
    fun h e he => bne_iff_ne.mpr fun hk => h ⟨e, he, hk.symm⟩⟩

theorem isSome_lookup [BEq κ] {entries : List (κ × α)} :
    (entries.lookup key).isSome = entries.any fun e => key == e.1 := by
  induction entries with
  | nil => rfl
  | cons e entries ih =>
    rw [List.lookup_cons, List.any_cons, ← ih]
    cases key == e.1 <;> rfl

-- ---------------------------------------------------------------------------
-- Attaching
-- ---------------------------------------------------------------------------

def IsBare (node : Tree) : Prop := ∀ key path, node.at? (key :: path) = none

theorem isBare_empty (path : String) : (empty path).IsBare := fun _ _ => rfl

theorem isBare_method (stub : Stub) : (method stub).IsBare := fun _ _ => rfl

theorem at?_attachAt (hnode : node.IsBare) (h : attachAt name leaf node path cs = .ok cs')
    (hq : q ≠ []) :
    (scope r cs').at? q = if q = path ++ [leaf] then some node.kind else (scope r cs).at? q := by
  obtain ⟨k, q, rfl⟩ := List.exists_cons_of_ne_nil hq
  induction path generalizing cs cs' k q r with
  | nil =>
    simp only [attachAt] at h
    split at h
    · cases h
    · rename_i hfree
      cases h
      by_cases hk : k = leaf
      · subst hk
        cases q with
        | nil => simp [List.lookup_append, hfree]
        | cons k' q => simp [List.lookup_append, hfree, hnode k' q]
      · have hk' : (k == leaf) = false := by simpa using hk
        simp [List.lookup_append, List.lookup_cons, hk, hk']
  | cons key path ih =>
    simp only [attachAt] at h
    split at h
    · rename_i p inner hkey
      simp only [bind_ok, pure_ok] at h
      obtain ⟨inner', hin, rfl⟩ := h
      by_cases hk : k = key
      · subst hk
        cases q with
        | nil => simp [lookup_replace, hkey, kind]
        | cons k' q => simp [lookup_replace, hkey, ih hin]
      · simp [lookup_replace, hk]
    · cases h

theorem attachAt_ok : (∃ cs', attachAt name leaf node path cs = .ok cs') ↔
    (∃ p, (scope r cs).at? path = some (.scope p)) ∧ (scope r cs).at? (path ++ [leaf]) = none := by
  induction path generalizing cs r with
  | nil =>
    simp only [attachAt, at?_nil, kind, Option.some.injEq, Kind.scope.injEq, exists_eq', true_and,
      List.nil_append, at?_scope_cons]
    cases cs.lookup leaf <;> simp
  | cons key path ih =>
    simp only [attachAt, List.cons_append, at?_scope_cons]
    split
    · rename_i p inner hkey
      simp only [hkey, Option.bind_some, ← ih, bind_ok, pure_ok]
      constructor
      · rintro ⟨_, inner', h, -⟩
        exact ⟨inner', h⟩
      · rintro ⟨inner', h⟩
        exact ⟨_, inner', h, rfl⟩
    · rename_i hkey
      simp only [reduceCtorEq, exists_false, false_iff, not_and]
      rintro ⟨p, hp⟩
      obtain ⟨c, hc, hp⟩ := Option.bind_eq_some_iff.mp hp
      cases c with
      | scope p' inner => exact (hkey p' inner hc).elim
      | method s => cases path <;> simp [kind] at hp

theorem keysDistinct_attachAt (hd : (scope r cs).KeysDistinct) (hnode : node.KeysDistinct)
    (h : attachAt name leaf node path cs = .ok cs') : (scope r cs').KeysDistinct := by
  induction path generalizing cs cs' r with
  | nil =>
    cases hd with | scope hkeys hinner => ?_
    simp only [attachAt] at h
    split at h
    · cases h
    · rename_i hfree
      cases h
      refine .scope ?_ ?_
      · rw [List.map_append, List.nodup_append]
        refine ⟨hkeys, by simp, ?_⟩
        intro k hk k' hk'
        obtain ⟨c, hc, rfl⟩ := List.mem_map.mp hk
        obtain rfl : k' = leaf := by simpa using hk'
        have hother := List.lookup_eq_none_iff.mp hfree c hc
        exact fun h => by simp [h] at hother
      · intro c hc
        rcases List.mem_append.mp hc with hc | hc
        · exact hinner c hc
        · exact List.mem_singleton.mp hc ▸ hnode
  | cons key path ih =>
    cases hd with | scope hkeys hinner => ?_
    simp only [attachAt] at h
    split at h
    · rename_i p inner hkey
      simp only [bind_ok, pure_ok] at h
      obtain ⟨inner', hin, rfl⟩ := h
      refine .scope (by rwa [keys_replace]) ?_
      intro _ hc
      obtain ⟨c, hold, rfl⟩ := List.mem_map.mp hc
      split
      · exact ih (hinner _ (mem_of_lookup hkey)) hin
      · exact hinner c hold
    · cases h

theorem keys_attachAt (h : attachAt name leaf node path cs = .ok cs') :
    cs'.map Prod.fst = cs.map Prod.fst ++ if path = [] then [leaf] else [] := by
  cases path with
  | nil =>
    simp only [attachAt] at h
    split at h <;> cases h
    simp
  | cons key path =>
    simp only [attachAt] at h
    split at h
    · simp only [bind_ok, pure_ok] at h
      obtain ⟨_, -, rfl⟩ := h
      simp [keys_replace]
    · cases h

-- ---------------------------------------------------------------------------
-- Names as paths
-- ---------------------------------------------------------------------------

/-- A name that does not begin with a dot is attached at the end of its own segments. A namespace
that is empty would be taken for the root. -/
theorem parentPath_eq (hdot : name.toList.head? ≠ some '.') :
    parentPath name = (Name.segments name).dropLast := by
  unfold parentPath
  by_cases hone : (Name.segments name).dropLast = []
  · simp [Name.parent, hone, Name.ofSegments]
  · have hseg : Name.segments (Name.parent name) = (Name.segments name).dropLast :=
      Name.segments_ofSegments_subset hone (List.dropLast_subset _)
    have hne : Name.parent name ≠ "" := by
      intro h
      have hempty : (Name.segments name).dropLast = [""] := by
        rw [← hseg, h]
        rfl
      obtain ⟨init, last, hsplit⟩ := List.eq_nil_or_concat (Name.segments name) |>.resolve_left
        (Name.segments_ne_nil name)
      simp only [hsplit, List.concat_eq_append, List.dropLast_concat] at hempty
      exact hdot (Name.head?_of_segments (by rw [hsplit, hempty]; rfl))
    rw [if_neg hne, hseg]

theorem dropLast_append_leaf (name : String) :
    (Name.segments name).dropLast ++ [Name.leaf name] = Name.segments name := by
  obtain ⟨init, last, h⟩ := (List.eq_nil_or_concat (Name.segments name)).resolve_left
    (Name.segments_ne_nil name)
  simp [Name.leaf, h]

end Farcall.Tree
