import Farcall.Codec
import Farcall.Proofs.Success
import Farcall.Service.Registry
import Mathlib.Data.List.Forall2
import Mathlib.Data.List.Induction
import Mathlib.Data.List.Nodup

/-!
# Enumerations

A registered enumeration has every label once and every integer once, so that its codec can be
built, and leads from each label to its integer.
-/

namespace Farcall

-- ---------------------------------------------------------------------------
-- What readings succeed with
-- ---------------------------------------------------------------------------

namespace Reading

variable {α β : Type}

theorem within_ok {r : Reading α} : r.within step = .ok a ↔ r = .ok a := by
  cases r <;> simp [within, Except.mapError]

theorem both_ok {x : Reading α} {y : Reading β} :
    x.both y = .ok p ↔ x = .ok p.1 ∧ y = .ok p.2 := by
  obtain ⟨a, b⟩ := p
  cases x <;> cases y <;> simp [both]

theorem also_ok {r : Reading α} (h : r.also more = .ok a) : r = .ok a := by
  cases r with
  | error l => simp [also] at h
  | ok b =>
    simp only [also] at h
    split at h
    · exact h
    · cases h

theorem map_eq_ok {f : α → β} {r : Reading α} : r.map f = .ok b ↔ ∃ a, r = .ok a ∧ f a = b :=
  map_ok

end Reading

theorem Record.required_ok {read : Value → Reading α} (h : Record.required r key read = .ok a) :
    ∃ v, Value.get? r key = some v ∧ read v = .ok a := by
  have h := Reading.within_ok.mp h
  split at h
  · rename_i v hv
    exact ⟨v, hv, h⟩
  · cases h

namespace Value

variable {α : Type}

/-- The texts of the keys in order, and what is read from the values. -/
theorem readEntries_ok {read : Value → Reading α} (h : readEntries read r = .ok es) :
    List.Forall₂ (fun v a => read v = .ok a) (r.map Prod.snd) (es.map Prod.snd) := by
  induction r generalizing es with
  | nil =>
    cases h
    exact .nil
  | cons e r ih =>
    obtain ⟨k, v⟩ := e
    rw [readEntries] at h
    obtain ⟨⟨f, fs⟩, hboth, rfl⟩ := Reading.map_eq_ok.mp h
    obtain ⟨hhead, hrest⟩ := Reading.both_ok.mp hboth
    obtain ⟨-, hv⟩ := Reading.both_ok.mp hhead
    exact .cons (Reading.within_ok.mp hv) (ih hrest)

-- ---------------------------------------------------------------------------
-- Entries by key
-- ---------------------------------------------------------------------------

theorem keys_putEntry (entries : List (String × α)) (e : String × α) :
    (putEntry entries e).map Prod.fst = if e.1 ∈ entries.map Prod.fst then entries.map Prod.fst
      else entries.map Prod.fst ++ [e.1] := by
  unfold putEntry
  split
  · rw [List.map_map]
    refine List.map_congr_left fun f _ => ?_
    simp only [Function.comp]
    split <;> simp_all
  · simp

theorem nodup_keys_putEntry {entries : List (String × α)} (h : (entries.map Prod.fst).Nodup)
    (e : String × α) : ((putEntry entries e).map Prod.fst).Nodup := by
  rw [keys_putEntry]
  split
  · exact h
  · rename_i hnew
    rw [← List.concat_eq_append]
    exact h.concat hnew

theorem values_putEntry_subset (entries : List (String × α)) (e : String × α) :
    (putEntry entries e).map Prod.snd ⊆ entries.map Prod.snd ++ [e.2] := by
  intro v hv
  obtain ⟨f, hf, rfl⟩ := List.mem_map.mp hv
  unfold putEntry at hf
  split at hf
  · obtain ⟨g, hg, rfl⟩ := List.mem_map.mp hf
    split
    · simp
    · exact List.mem_append_left _ (List.mem_map_of_mem hg)
  · rcases List.mem_append.mp hf with hf | hf
    · exact List.mem_append_left _ (List.mem_map_of_mem hf)
    · simp [List.mem_singleton.mp hf]

theorem nodup_values_putEntry {entries : List (String × α)} (hkeys : (entries.map Prod.fst).Nodup)
    (hvalues : (entries.map Prod.snd).Nodup) (hnew : e.2 ∉ entries.map Prod.snd) :
    ((putEntry entries e).map Prod.snd).Nodup := by
  unfold putEntry
  split
  · rename_i hin
    clear hin
    induction entries with
    | nil => exact .nil
    | cons f entries ih =>
      obtain ⟨hkey, hkeys⟩ := List.nodup_cons.mp hkeys
      obtain ⟨hvalue, hvalues⟩ := List.nodup_cons.mp hvalues
      simp only [List.map_cons, List.mem_cons, not_or] at hnew
      have hrest := ih hkeys hvalues hnew.2
      by_cases hf : f.1 = e.1
      · -- The key is met here, so the rest stays as it is.
        have hsame : (entries.map fun g => if g.1 = e.1 then e else g) = entries := by
          refine (List.map_congr_left fun g hg => ?_).trans (List.map_id entries)
          have hne : g.1 ≠ e.1 := fun h => hkey (by
            rw [hf, ← h]
            exact List.mem_map_of_mem hg)
          simp [hne]
        rw [List.map_cons, if_pos hf, hsame]
        exact List.nodup_cons.mpr ⟨hnew.2, hvalues⟩
      · rw [List.map_cons, if_neg hf]
        refine List.nodup_cons.mpr ⟨fun h => ?_, hrest⟩
        obtain ⟨g', hg', hgv⟩ := List.mem_map.mp h
        obtain ⟨g, hg, rfl⟩ := List.mem_map.mp hg'
        split at hgv
        · exact hnew.1 hgv
        · exact hvalue (hgv ▸ List.mem_map_of_mem hg)
  · rw [List.map_append, List.map_singleton, ← List.concat_eq_append]
    exact hvalues.concat hnew

theorem nodup_keys_foldl_putEntry (es : List (String × α)) {entries : List (String × α)}
    (h : (entries.map Prod.fst).Nodup) : ((es.foldl putEntry entries).map Prod.fst).Nodup := by
  induction es generalizing entries with
  | nil => exact h
  | cons e es ih => exact ih (nodup_keys_putEntry h e)

theorem nodup_values_foldl_putEntry {es entries : List (String × α)}
    (hkeys : (entries.map Prod.fst).Nodup)
    (h : (entries.map Prod.snd ++ es.map Prod.snd).Nodup) :
    ((es.foldl putEntry entries).map Prod.snd).Nodup := by
  induction es generalizing entries with
  | nil => simpa using h
  | cons e es ih =>
    obtain ⟨hentries, hes, hdisjoint⟩ := List.nodup_append.mp h
    obtain ⟨he, hes⟩ := List.nodup_cons.mp hes
    have hnew : e.2 ∉ entries.map Prod.snd := fun hin => hdisjoint e.2 hin e.2 (by simp) rfl
    refine ih (nodup_keys_putEntry hkeys e) (List.nodup_append.mpr
      ⟨nodup_values_putEntry hkeys hentries hnew, hes, ?_⟩)
    intro v hv v' hv' heq
    subst heq
    rcases List.mem_append.mp (values_putEntry_subset entries e hv) with hold | hlast
    · exact hdisjoint v hold v (List.mem_cons_of_mem _ hv') rfl
    · exact he (List.mem_singleton.mp hlast ▸ hv')

end Value

-- ---------------------------------------------------------------------------
-- Members of a registered enumeration
-- ---------------------------------------------------------------------------

/-- Every label stands once and every integer stands once. -/
structure Enumerates (members : List (String × Int)) : Prop where
  labels : (members.map Prod.fst).Nodup
  values : (members.map Prod.snd).Nodup

namespace Service

theorem checkValues_ok (h : checkValues name seen entries = .ok u) :
    ∃ ns : List Int, entries.map Prod.snd = ns.map .int ∧ ns.Nodup ∧
      ∀ n ∈ ns, seen.lookup n = none := by
  induction entries generalizing seen with
  | nil => exact ⟨[], rfl, .nil, by simp⟩
  | cons e entries ih =>
    obtain ⟨label, v⟩ := e
    cases v with
    | int n =>
      simp only [checkValues] at h
      split at h
      · cases h
      · rename_i hfree
        obtain ⟨ns, hns, hnodup, hseen⟩ := ih h
        refine ⟨n :: ns, by simp [hns], List.nodup_cons.mpr ⟨fun hn => ?_, hnodup⟩, ?_⟩
        · have hlast := hseen n hn
          simp [List.lookup_append, hfree] at hlast
        · intro m hm
          rcases List.mem_cons.mp hm with rfl | hm
          · exact hfree
          · have hlater := hseen m hm
            rw [List.lookup_append] at hlater
            exact (Option.or_eq_none_iff.mp hlater).1
    | _ => cases h

theorem readEnum_ok (h : Value.readEnum (.map [(.str "members", .map entries)]) = .ok d) :
    ∃ es, Value.readEntries Value.readInteger entries = .ok es ∧
      d = .enum (es.foldl Value.putEntry []) := by
  have hmembers :
      Value.get? [(.str "members", .map entries)] "members" = some (.map entries) := by
    simp [Value.get?, Value.lookup?, Value.same, Value.sameScalar, Value.numeric?]
  obtain ⟨p, hp, rfl⟩ := Reading.map_eq_ok.mp h
  obtain ⟨-, hmap⟩ := Reading.both_ok.mp (Reading.also_ok hp)
  rw [Record.required, hmembers] at hmap
  obtain ⟨es, hes, heq⟩ := Reading.map_eq_ok.mp (Reading.within_ok.mp hmap)
  exact ⟨es, hes, by rw [← heq]⟩

theorem values_of_readInteger {ns : List Int} {values : List Int}
    (h : List.Forall₂ (fun v a => Value.readInteger v = .ok a) (ns.map .int) values) :
    values = ns := by
  induction ns generalizing values with
  | nil =>
    cases h
    rfl
  | cons n ns ih =>
    obtain ⟨_, rest, hn, hrest, rfl⟩ := List.forall₂_cons_left_iff.mp h
    cases hn
    rw [ih hrest]

/-- However an enumeration is given, it enumerates once it is registered. -/
theorem enumerates_of_register (hvalues : checkValues name [] entries = .ok u)
    (hread : Value.readEnum (.map [(.str "members", .map entries)]) = .ok (.enum members)) :
    Enumerates members := by
  obtain ⟨es, hes, hmembers⟩ := readEnum_ok hread
  cases hmembers
  obtain ⟨ns, hns, hnodup, -⟩ := checkValues_ok hvalues
  have hsnd : es.map Prod.snd = ns := values_of_readInteger (hns ▸ Value.readEntries_ok hes)
  exact ⟨Value.nodup_keys_foldl_putEntry es .nil,
    Value.nodup_values_foldl_putEntry .nil (by simpa [hsnd] using hnodup)⟩

end Service

-- ---------------------------------------------------------------------------
-- The codec
-- ---------------------------------------------------------------------------

namespace Codec

theorem same_int (m n : Int) : (Value.int m).same (.int n) = (m == n) := by
  simp [Value.same, Value.sameScalar, Value.numeric?, Value.Numeric.same]

def entriesOf (members : List (String × Int)) : List (String × Value) :=
  members.map fun m => (m.1, .int m.2)

theorem distinctValues_concat (es : List (Value × Value)) (e : Value × Value) :
    distinctValues (es ++ [e]) =
      if (distinctValues es).any e.2.same then distinctValues es else distinctValues es ++ [e.2] := by
  simp only [distinctValues, List.foldl_append, List.foldl_cons, List.foldl_nil]
  rfl

theorem distinctValues_of_pairwise {es : List (Value × Value)}
    (h : (es.map Prod.snd).Pairwise fun v w => w.same v = false) :
    distinctValues es = es.map Prod.snd := by
  induction es using List.reverseRecOn with
  | nil => rfl
  | append_singleton es e ih =>
    rw [List.map_append, List.pairwise_append] at h
    obtain ⟨hes, -, he⟩ := h
    have hnew : (es.map Prod.snd).any e.2.same = false := by
      rw [List.any_eq_false]
      intro v hv
      simp [he v hv e.2 (by simp)]
    rw [distinctValues_concat, ih hes, hnew]
    simp

def valuesOf (members : List (String × Int)) : List (Value × Value) :=
  members.map fun m => (.str m.1, .int m.2)

theorem distinctValues_valuesOf (h : (members.map Prod.snd).Nodup) :
    (distinctValues (valuesOf members)).length = (valuesOf members).length := by
  have hpairwise : ((valuesOf members).map Prod.snd).Pairwise fun v w => w.same v = false := by
    rw [valuesOf, List.map_map, List.pairwise_map]
    rw [List.nodup_iff_pairwise_ne, List.pairwise_map] at h
    exact h.imp fun hne => by simpa [same_int] using hne.symm
  rw [distinctValues_of_pairwise hpairwise, List.length_map]

theorem checkLabels_valuesOf {name : String} (h : ∀ m ∈ members, isReserved m.1 = false) :
    checkLabels name (valuesOf members) = .ok (entriesOf members) := by
  induction members with
  | nil => rfl
  | cons m members ih =>
    obtain ⟨hm, hrest⟩ := List.forall_mem_cons.mp h
    rw [valuesOf] at ih ⊢
    rw [List.map_cons, checkLabels, hm, ih hrest]
    rfl

/-- An enumeration without a label that the codec refuses has a codec, and that has its members. -/
theorem ofMembers_ok (h : Enumerates members) (hlabels : ∀ m ∈ members, isReserved m.1 = false)
    (name : String) : ofMembers name members = .ok ⟨name, entriesOf members⟩ := by
  have hhashable : (valuesOf members).all (·.2.hashable) = true := by
    simp [valuesOf, Value.hashable]
  have hbuild : ofMembers name members = ofEntries name (valuesOf members) := rfl
  simp only [hbuild, ofEntries, hhashable, distinctValues_valuesOf h.values,
    checkLabels_valuesOf hlabels, if_true]
  rfl

end Codec

end Farcall
