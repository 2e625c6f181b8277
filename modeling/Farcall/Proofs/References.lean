import Farcall.Proofs.Registration
import Mathlib.Logic.Relation

/-!
# References to types

A reference is checked when it is registered, and types are never taken away. So whatever refers to a
type refers to one that is there, and a struct refers to itself or to types that stand before it.
-/

namespace Farcall.Service

variable {s t : Service}

-- ---------------------------------------------------------------------------
-- Names of types
-- ---------------------------------------------------------------------------

def StandsAt (s : Service) (r : TypeRef) (i : Nat) : Prop :=
  ∃ d, s.types[i]? = some (.str r.name, d)

def Refers (s : Service) (i : Nat) (r : TypeRef) : Prop :=
  ∃ name fields, s.types[i]? = some (name, .struct fields) ∧ ∃ f ∈ fields, f.2.type = r

/-- A reference is to a builtin type or to a registered one. -/
def Knows (s : Service) (r : TypeRef) : Prop :=
  r.name ∈ TypeRef.builtin ∨ ∃ i, s.StandsAt r i

/-- The struct at one position refers to the type at another one. -/
def Needs (s : Service) (i j : Nat) : Prop :=
  i ≠ j ∧ ∃ r, s.Refers i r ∧ s.StandsAt r j

theorem hasType_iff {r : TypeRef} : s.hasType (.str r.name) = true ↔ s.Knows r := by
  have hbuiltin : TypeRef.builtin.any (fun b => (Value.str b).same (.str r.name)) = true ↔
      r.name ∈ TypeRef.builtin := by
    simp [Value.same_str]
  have htypes : s.types.any (fun t => t.1.same (.str r.name)) = true ↔ ∃ i, s.StandsAt r i := by
    simp only [List.any_eq_true, Value.same_str_iff]
    constructor
    · rintro ⟨⟨_, d⟩, ht, rfl⟩
      obtain ⟨i, hi⟩ := List.getElem?_of_mem ht
      exact ⟨i, d, hi⟩
    · rintro ⟨i, d, hi⟩
      exact ⟨_, List.mem_of_getElem? hi, rfl⟩
  rw [hasType, Bool.or_eq_true, hbuiltin, htypes, or_comm, Knows]

-- ---------------------------------------------------------------------------
-- Types are only added
-- ---------------------------------------------------------------------------

theorem StandsAt.addType (h : s.StandsAt r i) : (s.addType name d).StandsAt r i := by
  obtain ⟨d', hd⟩ := h
  obtain ⟨hlt, -⟩ := List.getElem?_eq_some_iff.mp hd
  exact ⟨d', by rw [Service.addType, List.getElem?_append_left hlt, hd]⟩

theorem Knows.addType (h : s.Knows r) : (s.addType name d).Knows r := by
  rcases h with hbuiltin | ⟨i, hi⟩
  · exact .inl hbuiltin
  · exact .inr ⟨i, hi.addType⟩

theorem standsAt_last {r : TypeRef} : (s.addType (.str r.name) d).StandsAt r s.types.length :=
  ⟨d, List.getElem?_concat_length⟩

/-- A struct that refers to a type was there before, or is the one that was added. -/
theorem refers_addType (h : (s.addType name d).Refers i r) : s.Refers i r ∨
    i = s.types.length ∧ ∃ fields, d = .struct fields ∧ ∃ f ∈ fields, f.2.type = r := by
  obtain ⟨owner, fields, hi, hf⟩ := h
  rcases Nat.lt_or_ge i s.types.length with hlt | hle
  · rw [addType, List.getElem?_append_left hlt] at hi
    exact .inl ⟨owner, fields, hi, hf⟩
  · obtain ⟨hbound, -⟩ := List.getElem?_eq_some_iff.mp hi
    have hlast : i = s.types.length := by
      simp only [addType, List.length_append, List.length_singleton] at hbound
      omega
    rw [hlast, addType, List.getElem?_concat_length] at hi
    cases hi
    exact .inr ⟨hlast, fields, rfl, hf⟩

-- ---------------------------------------------------------------------------
-- What registrations keep
-- ---------------------------------------------------------------------------

/-- All references are to types that are there, those of a struct to itself or to types before it, and
no type hides a builtin one. -/
structure ReferencesOk (s : Service) : Prop where
  fields : ∀ i r, s.Refers i r →
    r.name ∈ TypeRef.builtin ∨ s.StandsAt r i ∨ ∃ j < i, s.StandsAt r j
  params : ∀ m ∈ s.methods, ∀ p ∈ m.params, s.Knows p.type
  returns : ∀ m ∈ s.methods, ∀ r, m.returns = some r → r.name ≠ TypeRef.asyncMarker → s.Knows r
  events : ∀ e ∈ s.events, ∀ r, e.type = some r → s.Knows r
  unhidden : ∀ e ∈ s.types, ∀ b ∈ TypeRef.builtin, e.1 ≠ .str b

theorem ReferencesOk.type (hs : s.ReferencesOk) (hd : s.AdmitsType name d) :
    (s.addType name d).ReferencesOk where
  fields i r hr := by
    rcases refers_addType hr with hold | ⟨rfl, fields, rfl, f, hf, rfl⟩
    · rcases hs.fields i r hold with hbuiltin | hself | ⟨j, hj, hstands⟩
      · exact .inl hbuiltin
      · exact .inr (.inl hself.addType)
      · exact .inr (.inr ⟨j, hj, hstands.addType⟩)
    · rcases hd.fields fields rfl f hf with hself | hknown
      · obtain rfl := Value.str_same_iff.mp hself
        exact .inr (.inl standsAt_last)
      · rcases hasType_iff.mp hknown with hbuiltin | ⟨j, d, hj⟩
        · exact .inl hbuiltin
        · obtain ⟨hlt, -⟩ := List.getElem?_eq_some_iff.mp hj
          exact .inr (.inr ⟨j, hlt, StandsAt.addType ⟨d, hj⟩⟩)
  params m hm p hp := (hs.params m hm p hp).addType
  returns m hm r hr hsync := (hs.returns m hm r hr hsync).addType
  events e he r hr := (hs.events e he r hr).addType
  unhidden e he b hb := by
    rcases List.mem_append.mp he with he | he
    · exact hs.unhidden e he b hb
    · obtain rfl := List.mem_singleton.mp he
      rintro rfl
      have hknown : s.hasType (.str b) = true := hasType_iff (r := ⟨b, false⟩).mpr (.inl hb)
      rw [hd.fresh] at hknown
      cases hknown

theorem ReferencesOk.method (hs : s.ReferencesOk) (hm : s.AdmitsMethod m) :
    ReferencesOk { s with methods := s.methods ++ [m] } where
  fields := hs.fields
  params n hn p hp := by
    rcases List.mem_append.mp hn with hn | hn
    · exact hs.params n hn p hp
    · obtain rfl := List.mem_singleton.mp hn
      exact hasType_iff.mp (hm.params p hp)
  returns n hn r hr hsync := by
    rcases List.mem_append.mp hn with hn | hn
    · exact hs.returns n hn r hr hsync
    · obtain rfl := List.mem_singleton.mp hn
      rcases hm.returns r hr with hasync | hknown
      · simp [Method.isAsync, hr, hsync] at hasync
      · exact hasType_iff.mp hknown
  events := hs.events
  unhidden := hs.unhidden

theorem ReferencesOk.event (hs : s.ReferencesOk) (he : s.AdmitsEvent e) :
    ReferencesOk { s with events := s.events ++ [e] } where
  fields := hs.fields
  params := hs.params
  returns := hs.returns
  events f hf r hr := by
    rcases List.mem_append.mp hf with hf | hf
    · exact hs.events f hf r hr
    · obtain rfl := List.mem_singleton.mp hf
      exact hasType_iff.mp (he.type r hr)
  unhidden := hs.unhidden

theorem ReferencesOk.after (hs : s.ReferencesOk) (r : Registration) : (s.after r).ReferencesOk := by
  unfold Service.after
  split
  · rename_i t ht
    rcases register_cases ht with ⟨name, d, hd, rfl⟩ | ⟨m, hm, rfl⟩ | ⟨e, he, rfl⟩
    · exact hs.type hd
    · exact hs.method hm
    · exact hs.event he
  · exact hs

theorem referencesOk_empty (version friendlyName : Value) :
    (empty version friendlyName).ReferencesOk where
  fields i r hr := by
    obtain ⟨_, _, hi, -⟩ := hr
    simp [empty] at hi
  params m hm := by cases hm
  returns m hm := by cases hm
  events e he := by cases he
  unhidden e he := by cases he

theorem Reachable.referencesOk (h : Reachable s) : s.ReferencesOk := by
  induction h with
  | empty version friendlyName => exact referencesOk_empty version friendlyName
  | after _ r ih => exact ih.after r

-- ---------------------------------------------------------------------------
-- No cycles
-- ---------------------------------------------------------------------------

theorem TypesOk.position_unique (hs : s.TypesOk) (hi : s.StandsAt r i) (hj : s.StandsAt r j) :
    i = j := by
  obtain ⟨_, hi⟩ := hi
  obtain ⟨_, hj⟩ := hj
  obtain ⟨hilt, hi⟩ := List.getElem?_eq_some_iff.mp hi
  obtain ⟨hjlt, hj⟩ := List.getElem?_eq_some_iff.mp hj
  have hdistinct := List.pairwise_iff_getElem.mp hs.distinct
  rcases Nat.lt_trichotomy i j with hlt | heq | hgt
  · have hne := hdistinct i j hilt hjlt hlt
    simp [hi, hj, Value.same_str] at hne
  · exact heq
  · have hne := hdistinct j i hjlt hilt hgt
    simp [hi, hj, Value.same_str] at hne

theorem Reachable.lt_of_needs (h : Reachable s) (hn : s.Needs i j) : j < i := by
  obtain ⟨hne, r, hr, d, hj⟩ := hn
  rcases h.referencesOk.fields i r hr with hbuiltin | hself | ⟨j', hlt, hstands⟩
  · exact (h.referencesOk.unhidden _ (List.mem_of_getElem? hj) _ hbuiltin rfl).elim
  · exact (hne (h.typesOk.position_unique hself ⟨d, hj⟩)).elim
  · exact h.typesOk.position_unique hstands ⟨d, hj⟩ ▸ hlt

theorem Reachable.lt_of_transGen_needs (h : Reachable s) (hn : Relation.TransGen s.Needs i j) :
    j < i := by
  induction hn with
  | single hn => exact h.lt_of_needs hn
  | tail _ hn ih => exact Nat.lt_trans (h.lt_of_needs hn) ih

/-- Whatever is registered, in whatever order, all references are to types that are there, structs
refer to nothing that comes after them, so that no chain of references but that of a struct to itself
comes back to where it began, and the integers of an enumeration are distinct. -/
theorem references_resolve (h : Reachable s) :
    s.ReferencesOk ∧ (∀ i, ¬ Relation.TransGen s.Needs i i) ∧
      ∀ e ∈ s.enums, (e.2.map Prod.snd).Nodup :=
  ⟨h.referencesOk, fun _ hi => Nat.lt_irrefl _ (h.lt_of_transGen_needs hi),
    fun e he => (h.typesOk.enumerates e he).values⟩

def referencesOf : TypeDef → List TypeRef
  | .enum _ => []
  | .struct fields => fields.map fun f => f.2.type

/-- A node refers to itself and to the kinds before it; a struct that refers to something later is
refused, and so is a method. -/
theorem references_of_nodes_resolve :
    let field (name : String) : String × Field := ("of", ⟨⟨name, true⟩, true, .null, none⟩)
    let s := ((((Service.empty (.str "1.0") (.str "Graphs")).after
      (.enum (.str "Kind") (.list [.str "leaf", .str "branch"]))).after
      (.definition (.str "Graph") (.struct [field "Node"]))).after
      (.definition (.str "Node") (.struct [field "Node", field "Kind", field "int"]))).after
      (.readMethod [] ⟨"draw", [⟨"graph", ⟨"Graph", false⟩, false, .null, none⟩], none, none⟩)
    s.Reachable ∧ s.types.length = 2 ∧ s.methods.length = 0 ∧ s.Refers 1 ⟨"Kind", true⟩ ∧
      s.ReferencesOk ∧ ¬ Relation.TransGen s.Needs 1 1 := by
  intro field s
  have hs : s.Reachable := (((Reachable.empty _ _).after _ |>.after _).after _).after _
  have hlengths : s.types.length = 2 ∧ s.methods.length = 0 := by
    simp only [s, field]
    decide +kernel
  have hfound : s.types[1]?.map (fun t => decide (⟨"Kind", true⟩ ∈ referencesOf t.2)) =
      some true := by
    simp only [s, field]
    decide +kernel
  have hrefers : s.Refers 1 ⟨"Kind", true⟩ := by
    obtain ⟨⟨name, d⟩, hi, hmem⟩ := Option.map_eq_some_iff.mp hfound
    cases d with
    | enum members => cases of_decide_eq_true hmem
    | struct fields =>
      obtain ⟨f, hf, htype⟩ := List.mem_map.mp (of_decide_eq_true hmem)
      exact ⟨name, fields, hi, f, hf, htype⟩
  obtain ⟨hok, hacyclic, -⟩ := references_resolve hs
  exact ⟨hs, hlengths.1, hlengths.2, hrefers, hok, hacyclic 1⟩

end Farcall.Service
