import Farcall.Proofs.Documents
import Farcall.Proofs.Emissions
import Farcall.Proofs.Trees
import Mathlib.Data.List.ProdSigma

/-!
# Codecs of registered enumerations

An enumeration has the members it was registered with, and labels registered as a list are numbered
from zero in their order. If its labels are usable in a proxy, it has a codec, and the codec leads
from each label to its integer and back, and nowhere else.
-/

namespace Farcall

-- ---------------------------------------------------------------------------
-- To and fro
-- ---------------------------------------------------------------------------

namespace Codec

def ownAttributes : List String :=
  storage ++ [completion] ++ shared ++ fixed

/-- A codec leads to and fro between the labels and the integers of some members, in their order,
and the labels are attributes of it beside its own. -/
structure Carries (c : Codec) (members : List (String × Int)) : Prop where
  label : ∀ l v, c.call (.str l) = .ok v ↔ ∃ n, v = .int n ∧ (l, n) ∈ members
  integer : ∀ n v, c.call (.int n) = .ok v ↔ ∃ l, v = .str l ∧ (l, n) ∈ members
  containsLabel : ∀ l, c.contains (.str l) = .ok (c.call (.str l)).isOk
  containsInteger : ∀ n, c.contains (.int n) = .ok (c.call (.int n)).isOk
  attributes : ∀ l n, (l, n) ∈ members → c.attribute? l = some (.value (.int n))
  own : ∀ a ∈ ownAttributes, c.attribute? a = some .own
  labels : c.labels = members.map Prod.fst
  items : c.entries = entriesOf members

variable {name : String} {members : List (String × Int)}

theorem value?_entriesOf (l : String) :
    value? ⟨name, entriesOf members⟩ l = (members.lookup l).map Value.int := by
  simp only [value?, entriesOf]
  induction members with
  | nil => rfl
  | cons m members ih =>
    rw [List.map_cons, List.lookup_cons, List.lookup_cons, ih]
    cases l == m.1 <;> rfl

theorem label?_entriesOf (n : Int) :
    label? ⟨name, entriesOf members⟩ (.int n) = (members.map Prod.swap).lookup n := by
  simp only [label?, entriesOf]
  induction members with
  | nil => rfl
  | cons m members ih =>
    rw [List.map_cons, List.map_cons, List.find?_cons, List.lookup_cons, Prod.fst_swap,
      Prod.snd_swap, ← ih, same_int, BEq.comm]
    cases n == m.2 <;> rfl

theorem value?_iff (h : Enumerates members) :
    value? ⟨name, entriesOf members⟩ l = some v ↔ ∃ n, v = .int n ∧ (l, n) ∈ members := by
  rw [value?_entriesOf, Option.map_eq_some_iff]
  constructor
  · rintro ⟨n, hn, rfl⟩
    exact ⟨n, rfl, (Tree.lookup_eq_some_iff h.labels).mp hn⟩
  · rintro ⟨n, rfl, hn⟩
    exact ⟨n, (Tree.lookup_eq_some_iff h.labels).mpr hn, rfl⟩

theorem label?_iff (h : Enumerates members) :
    label? ⟨name, entriesOf members⟩ (.int n) = some l ↔ (l, n) ∈ members := by
  have hvalues : ((members.map Prod.swap).map Prod.fst).Nodup := by
    rw [List.map_map]
    exact h.values
  rw [label?_entriesOf, Tree.lookup_eq_some_iff hvalues, List.mem_map_swap]

theorem call_str (c : Codec) (l : String) (v : Value) :
    c.call (.str l) = .ok v ↔ c.value? l = some v := by
  rw [call]
  cases c.value? l <;> simp

theorem call_int (c : Codec) (n : Int) (v : Value) :
    c.call (.int n) = .ok v ↔ ∃ l, v = .str l ∧ c.label? (.int n) = some l := by
  rw [call]
  cases c.label? (.int n) <;> simp [eq_comm]

/-- No integer is a text, so a text is among the keys of a codec if it is a label. -/
theorem contains_str (l : String) : contains ⟨name, entriesOf members⟩ (.str l) =
    .ok (value? ⟨name, entriesOf members⟩ l).isSome := by
  have hkey (e : String × Int) :
      ((Value.str e.1).same (.str l) || (Value.int e.2).same (.str l)) = (l == e.1) := by
    rw [Value.same_str, BEq.comm]
    simp [Value.same, Value.sameScalar, Value.numeric?]
  rw [value?_entriesOf, Option.isSome_map, Tree.isSome_lookup]
  simp [contains, Value.hashable, entriesOf, Function.comp_def, hkey]

theorem contains_int (n : Int) : contains ⟨name, entriesOf members⟩ (.int n) =
    .ok (label? ⟨name, entriesOf members⟩ (.int n)).isSome := by
  have hkey (e : String × Int) :
      ((Value.str e.1).same (.int n) || (Value.int e.2).same (.int n)) = (n == e.2) := by
    rw [same_int, BEq.comm]
    simp [Value.same, Value.sameScalar, Value.numeric?]
  rw [label?_entriesOf, Tree.isSome_lookup]
  simp [contains, Value.hashable, entriesOf, Function.comp_def, hkey]

theorem isOk_call_str (c : Codec) (l : String) : (c.call (.str l)).isOk = (c.value? l).isSome := by
  rw [call]
  cases c.value? l <;> rfl

theorem isOk_call_int (c : Codec) (n : Int) :
    (c.call (.int n)).isOk = (c.label? (.int n)).isSome := by
  rw [call]
  cases c.label? (.int n) <;> rfl

-- ---------------------------------------------------------------------------
-- Labels as attributes
-- ---------------------------------------------------------------------------

theorem isReserved_of_own : ∀ a ∈ ownAttributes, isReserved a = true := by
  decide

theorem not_mem_labels (hlabels : ∀ m ∈ members, isReserved m.1 = false)
    (ha : a ∈ ownAttributes) : a ∉ members.map Prod.fst := by
  intro hin
  obtain ⟨m, hm, rfl⟩ := List.mem_map.mp hin
  exact absurd (isReserved_of_own _ ha) (by simp [hlabels m hm])

theorem keys_assignments : (assignments ⟨name, entriesOf members⟩).map Prod.fst =
    storage ++ members.map Prod.fst ++ [completion] := by
  simp [assignments, entriesOf, Function.comp_def]

/-- No attribute is set twice: what is set for the accessor itself cannot be a label. -/
theorem nodup_keys_assignments (h : Enumerates members)
    (hlabels : ∀ m ∈ members, isReserved m.1 = false) :
    ((assignments ⟨name, entriesOf members⟩).map Prod.fst).Nodup := by
  rw [keys_assignments, List.append_assoc, List.nodup_append, List.nodup_append]
  refine ⟨by decide, ⟨h.labels, by simp, ?_⟩, ?_⟩
  · rintro l hl a ha rfl
    exact not_mem_labels hlabels (by simp [ownAttributes, List.mem_singleton.mp ha]) hl
  · rintro a ha b hb rfl
    rcases List.mem_append.mp hb with hb | hb
    · exact not_mem_labels hlabels (by simp [ownAttributes, ha]) hb
    · obtain rfl := List.mem_singleton.mp hb
      exact absurd ha (by decide)

theorem lookup_assignments (h : Enumerates members)
    (hlabels : ∀ m ∈ members, isReserved m.1 = false) :
    (assignments ⟨name, entriesOf members⟩).reverse.lookup a = some b ↔
      (a, b) ∈ assignments ⟨name, entriesOf members⟩ := by
  have hkeys : ((assignments ⟨name, entriesOf members⟩).reverse.map Prod.fst).Nodup := by
    rw [List.map_reverse]
    exact List.nodup_reverse.mpr (nodup_keys_assignments h hlabels)
  rw [Tree.lookup_eq_some_iff hkeys, List.mem_reverse]

theorem attribute?_label (h : Enumerates members)
    (hlabels : ∀ m ∈ members, isReserved m.1 = false) (hm : (l, n) ∈ members) :
    attribute? ⟨name, entriesOf members⟩ l = some (.value (.int n)) := by
  have hset : (assignments ⟨name, entriesOf members⟩).reverse.lookup l = some (.value (.int n)) :=
    (lookup_assignments h hlabels).mpr (by simp [assignments, entriesOf, hm])
  have hnot : l ∉ fixed := fun hl =>
    not_mem_labels hlabels (by simp [ownAttributes, hl]) (List.mem_map_of_mem hm)
  rw [attribute?, if_neg hnot, hset, Option.some_or]

theorem assigned_own (hlabels : ∀ m ∈ members, isReserved m.1 = false) (ha : a ∈ ownAttributes)
    (h : (a, b) ∈ assignments ⟨name, entriesOf members⟩) : b = .own := by
  have hnot := not_mem_labels hlabels ha
  simp only [assignments, entriesOf, List.mem_append, List.mem_map, List.mem_singleton] at h
  obtain (⟨_, -, heq⟩ | ⟨_, ⟨m, hm, rfl⟩, heq⟩) | heq := h
  · exact (Prod.mk.inj heq).2.symm
  · cases heq
    exact absurd (List.mem_map_of_mem hm) hnot
  · exact (Prod.mk.inj heq).2

theorem attribute?_own (hlabels : ∀ m ∈ members, isReserved m.1 = false)
    (ha : a ∈ ownAttributes) : attribute? ⟨name, entriesOf members⟩ a = some .own := by
  unfold attribute?
  split
  · rfl
  · rename_i hfixed
    cases hset : (assignments ⟨name, entriesOf members⟩).reverse.lookup a with
    | none =>
      have hunset : a ∉ storage ++ members.map Prod.fst ++ [completion] := by
        rwa [Tree.lookup_eq_none_iff, List.map_reverse, List.mem_reverse, keys_assignments] at hset
      have hshared : a ∈ shared := by
        simp only [List.mem_append, not_or] at hunset
        simpa [ownAttributes, hfixed, hunset.1.1, List.mem_singleton.not.mp hunset.2] using ha
      rw [Option.none_or, if_pos hshared]
    | some b =>
      have hb := List.mem_reverse.mp (Tree.mem_of_lookup hset)
      rw [Option.some_or, assigned_own hlabels ha hb]

theorem carries (h : Enumerates members) (hlabels : ∀ m ∈ members, isReserved m.1 = false) :
    Carries ⟨name, entriesOf members⟩ members where
  label l v := by rw [call_str, value?_iff h]
  integer n v := by
    rw [call_int]
    simp only [label?_iff h]
  containsLabel l := by rw [contains_str, isOk_call_str]
  containsInteger n := by rw [contains_int, isOk_call_int]
  attributes l n hm := attribute?_label h hlabels hm
  own a ha := attribute?_own hlabels ha
  labels := by simp [labels, entriesOf, Function.comp_def]
  items := rfl

end Codec

-- ---------------------------------------------------------------------------
-- Members as they are registered
-- ---------------------------------------------------------------------------

def numbered (labels : List String) : List (String × Int) :=
  labels.zipIdx.map fun l => (l.1, (l.2 : Int))

/-- A registration of an enumeration, its name, and the members that it asks for. -/
inductive Registration.AsksFor : Registration → Value → List (String × Int) → Prop
  | mapping (h : (members.map Prod.fst).Nodup) :
    AsksFor (.enum name (.map (Codec.valuesOf members))) name members
  /-- Labels in a list, or in whatever else has members, other than the keys of a mapping. -/
  | list (h : values.members? = some (labels.map .str)) (hmap : ∀ es, values ≠ .map es) :
    AsksFor (.enum name values) name (numbered labels)
  | definition (h : (members.map Prod.fst).Nodup) :
    AsksFor (.definition name (.enum members)) name members
  | type (hkind : Value.get? r "kind" = some (.str "enum"))
    (hvalues : Value.get? r "members" = some values)
    (h : AsksFor (.enum name values) name members) :
    AsksFor (.type name (.map r)) name members

namespace Service

variable {s t : Service} {labels : List String} {members : List (String × Int)}

theorem lookup?_valuesOf {taken : List (String × Int)}
    (h : ¬(Value.lookup? (Codec.valuesOf taken) (.str label)).isSome = true) :
    label ∉ taken.map Prod.fst := by
  intro hin
  obtain ⟨m, hm, rfl⟩ := List.mem_map.mp hin
  refine h ?_
  rw [Value.lookup?, Option.isSome_map, List.find?_isSome]
  exact ⟨_, List.mem_map_of_mem hm, by simp [Value.same_str]⟩

theorem numberLabels_ok {taken : List (String × Int)} (htaken : (taken.map Prod.fst).Nodup)
    (h : numberLabels enum (Codec.valuesOf taken) next (labels.map .str) = .ok entries) :
    ∃ members, members = taken ++ (labels.zipIdx next).map (fun l => (l.1, (l.2 : Int))) ∧
      entries = Codec.valuesOf members ∧ (members.map Prod.fst).Nodup := by
  induction labels generalizing taken next with
  | nil =>
    cases h
    exact ⟨taken, by simp, rfl, htaken⟩
  | cons label labels ih =>
    rw [List.map_cons] at h
    unfold numberLabels at h
    split at h
    · cases h
    split at h
    · cases h
    rename_i hfree
    have hnext : Codec.valuesOf taken ++ [(.str label, .int next)] =
        Codec.valuesOf (taken ++ [(label, (next : Int))]) := by
      simp [Codec.valuesOf]
    have hkeys : ((taken ++ [(label, (next : Int))]).map Prod.fst).Nodup := by
      rw [List.map_append, List.map_singleton, ← List.concat_eq_append]
      exact htaken.concat (lookup?_valuesOf hfree)
    rw [hnext] at h
    obtain ⟨members, hmembers, hentries, hnodup⟩ := ih hkeys h
    exact ⟨members, by simp [hmembers], hentries, hnodup⟩

theorem readEntries_valuesOf (members : List (String × Int)) :
    Value.readEntries Value.readInteger (Codec.valuesOf members) = .ok members := by
  induction members with
  | nil => rfl
  | cons m members ih =>
    rw [Codec.valuesOf] at ih ⊢
    rw [List.map_cons, Value.readEntries, ih]
    rfl

theorem foldl_putEntry_of_nodup {es entries : List (String × α)}
    (h : ((entries ++ es).map Prod.fst).Nodup) :
    es.foldl Value.putEntry entries = entries ++ es := by
  induction es generalizing entries with
  | nil => simp
  | cons e es ih =>
    have hnew : e.1 ∉ entries.map Prod.fst := by
      rw [List.map_append, List.nodup_append] at h
      exact fun he => h.2.2 e.1 he e.1 (by simp) rfl
    rw [List.foldl_cons, Value.putEntry, if_neg hnew, ih, List.append_assoc, List.singleton_append]
    rwa [List.append_assoc, List.singleton_append]

theorem registerEntries_valuesOf (hkeys : (members.map Prod.fst).Nodup)
    (h : s.registerEntries name (Codec.valuesOf members) = .ok (t, d)) :
    t.enums = s.enums ++ [(name, members)] := by
  simp only [registerEntries, bind_ok, pure_ok, Prod.mk.injEq] at h
  obtain ⟨_, -, d', hread, rfl, rfl⟩ := h
  obtain ⟨es, hes, rfl⟩ := readEnum_ok (mapError_ok.mp hread)
  rw [readEntries_valuesOf] at hes
  cases hes
  rw [enums_addType, foldl_putEntry_of_nodup hkeys]
  rfl

theorem registerEnum_of_list (hvalues : values.members? = some (labels.map .str))
    (hmap : ∀ es, values ≠ .map es) (h : s.registerEnum name values = .ok (t, d)) :
    t.enums = s.enums ++ [(name, numbered labels)] := by
  simp only [registerEnum, bind_ok] at h
  obtain ⟨_, -, entries, hentries, h⟩ := h
  have hnumber : numberLabels name (Codec.valuesOf []) 0 (labels.map .str) = .ok entries := by
    unfold enumEntries at hentries
    split at hentries
    · rename_i es
      exact absurd rfl (hmap es)
    · cases hentries
    · rw [hvalues] at hentries
      exact hentries
  have hnone : (([] : List (String × Int)).map Prod.fst).Nodup := List.nodup_nil
  obtain ⟨members, hmembers, rfl, hkeys⟩ := numberLabels_ok hnone hnumber
  have hnumbered : members = numbered labels := by
    rw [hmembers, List.nil_append, numbered]
  rw [registerEntries_valuesOf hkeys h, hnumbered]

theorem enums_of_register (hr : r.AsksFor name members)
    (h : s.register r = .ok t) : t.enums = s.enums ++ [(name, members)] := by
  induction hr with
  | mapping hkeys =>
    obtain ⟨⟨_, d⟩, hd, rfl⟩ := map_ok.mp h
    simp only [registerEnum, bind_ok] at hd
    obtain ⟨_, -, entries, hentries, hd⟩ := hd
    cases hentries
    exact registerEntries_valuesOf hkeys hd
  | list hvalues hmap =>
    obtain ⟨⟨_, d⟩, hd, rfl⟩ := map_ok.mp h
    exact registerEnum_of_list hvalues hmap hd
  | definition hkeys =>
    obtain ⟨⟨_, d⟩, hd, rfl⟩ := map_ok.mp h
    simp only [registerDefinition, bind_ok] at hd
    obtain ⟨_, -, hd⟩ := hd
    exact registerEntries_valuesOf hkeys hd
  | type hkind hvalues _ ih =>
    refine ih ?_
    obtain ⟨⟨_, d⟩, hd, rfl⟩ := map_ok.mp h
    simp only [registerType, bind_ok] at hd
    obtain ⟨_, -, hd⟩ := hd
    simp only [hkind, hvalues, Option.getD_some, Value.same_str, beq_self_eq_true, if_true] at hd
    rw [register, hd]
    rfl

theorem enums_prefix_after (s : Service) (r : Registration) : s.enums <+: (s.after r).enums := by
  unfold Service.after
  split
  · rename_i t ht
    rcases register_cases ht with ⟨name, d, -, rfl⟩ | ⟨m, -, rfl⟩ | ⟨e, -, rfl⟩
    · rw [enums_addType]
      exact List.prefix_append _ _
    · exact List.prefix_rfl
    · exact List.prefix_rfl
  · exact List.prefix_rfl

/-- Every enumeration of a service whose labels are usable in a proxy has a codec, and it leads to
and fro between the members that the enumeration was registered with. -/
theorem enumerations_have_codecs (h : s.Reachable) :
    (∀ e ∈ s.enums, Python.checkLabels e.1.plain (e.2.map Prod.fst) = .ok () →
      ∃ c, Codec.ofMembers e.1.plain e.2 = .ok c ∧ c.Carries e.2) ∧
    (∀ r name members t, r.AsksFor name members → s.register r = .ok t →
      t.enums = s.enums ++ [(name, members)]) ∧
    ∀ r, s.enums <+: (s.after r).enums := by
  refine ⟨fun e he hcheck => ?_, fun r name members t => enums_of_register, enums_prefix_after s⟩
  have henumerates := h.typesOk.enumerates e he
  have hlabels : ∀ m ∈ e.2, Codec.isReserved m.1 = false := fun m hm =>
    Python.checkLabels_ok.mp hcheck m.1 (List.mem_map_of_mem hm)
  exact ⟨_, Codec.ofMembers_ok henumerates hlabels _, Codec.carries henumerates hlabels⟩

/-- Labels without integers are numbered in their order, and the codec leads from there. -/
theorem mode_has_codec :
    let s := (Service.empty (.str "1.0") (.str "Jobs")).after
      (.enum (.str "Mode") (.list [.str "OFF", .str "ON"]))
    s.Reachable ∧ s.enums = [(.str "Mode", [("OFF", 0), ("ON", 1)])] ∧
      ∃ c, Codec.ofMembers "Mode" [("OFF", 0), ("ON", 1)] = .ok c ∧
        c.Carries [("OFF", 0), ("ON", 1)] := by
  intro s
  have hempty : Reachable (Service.empty (.str "1.0") (.str "Jobs")) := .empty _ _
  have hs : s.Reachable := hempty.after _
  have hasks : Registration.AsksFor (.enum (.str "Mode") (.list [.str "OFF", .str "ON"]))
      (.str "Mode") (numbered ["OFF", "ON"]) :=
    .list rfl fun _ h => nomatch h
  obtain ⟨t, ht⟩ : ∃ t, (Service.empty (.str "1.0") (.str "Jobs")).register
      (.enum (.str "Mode") (.list [.str "OFF", .str "ON"])) = .ok t :=
    isOk_eq_true.mp (by decide +kernel)
  have hst : s = t := by
    simp only [s, Service.after, ht]
  have henums : s.enums = [(.str "Mode", [("OFF", 0), ("ON", 1)])] :=
    hst ▸ (enumerations_have_codecs hempty).2.1 _ _ _ t hasks ht
  have hcheck : Python.checkLabels "Mode" ["OFF", "ON"] = .ok () :=
    Python.checkLabels_ok.mpr (by decide)
  refine ⟨hs, henums, (enumerations_have_codecs hs).1 (.str "Mode", _) ?_ hcheck⟩
  rw [henums]
  exact List.mem_singleton.mpr rfl

end Service

end Farcall
