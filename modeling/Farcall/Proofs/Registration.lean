import Farcall.Proofs.Enumerations
import Farcall.Proofs.Names
import Farcall.Proofs.Success
import Farcall.Service.Scope
import Mathlib.Data.List.Pairwise

/-!
# Services grown by registrations

A service comes about by registrations, of which any may be refused. What can be reached that way
keeps methods and namespaces apart: a proxy could not hold both under one name.
-/

namespace Farcall

-- ---------------------------------------------------------------------------
-- Registrations
-- ---------------------------------------------------------------------------

/-- A registration as it is asked for. Methods and events may be asked for in a scope within
scopes. -/
inductive Registration where
  | type (name definition : Value)
  /-- A type that is already read. -/
  | definition (name : Value) (d : TypeDef)
  | enum (name values : Value)
  | method (scopes : List Value) (r : Record)
  /-- A method that is already read. -/
  | readMethod (scopes : List Value) (m : Method)
  | event (scopes : List Value) (name type description : Value)

def Scope.innermost : List Value → Except Failure (Option Scope)
  | [] => .ok none
  | name :: rest => do
    let s ← Scope.ofValue name
    return some (← s.chain rest)

namespace Service

def register (s : Service) : Registration → Except Failure Service
  | .type name definition => Prod.fst <$> s.registerType name definition
  | .definition name d => Prod.fst <$> s.registerDefinition name d
  | .enum name values => Prod.fst <$> s.registerEnum name values
  | .method scopes r => do
    match ← Scope.innermost scopes with
    | none => Prod.fst <$> s.registerMethodRecord r
    | some scope => Prod.fst <$> scope.registerMethodRecord s r
  | .readMethod scopes m => do
    match ← Scope.innermost scopes with
    | none => s.registerMethod m
    | some scope => Prod.fst <$> scope.registerMethod s m
  | .event scopes name type description => do
    match ← Scope.innermost scopes with
    | none => Prod.fst <$> s.registerEvent name type description
    | some scope => Prod.fst <$> scope.registerEvent s name type description

/-- The service after a registration was asked for; a refused one leaves it as it was. -/
def after (s : Service) (r : Registration) : Service :=
  match s.register r with
  | .ok t => t
  | .error _ => s

/-- The services that registrations lead to. -/
inductive Reachable : Service → Prop
  | empty (version friendlyName : Value) : Reachable (.empty version friendlyName)
  | after (h : Reachable s) (r : Registration) : Reachable (s.after r)

end Service

-- ---------------------------------------------------------------------------
-- What a registration changes
-- ---------------------------------------------------------------------------

namespace Service

variable {s t : Service}

structure AdmitsType (s : Service) (name : Value) (d : TypeDef) : Prop where
  fresh : s.hasType name = false
  enumerates : ∀ members, d = .enum members → Enumerates members
  fields : ∀ fields, d = .struct fields → ∀ f ∈ fields,
    (Value.str f.2.type.name).same name = true ∨ s.hasType (.str f.2.type.name) = true

theorem checkTypeName_ok (h : s.checkTypeName name = .ok u) : s.hasType name = false := by
  unfold checkTypeName at h
  split at h
  · cases h
  · split at h
    · cases h
    · simp_all

theorem registerEntries_ok (hname : s.hasType name = false)
    (h : s.registerEntries name entries = .ok (t, d)) : s.AdmitsType name d ∧ t = s.addType name d := by
  simp only [registerEntries, bind_ok, pure_ok, Prod.mk.injEq] at h
  obtain ⟨_, hvalues, d', hread, rfl, rfl⟩ := h
  have hread : Value.readEnum (.map [(.str "members", .map entries)]) = .ok d' := by
    cases hr : Value.readEnum (.map [(.str "members", .map entries)]) <;>
      simp_all [Except.mapError]
  refine ⟨⟨hname, ?_, ?_⟩, rfl⟩
  · rintro members rfl
    exact enumerates_of_register hvalues hread
  · rintro fields rfl
    obtain ⟨_, -, hd⟩ := readEnum_ok hread
    cases hd

theorem registerEnum_ok (h : s.registerEnum name values = .ok (t, d)) :
    s.AdmitsType name d ∧ t = s.addType name d := by
  simp only [registerEnum, bind_ok] at h
  obtain ⟨_, hname, _, _, h⟩ := h
  exact registerEntries_ok (checkTypeName_ok hname) h

theorem resolve_ok : s.resolve ref by' = .ok u ↔ s.hasType (.str ref.name) = true := by
  unfold resolve
  split <;> simp_all

theorem checkFields_ok : s.checkFields name fields = .ok u ↔ ∀ f ∈ fields,
    (Value.str f.2.type.name).same name = true ∨ s.hasType (.str f.2.type.name) = true := by
  induction fields with
  | nil => simp [checkFields]
  | cons f fields ih =>
    rw [List.forall_mem_cons, ← ih]
    by_cases hself : (Value.str f.2.type.name).same name = true
    · simp [checkFields, hself]
    · simp [checkFields, hself, bind_ok, resolve_ok]

theorem registerDefinition_ok (h : s.registerDefinition name d = .ok (t, d')) :
    s.AdmitsType name d' ∧ t = s.addType name d' := by
  simp only [registerDefinition, bind_ok] at h
  obtain ⟨_, hname, h⟩ := h
  cases d with
  | enum members => exact registerEntries_ok (checkTypeName_ok hname) h
  | struct fields =>
    simp only [bind_ok, pure_ok, Prod.mk.injEq] at h
    obtain ⟨_, hfields, rfl, rfl⟩ := h
    refine ⟨⟨checkTypeName_ok hname, ?_, ?_⟩, rfl⟩
    · intro members hd
      cases hd
    · rintro _ ⟨⟩
      exact checkFields_ok.mp hfields

theorem registerType_ok (h : s.registerType name definition = .ok (t, d)) :
    s.AdmitsType name d ∧ t = s.addType name d := by
  simp only [registerType, bind_ok] at h
  obtain ⟨_, _, h⟩ := h
  split at h
  · split at h
    · split at h
      · exact registerEnum_ok h
      · cases h
    · simp only [bind_ok] at h
      obtain ⟨_, _, h⟩ := h
      exact registerDefinition_ok h
  · cases h

theorem checkAncestors_ok :
    s.checkAncestors name = .ok u ↔ ∀ a ∈ Name.ancestors name, a ∉ s.methodNames := by
  unfold checkAncestors
  split
  · rename_i a ha
    have hmem := List.mem_of_find?_eq_some ha
    have hfound := List.find?_some ha
    simp only [reduceCtorEq, false_iff]
    exact fun h => h a hmem (by simpa using hfound)
  · rename_i hnone
    simpa using hnone

theorem checkParams_ok :
    s.checkParams name params = .ok u ↔ ∀ p ∈ params, s.hasType (.str p.type.name) = true := by
  induction params with
  | nil => simp [checkParams]
  | cons p params ih => simp [checkParams, bind_ok, resolve_ok, ih]

structure AdmitsMethod (s : Service) (m : Method) : Prop where
  fresh : m.name ∉ s.methodNames
  notNamespace : m.name ∉ s.impliedNamespaces
  ancestors : ∀ a ∈ Name.ancestors m.name, a ∉ s.methodNames
  params : ∀ p ∈ m.params, s.hasType (.str p.type.name) = true
  returns : ∀ r, m.returns = some r → m.isAsync = true ∨ s.hasType (.str r.name) = true

structure AdmitsEvent (s : Service) (e : Event) : Prop where
  ancestors : ∀ a ∈ Name.ancestors e.name, a ∉ s.methodNames
  type : ∀ r, e.type = some r → s.hasType (.str r.name) = true

theorem checkReturn_ok : s.checkReturn m = .ok u ↔
    ∀ r, m.returns = some r → m.isAsync = true ∨ s.hasType (.str r.name) = true := by
  unfold checkReturn
  split
  · split <;> simp_all [resolve_ok]
  · simp_all

theorem registerMethod_ok :
    s.registerMethod m = .ok t ↔ s.AdmitsMethod m ∧ t = { s with methods := s.methods ++ [m] } := by
  by_cases hm : m.name ∈ s.methodNames
  · simp only [registerMethod, if_pos hm, bind_ok, throw_ok, false_and, exists_false, false_iff]
    exact fun h => h.1.fresh hm
  by_cases hn : m.name ∈ s.impliedNamespaces
  · simp only [registerMethod, if_neg hm, if_pos hn, bind_ok, throw_ok, false_and, exists_false,
      false_iff]
    exact fun h => h.1.notNamespace hn
  simp only [registerMethod, if_neg hm, if_neg hn, bind_ok, checkAncestors_ok, checkParams_ok,
    checkReturn_ok, pure_ok]
  constructor
  · rintro ⟨_, ha, _, hp, _, hr, rfl⟩
    exact ⟨⟨hm, hn, ha, hp, hr⟩, rfl⟩
  · rintro ⟨h, rfl⟩
    exact ⟨(), h.ancestors, (), h.params, (), h.returns, rfl⟩

theorem registerReadEvent_ok :
    s.registerReadEvent e = .ok t ↔ s.AdmitsEvent e ∧ t = { s with events := s.events ++ [e] } := by
  simp only [registerReadEvent, bind_ok, checkAncestors_ok]
  split
  · rename_i r hr
    simp only [bind_ok, resolve_ok, pure_ok]
    constructor
    · rintro ⟨_, ha, _, ht, rfl⟩
      exact ⟨⟨ha, fun r' hr' => by simp_all⟩, rfl⟩
    · rintro ⟨h, rfl⟩
      exact ⟨(), h.ancestors, (), h.type r hr, rfl⟩
  · rename_i hr
    constructor
    · rintro ⟨_, ha, h⟩
      cases h
      exact ⟨⟨ha, fun r' hr' => by simp_all⟩, rfl⟩
    · rintro ⟨h, rfl⟩
      exact ⟨(), h.ancestors, rfl⟩

theorem registerMethodRecord_ok (h : s.registerMethodRecord r = .ok (t, m)) :
    s.AdmitsMethod m ∧ t = { s with methods := s.methods ++ [m] } := by
  simp only [registerMethodRecord, bind_ok, pure_ok, Prod.mk.injEq] at h
  obtain ⟨_, _, _, h, rfl, rfl⟩ := h
  exact registerMethod_ok.mp h

theorem name_readEvent (h : Value.readEvent (.str n) type description = .ok e) : e.name = n := by
  unfold Value.readEvent at h
  simp only [Value.readText] at h
  cases htype : type.readTypeRef?.within (.name "type_ref") <;>
    cases hdescription : description.readText?.within (.name "description") <;>
      rw [htype, hdescription] at h <;> cases h
  rfl

/-- What a method is read from: its name, its parameters and what it returns. -/
theorem readMethod_ok (h : Value.readMethod (.map r) = .ok m) :
    (∃ v, Value.get? r "name" = some v ∧ v.readText = .ok m.name) ∧
      (∃ vs, Value.paramMembers? ((Value.get? r "params").getD .null) = some vs ∧
        Value.readParams 0 vs = .ok m.params) ∧
      Record.optional r "returns" none Value.readTypeRef? = .ok m.returns := by
  obtain ⟨_, hr, h⟩ := bind_ok.mp h
  cases hr
  split at h
  · rename_i vs hvs
    obtain ⟨_, hparts, rfl⟩ := Reading.map_eq_ok.mp (mapError_ok.mp h)
    obtain ⟨hfirst, hsecond⟩ := Reading.both_ok.mp (Reading.also_ok hparts)
    obtain ⟨hname, hparams⟩ := Reading.both_ok.mp hfirst
    exact ⟨Record.required_ok hname, ⟨vs, hvs, Reading.within_ok.mp hparams⟩,
      (Reading.both_ok.mp hsecond).1⟩
  · cases h

theorem checkEventName_ok : s.checkEventName (.str n) = .ok u ↔ n ∉ s.eventNames := by
  have hany : s.eventNames.any (fun m => (Value.str m).same (.str n)) = true ↔ n ∈ s.eventNames := by
    simp [Value.same_str]
  unfold checkEventName
  by_cases hn : n ∈ s.eventNames <;> simp [Value.hashable, hany, hn]

theorem registerEvent_ok (h : s.registerEvent name type description = .ok (t, e)) :
    s.AdmitsEvent e ∧ t = { s with events := s.events ++ [e] } := by
  simp only [registerEvent, bind_ok] at h
  obtain ⟨_, _, _, _, h⟩ := h
  split at h
  · simp only [bind_ok, pure_ok, Prod.mk.injEq] at h
    obtain ⟨_, h, rfl, rfl⟩ := h
    exact registerReadEvent_ok.mp h
  · cases h

/-- All that a registration can do: it appends one admissible type, method or event. -/
theorem register_cases (h : s.register r = .ok t) :
    (∃ name d, s.AdmitsType name d ∧ t = s.addType name d) ∨
    (∃ m, s.AdmitsMethod m ∧ t = { s with methods := s.methods ++ [m] }) ∨
    (∃ e, s.AdmitsEvent e ∧ t = { s with events := s.events ++ [e] }) := by
  cases r with
  | type name definition =>
    obtain ⟨⟨_, d⟩, hd, rfl⟩ := map_ok.mp h
    exact .inl ⟨name, d, registerType_ok hd⟩
  | definition name d =>
    obtain ⟨⟨_, d'⟩, hd, rfl⟩ := map_ok.mp h
    exact .inl ⟨name, d', registerDefinition_ok hd⟩
  | enum name values =>
    obtain ⟨⟨_, d⟩, hd, rfl⟩ := map_ok.mp h
    exact .inl ⟨name, d, registerEnum_ok hd⟩
  | method scopes r =>
    simp only [register, bind_ok] at h
    obtain ⟨scope, -, h⟩ := h
    cases scope with
    | none =>
      obtain ⟨⟨_, m⟩, hm, rfl⟩ := map_ok.mp h
      exact .inr (.inl ⟨m, registerMethodRecord_ok hm⟩)
    | some scope =>
      obtain ⟨⟨_, m⟩, hm, rfl⟩ := map_ok.mp h
      obtain ⟨_, -, hm⟩ := bind_ok.mp hm
      exact .inr (.inl ⟨m, registerMethodRecord_ok hm⟩)
  | readMethod scopes m =>
    simp only [register, bind_ok] at h
    obtain ⟨scope, -, h⟩ := h
    cases scope with
    | none => exact .inr (.inl ⟨m, registerMethod_ok.mp h⟩)
    | some scope =>
      obtain ⟨⟨_, m'⟩, hm, rfl⟩ := map_ok.mp h
      simp only [Scope.registerMethod, bind_ok, pure_ok, Prod.mk.injEq] at hm
      obtain ⟨_, hm, rfl, rfl⟩ := hm
      exact .inr (.inl ⟨_, registerMethod_ok.mp hm⟩)
  | event scopes name type description =>
    simp only [register, bind_ok] at h
    obtain ⟨scope, -, h⟩ := h
    cases scope with
    | none =>
      obtain ⟨⟨_, e⟩, he, rfl⟩ := map_ok.mp h
      exact .inr (.inr ⟨e, registerEvent_ok he⟩)
    | some scope =>
      obtain ⟨⟨_, e⟩, he, rfl⟩ := map_ok.mp h
      exact .inr (.inr ⟨e, registerEvent_ok he⟩)

-- ---------------------------------------------------------------------------
-- Methods and namespaces
-- ---------------------------------------------------------------------------

/-- No method has the name of a namespace. -/
def NoClash (s : Service) : Prop :=
  ∀ m ∈ s.methodNames, ∀ n ∈ s.memberNames, m ∉ Name.ancestors n

theorem noClash_empty (version friendlyName : Value) : (empty version friendlyName).NoClash := by
  intro m hm
  simp [empty, methodNames] at hm

theorem NoClash.method (hs : s.NoClash) (hm : s.AdmitsMethod m) :
    NoClash { s with methods := s.methods ++ [m] } := by
  intro x hx n hn
  simp only [methodNames, memberNames, eventNames, List.map_append, List.mem_append, List.map_cons,
    List.map_nil, List.mem_singleton] at hx hn
  rcases hx with hx | rfl
  · rcases hn with (hn | rfl) | hn
    · exact hs x hx n (List.mem_append_left _ hn)
    · exact fun h => hm.ancestors x h hx
    · exact hs x hx n (List.mem_append_right _ hn)
  · have hold : ∀ n ∈ s.memberNames, m.name ∉ Name.ancestors n := fun n hn h =>
      hm.notNamespace (List.mem_flatMap.mpr ⟨n, hn, h⟩)
    rcases hn with (hn | rfl) | hn
    · exact hold n (List.mem_append_left _ hn)
    · exact Name.not_mem_ancestors_self _
    · exact hold n (List.mem_append_right _ hn)

theorem NoClash.event (hs : s.NoClash) (he : s.AdmitsEvent e) :
    NoClash { s with events := s.events ++ [e] } := by
  intro x hx n hn
  simp only [memberNames, eventNames, List.map_append, List.mem_append, List.map_cons,
    List.map_nil, List.mem_singleton] at hn
  rcases hn with hn | hn | rfl
  · exact hs x hx n (List.mem_append_left _ hn)
  · exact hs x hx n (List.mem_append_right _ hn)
  · exact fun h => he.ancestors x h hx

theorem NoClash.after (hs : s.NoClash) (r : Registration) : (s.after r).NoClash := by
  unfold Service.after
  split
  · rename_i t ht
    rcases register_cases ht with ⟨_, _, -, rfl⟩ | ⟨m, hm, rfl⟩ | ⟨e, he, rfl⟩
    · exact hs
    · exact hs.method hm
    · exact hs.event he
  · exact hs

theorem Reachable.noClash (h : Reachable s) : s.NoClash := by
  induction h with
  | empty version friendlyName => exact noClash_empty version friendlyName
  | after _ r ih => exact ih.after r

theorem Reachable.nodup_methodNames (h : Reachable s) : s.methodNames.Nodup := by
  induction h with
  | empty => exact .nil
  | @after s _ r ih =>
    unfold Service.after
    split
    · rename_i t ht
      rcases register_cases ht with ⟨_, _, -, rfl⟩ | ⟨m, hm, rfl⟩ | ⟨e, he, rfl⟩
      · exact ih
      · have hfresh : ∀ x ∈ s.methodNames, x ≠ m.name := fun x hx h => hm.fresh (h ▸ hx)
        simpa [methodNames, List.nodup_append] using ⟨ih, by simpa [methodNames] using hfresh⟩
      · exact ih
    · exact ih

-- ---------------------------------------------------------------------------
-- Types
-- ---------------------------------------------------------------------------

/-- The types stand under different names, and the enumerations among them enumerate. -/
structure TypesOk (s : Service) : Prop where
  distinct : s.types.Pairwise fun t u => t.1.same u.1 = false
  enumerates : ∀ e ∈ s.enums, Enumerates e.2

theorem enums_addType (s : Service) (name : Value) (d : TypeDef) :
    (s.addType name d).enums = s.enums ++ (match d with
      | .enum members => [(name, members)]
      | .struct _ => []) := by
  cases d <;> simp [enums, addType]

theorem TypesOk.type (hs : s.TypesOk) (hd : s.AdmitsType name d) : (s.addType name d).TypesOk where
  distinct := by
    refine List.pairwise_append.mpr ⟨hs.distinct, List.pairwise_singleton _ _, ?_⟩
    intro t ht u hu
    obtain rfl := List.mem_singleton.mp hu
    have hfree := (Bool.or_eq_false_iff.mp hd.fresh).1
    simpa using List.any_eq_false.mp hfree t ht
  enumerates e he := by
    rw [enums_addType] at he
    rcases List.mem_append.mp he with he | he
    · exact hs.enumerates e he
    · cases d with
      | enum members =>
        obtain rfl := List.mem_singleton.mp he
        exact hd.enumerates members rfl
      | struct fields => cases he

theorem TypesOk.after (hs : s.TypesOk) (r : Registration) : (s.after r).TypesOk := by
  unfold Service.after
  split
  · rename_i t ht
    rcases register_cases ht with ⟨name, d, hd, rfl⟩ | ⟨m, -, rfl⟩ | ⟨e, -, rfl⟩
    · exact hs.type hd
    · exact ⟨hs.distinct, hs.enumerates⟩
    · exact ⟨hs.distinct, hs.enumerates⟩
  · exact hs

theorem Reachable.typesOk (h : Reachable s) : s.TypesOk := by
  induction h with
  | empty version friendlyName => exact ⟨.nil, fun e he => by cases he⟩
  | after _ r ih => exact ih.after r

theorem TypesOk.members_unique (hs : s.TypesOk) (h : (Value.str name, members) ∈ s.enums)
    (h' : (Value.str name, members') ∈ s.enums) : members = members' := by
  obtain ⟨⟨v, d⟩, hd, hv⟩ := List.mem_filterMap.mp h
  obtain ⟨⟨v', d'⟩, hd', hv'⟩ := List.mem_filterMap.mp h'
  have hother : s.types.Pairwise fun t u => t.1 = .str name → u.1 ≠ .str name := by
    refine hs.distinct.imp fun {t u} hne ht hu => ?_
    rw [ht, hu, Value.same_str] at hne
    simp at hne
  cases d <;> cases hv
  cases d' <;> cases hv'
  by_contra hne
  have : Std.Symm fun t u : Value × TypeDef => t.1 = .str name → u.1 ≠ .str name :=
    ⟨fun t u htu hu ht => htu ht hu⟩
  exact hother.forall hd hd' (by simpa using hne) rfl rfl

/-- Whatever is registered, in whatever order, no method name is a namespace that a method or an
event lies in. -/
theorem method_not_namespace (h : Reachable s) (hm : m ∈ s.methodNames) (hn : n ∈ s.memberNames) :
    m ∉ Name.ancestors n :=
  h.noClash m hm n hn

/-- Of two events, the one inside the method is refused and the one beside it is not. -/
theorem jobs_list_not_namespace :
    let s := (((Service.empty (.str "1.0") (.str "Jobs")).after
      (.readMethod [.str "jobs"] ⟨"list", [], none, none⟩)).after
      (.event [] (.str "jobs.list.done") .null .null)).after
      (.event [.str "jobs"] (.str ".done") .null .null)
    s.Reachable ∧ s.memberNames = ["jobs.list", "jobs..done"] ∧
      "jobs.list" ∉ Name.ancestors "jobs..done" := by
  intro s
  have hs : s.Reachable := ((Reachable.empty _ _).after _ |>.after _).after _
  have hnames : s.memberNames = ["jobs.list", "jobs..done"] := by
    simp only [s]
    decide +kernel
  have hmethods : s.methodNames = ["jobs.list"] := by
    simp only [s]
    decide +kernel
  exact ⟨hs, hnames, method_not_namespace hs (by simp [hmethods]) (by simp [hnames])⟩

end Service

end Farcall
