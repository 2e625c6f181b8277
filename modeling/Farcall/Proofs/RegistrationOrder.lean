import Farcall.Proofs.Registration
import Mathlib.Data.List.Perm.Basic

/-!
# The order of registrations

What a registration of a method or an event asks for can be read off it without the service. Whether
some of them can be registered together is then a matter of each one and the service, and of each
two of them, so the order does not count.
-/

namespace Farcall

-- ---------------------------------------------------------------------------
-- Members
-- ---------------------------------------------------------------------------

/-- What a service offers to its callers. -/
inductive Member where
  | method (m : Method)
  | event (e : Event)

namespace Member

def method? : Member → Option Method
  | .method m => some m
  | .event _ => none

def event? : Member → Option Event
  | .method _ => none
  | .event e => some e

/-- Whether two members can be in one service: they have different names if they are of one kind, and
neither lies in a namespace that is a method. -/
def Compatible : Member → Member → Prop
  | .method m, .method n =>
    m.name ≠ n.name ∧ m.name ∉ Name.ancestors n.name ∧ n.name ∉ Name.ancestors m.name
  | .method m, .event e => m.name ∉ Name.ancestors e.name
  | .event e, .method m => m.name ∉ Name.ancestors e.name
  | .event e, .event f => e.name ≠ f.name

theorem Compatible.symm {x y : Member} (h : x.Compatible y) : y.Compatible x := by
  cases x <;> cases y
  · exact ⟨h.1.symm, h.2.2, h.2.1⟩
  · exact h
  · exact h
  · exact Ne.symm h

end Member

namespace Registration

def isMember : Registration → Bool
  | .method .. => true
  | .readMethod .. => true
  | .event .. => true
  | _ => false

def readRecord (r : Record) : Except Failure (Option Member) :=
  (fun m => some (.method m)) <$> Value.readMethod (.map r)

def readParts (name ref description : Value) : Except Failure (Option Member) :=
  match name with
  | .str _ => (fun e => some (.event e)) <$> Value.readEvent name ref description
  | _ => .error (.fault .wrongKind)

/-- The method or event that is asked for; none if it is a type. -/
def read : Registration → Except Failure (Option Member)
  | .method scopes r => do
    match ← Scope.innermost scopes with
    | none => readRecord r
    | some scope => scope.qualifyRecord r >>= readRecord
  | .readMethod scopes m => do
    match ← Scope.innermost scopes with
    | none => .ok (some (.method m))
    | some scope => .ok (some (.method { m with name := scope.qualify (.str m.name) }))
  | .event scopes name ref description => do
    match ← Scope.innermost scopes with
    | none => readParts name ref description
    | some scope => readParts (.str (scope.qualify name)) ref description
  | .type .. => .ok none
  | .definition .. => .ok none
  | .enum .. => .ok none

def member? (r : Registration) : Option Member := r.read.toOption.join

theorem member?_eq_some {r : Registration} : r.member? = some x ↔ r.read = .ok (some x) := by
  unfold member?
  cases r.read <;> simp [Except.toOption]

end Registration

namespace Service

variable {s t : Service}

def Admits (s : Service) : Member → Prop
  | .method m => s.AdmitsMethod m
  | .event e => e.name ∉ s.eventNames ∧ s.AdmitsEvent e

def add (s : Service) : Member → Service
  | .method m => { s with methods := s.methods ++ [m] }
  | .event e => { s with events := s.events ++ [e] }

def addAll (s : Service) (xs : List Member) : Service := xs.foldl add s

theorem addAll_eq (s : Service) (xs : List Member) : s.addAll xs =
    { s with
      methods := s.methods ++ xs.filterMap Member.method?
      events := s.events ++ xs.filterMap Member.event? } := by
  induction xs generalizing s with
  | nil => simp [addAll]
  | cons x xs ih =>
    rw [addAll, List.foldl_cons, ← addAll, ih]
    cases x <;> simp [add, Member.method?, Member.event?, List.filterMap_cons]

-- ---------------------------------------------------------------------------
-- One registration
-- ---------------------------------------------------------------------------

theorem exists_bind_ok {x : Except ε α} {f : α → Except ε β} {g : γ → β} {P : γ → Prop} :
    (∃ c, x >>= f = .ok (g c) ∧ P c) ↔ ∃ a, x = .ok a ∧ ∃ c, f a = .ok (g c) ∧ P c := by
  cases x <;> simp [bind, Except.bind]

theorem registerRecord_iff : Prod.fst <$> s.registerMethodRecord r = .ok t ↔
    ∃ x, Registration.readRecord r = .ok (some x) ∧ s.Admits x ∧ t = s.add x := by
  simp only [registerMethodRecord, Registration.readRecord, map_ok, bind_ok, pure_ok, registerMethod_ok]
  constructor
  · rintro ⟨_, ⟨m, hread, _, ⟨hm, rfl⟩, rfl⟩, rfl⟩
    exact ⟨.method m, ⟨m, hread, rfl⟩, hm, rfl⟩
  · rintro ⟨_, ⟨m, hread, hx⟩, hm, rfl⟩
    cases hx
    exact ⟨_, ⟨m, hread, _, ⟨hm, rfl⟩, rfl⟩, rfl⟩

theorem registerParts_iff : Prod.fst <$> s.registerEvent name type description = .ok t ↔
    ∃ x, Registration.readParts name type description = .ok (some x) ∧ s.Admits x ∧
      t = s.add x := by
  cases name with
  | str n =>
    simp only [registerEvent, Registration.readParts, map_ok, bind_ok, pure_ok, checkEventName_ok,
      registerReadEvent_ok]
    constructor
    · rintro ⟨_, ⟨_, hfree, e, hread, _, ⟨he, rfl⟩, rfl⟩, rfl⟩
      exact ⟨.event e, ⟨e, hread, rfl⟩, ⟨name_readEvent hread ▸ hfree, he⟩, rfl⟩
    · rintro ⟨_, ⟨e, hread, hx⟩, he, rfl⟩
      cases hx
      exact ⟨_, ⟨(), name_readEvent hread ▸ he.1, e, hread, _, ⟨he.2, rfl⟩, rfl⟩, rfl⟩
  | _ => simp [registerEvent, Registration.readParts, bind_ok]

theorem registerRead_iff :
    s.registerMethod m = .ok t ↔ s.Admits (.method m) ∧ t = s.add (.method m) :=
  registerMethod_ok

/-- A registration of a member succeeds exactly if the member can be read and the service admits it,
and then the member is added. -/
theorem register_member (hr : r.isMember = true) :
    s.register r = .ok t ↔ ∃ x, r.member? = some x ∧ s.Admits x ∧ t = s.add x := by
  simp only [Registration.member?_eq_some]
  cases r with
  | method scopes r =>
    rw [register, bind_ok, Registration.read, exists_bind_ok]
    refine exists_congr fun scope => and_congr_right fun _ => ?_
    cases scope with
    | none => exact registerRecord_iff
    | some scope =>
      refine Iff.trans ?_ exists_bind_ok.symm
      simp only [Scope.registerMethodRecord, map_bind, bind_ok, registerRecord_iff]
  | readMethod scopes m =>
    rw [register, bind_ok, Registration.read, exists_bind_ok]
    refine exists_congr fun scope => and_congr_right fun _ => ?_
    cases scope with
    | none => simp [registerRead_iff]
    | some scope => simp [Scope.registerMethod, registerRead_iff]
  | event scopes name type description =>
    rw [register, bind_ok, Registration.read, exists_bind_ok]
    refine exists_congr fun scope => and_congr_right fun _ => ?_
    cases scope with
    | none => exact registerParts_iff
    | some scope => exact registerParts_iff
  | _ => cases hr

-- ---------------------------------------------------------------------------
-- What members have to do with each other
-- ---------------------------------------------------------------------------

def Resolves (s : Service) : Member → Prop
  | .method m =>
    (∀ p ∈ m.params, s.hasType (.str p.type.name) = true) ∧
      ∀ r, m.returns = some r → m.isAsync = true ∨ s.hasType (.str r.name) = true
  | .event e => ∀ r, e.type = some r → s.hasType (.str r.name) = true

def members (s : Service) : List Member := s.methods.map .method ++ s.events.map .event

@[simp] theorem method_mem_members : .method m ∈ s.members ↔ m ∈ s.methods := by
  simp [members]

@[simp] theorem event_mem_members : .event e ∈ s.members ↔ e ∈ s.events := by
  simp [members]

/-- Every check that refuses a member is one of its types or one against a single other member. -/
theorem admits_iff {y : Member} :
    s.Admits y ↔ s.Resolves y ∧ ∀ x ∈ s.members, x.Compatible y := by
  cases y with
  | method m =>
    constructor
    · rintro ⟨hfresh, hscope, hancestors, hparams, hreturns⟩
      have hclear : ∀ n ∈ s.memberNames, m.name ∉ Name.ancestors n := fun n hn h =>
        hscope (List.mem_flatMap.mpr ⟨n, hn, h⟩)
      refine ⟨⟨hparams, hreturns⟩, fun x hx => ?_⟩
      cases x with
      | method n =>
        have hn : n.name ∈ s.methodNames := List.mem_map_of_mem (method_mem_members.mp hx)
        exact ⟨fun h => hfresh (h ▸ hn), fun h => hancestors _ h hn,
          hclear _ (List.mem_append_left _ hn)⟩
      | event e =>
        exact hclear _ (List.mem_append_right _ (List.mem_map_of_mem (event_mem_members.mp hx)))
    · rintro ⟨⟨hparams, hreturns⟩, hall⟩
      refine ⟨fun h => ?_, fun h => ?_, fun a ha h => ?_, hparams, hreturns⟩
      · obtain ⟨n, hn, hname⟩ := List.mem_map.mp h
        exact (hall _ (method_mem_members.mpr hn)).1 hname
      · obtain ⟨n, hn, hname⟩ := List.mem_flatMap.mp h
        rcases List.mem_append.mp hn with hn | hn <;> obtain ⟨x, hx, rfl⟩ := List.mem_map.mp hn
        · exact (hall _ (method_mem_members.mpr hx)).2.2 hname
        · exact hall _ (event_mem_members.mpr hx) hname
      · obtain ⟨n, hn, rfl⟩ := List.mem_map.mp h
        exact (hall _ (method_mem_members.mpr hn)).2.1 ha
  | event e =>
    constructor
    · rintro ⟨hfree, hancestors, htype⟩
      refine ⟨htype, fun x hx => ?_⟩
      cases x with
      | method n =>
        exact fun h => hancestors _ h (List.mem_map_of_mem (method_mem_members.mp hx))
      | event f => exact fun h => hfree (h ▸ List.mem_map_of_mem (event_mem_members.mp hx))
    · rintro ⟨htype, hall⟩
      refine ⟨fun h => ?_, fun a ha h => ?_, htype⟩
      · obtain ⟨f, hf, hname⟩ := List.mem_map.mp h
        exact hall _ (event_mem_members.mpr hf) hname
      · obtain ⟨n, hn, rfl⟩ := List.mem_map.mp h
        exact hall _ (method_mem_members.mpr hn) ha

theorem resolves_add {x y : Member} : (s.add x).Resolves y ↔ s.Resolves y := by
  cases x <;> exact Iff.rfl

theorem mem_members_add {x y : Member} : y ∈ (s.add x).members ↔ y ∈ s.members ∨ y = x := by
  cases x <;> cases y <;> simp [add]

/-- A member is still admitted after another one was added exactly if the two are compatible. -/
theorem admits_add {x y : Member} : (s.add x).Admits y ↔ s.Admits y ∧ x.Compatible y := by
  simp only [admits_iff, resolves_add, mem_members_add, or_imp, forall_and, forall_eq, and_assoc]

-- ---------------------------------------------------------------------------
-- Registrations in a row
-- ---------------------------------------------------------------------------

/-- The service after some registrations in a row, if none of them is refused. -/
def registerAll (s : Service) (rs : List Registration) : Except Failure Service :=
  rs.foldlM register s

/-- Methods and events can be registered in a row exactly if each can be read and is admitted, and
every two are compatible. -/
theorem registerAll_ok (hrs : ∀ r ∈ rs, r.isMember = true) : s.registerAll rs = .ok t ↔
    (∀ r ∈ rs, r.member?.isSome) ∧ (∀ x ∈ rs.filterMap Registration.member?, s.Admits x) ∧
      (rs.filterMap Registration.member?).Pairwise Member.Compatible ∧
      t = s.addAll (rs.filterMap Registration.member?) := by
  induction rs generalizing s with
  | nil => simpa [registerAll, addAll, pure_ok] using eq_comm
  | cons r rs ih =>
    obtain ⟨hr, hrs⟩ := List.forall_mem_cons.mp hrs
    have hstep : s.registerAll (r :: rs) = .ok t ↔
        ∃ x, r.member? = some x ∧ s.Admits x ∧ (s.add x).registerAll rs = .ok t := by
      rw [registerAll, List.foldlM_cons, bind_ok]
      simp only [register_member hr]
      constructor
      · rintro ⟨_, ⟨x, hx, ha, rfl⟩, h⟩
        exact ⟨x, hx, ha, h⟩
      · rintro ⟨x, hx, ha, h⟩
        exact ⟨_, ⟨x, hx, ha, rfl⟩, h⟩
    rw [hstep]
    cases hx : r.member? with
    | none => simp [hx]
    | some x =>
      simp only [Option.some.injEq, exists_eq_left', ih hrs, admits_add, List.filterMap_cons, hx,
        List.forall_mem_cons, List.pairwise_cons, Option.isSome_some, true_and, addAll,
        List.foldl_cons]
      constructor
      · rintro ⟨ha, hread, hall, hpairs, rfl⟩
        exact ⟨hread, ⟨ha, fun y hy => (hall y hy).1⟩, ⟨fun y hy => (hall y hy).2, hpairs⟩, rfl⟩
      · rintro ⟨hread, ⟨ha, hall⟩, ⟨hx, hpairs⟩, rfl⟩
        exact ⟨ha, hread, fun y hy => ⟨hall y hy, hx y hy⟩, hpairs, rfl⟩

/-- If some methods and events can be registered in one order, they can be in every other, and the
service has the same entries then. -/
theorem registerAll_of_perm (h : rs.Perm rs') (hrs : ∀ r ∈ rs, r.isMember = true)
    (ht : s.registerAll rs = .ok t) : ∃ t', s.registerAll rs' = .ok t' ∧ t'.types = t.types ∧
      t.methods.Perm t'.methods ∧ t.events.Perm t'.events := by
  obtain ⟨hread, hadmits, hpairs, rfl⟩ := (registerAll_ok hrs).mp ht
  have hmembers := h.filterMap Registration.member?
  have hrs' : ∀ r ∈ rs', r.isMember = true := fun r hr => hrs r (h.mem_iff.mpr hr)
  refine ⟨_, (registerAll_ok hrs').mpr ⟨fun r hr => hread r (h.mem_iff.mpr hr),
    fun x hx => hadmits x (hmembers.mem_iff.mpr hx),
    (hmembers.pairwise_iff fun h => h.symm).mp hpairs, rfl⟩, ?_⟩
  simp only [addAll_eq, true_and]
  exact ⟨(hmembers.filterMap _).append_left _, (hmembers.filterMap _).append_left _⟩

/-- The order of registrations of methods and events does not count: they all succeed in one order
exactly if they do in another, and then the service has the same methods and events. -/
theorem registration_order (s : Service) (h : rs.Perm rs') (hrs : ∀ r ∈ rs, r.isMember = true) :
    ((∃ t, s.registerAll rs = .ok t) ↔ ∃ t, s.registerAll rs' = .ok t) ∧
    ∀ t t', s.registerAll rs = .ok t → s.registerAll rs' = .ok t' →
      t.methods.Perm t'.methods ∧ t.events.Perm t'.events := by
  have hrs' : ∀ r ∈ rs', r.isMember = true := fun r hr => hrs r (h.mem_iff.mpr hr)
  refine ⟨⟨fun ⟨t, ht⟩ => ?_, fun ⟨t, ht⟩ => ?_⟩, fun t t' ht ht' => ?_⟩
  · obtain ⟨t', ht', -⟩ := registerAll_of_perm h hrs ht
    exact ⟨t', ht'⟩
  · obtain ⟨t', ht', -⟩ := registerAll_of_perm h.symm hrs' ht
    exact ⟨t', ht'⟩
  · obtain ⟨u, hu, -, hsame⟩ := registerAll_of_perm h hrs ht
    cases hu.symm.trans ht'
    exact hsame

theorem jobs_registered_in_any_order :
    let s := Service.empty (.str "1.0") (.str "Jobs")
    let list : Registration := .readMethod [.str "jobs"] ⟨"list", [], none, none⟩
    let done : Registration := .event [] (.str "jobs.done") .null .null
    (∃ t, s.registerAll [list, done] = .ok t) ∧ (∃ t, s.registerAll [done, list] = .ok t) ∧
    ∀ t t', s.registerAll [list, done] = .ok t → s.registerAll [done, list] = .ok t' →
      t.methods.Perm t'.methods ∧ t.events.Perm t'.events := by
  intro s list done
  have hok : ∃ t, s.registerAll [list, done] = .ok t :=
    isOk_eq_true.mp (by simp only [s, list, done]; decide +kernel)
  obtain ⟨hiff, hsame⟩ := registration_order s (List.Perm.swap done list []) (by
    simp [list, done, Registration.isMember])
  exact ⟨hok, hiff.mp hok, hsame⟩

-- An event inside a method is refused, and so is a method around an event.
example :
    let s := Service.empty (.str "1.0") (.str "Jobs")
    let list : Registration := .readMethod [.str "jobs"] ⟨"list", [], none, none⟩
    let done : Registration := .event [] (.str "jobs.list.done") .null .null
    (s.registerAll [list, done]).isOk = false ∧ (s.registerAll [done, list]).isOk = false := by
  decide +kernel

end Service

end Farcall
