import Farcall.Proofs.Names
import Farcall.Proofs.Registration
import Farcall.Service.Document

/-!
# What a document describes

A service read from a document has the definitions of the document in the order in which they are
written. Names are texts there, or bytes that encode one: so fields of a struct whose keys encode
one text are one field.
-/

namespace Farcall.Document

-- ---------------------------------------------------------------------------
-- What is written
-- ---------------------------------------------------------------------------

/-- The entries of a mapping; there are none in other values. -/
def entriesOf : Value → Record
  | .map entries => entries
  | _ => []

/-- What an entry of a record lists; without an entry that is nothing. -/
def listed (r : Record) (key : String) : List Value :=
  ((Value.getD r key).members?).getD []

def nameOf? : Value → Option Value
  | .str s => some (.str s)
  | .map r => Value.get? r "name"
  | _ => none

def defaultOf? : Value → Option Value
  | .map r => Value.get? r "default"
  | _ => none

theorem membersOrNone_ok (h : membersOrNone v = .ok xs) : (v.members?).getD [] = xs := by
  unfold membersOrNone at h
  split at h
  · rename_i hfalsy
    cases h
    cases v <;> simp_all [Value.truthy, Value.members?]
  · split at h
    · rename_i hmembers
      cases h
      rw [hmembers, Option.getD_some]
    · cases h

theorem mappingOrEmpty_ok (h : mappingOrEmpty what v = .ok es) : entriesOf v = es := by
  unfold mappingOrEmpty at h
  split at h
  · unfold mapping at h
    split at h
    · cases h
      rfl
    · cases h
  · rename_i hfalsy
    cases h
    cases v <;> simp_all [Value.truthy, entriesOf]

-- ---------------------------------------------------------------------------
-- Entries of records
-- ---------------------------------------------------------------------------

theorem get?_cons (k : String) (v : Value) (r : Record) (key : String) :
    Value.get? ((.str k, v) :: r) key = if k = key then some v else Value.get? r key := by
  unfold Value.get? Value.lookup?
  by_cases hk : k = key <;> simp [Value.same_str, hk]

@[simp] theorem get?_nil (key : String) : Value.get? [] key = none := rfl

theorem get?_append (r r' : Record) (key : String) :
    Value.get? (r ++ r') key = (Value.get? r key).or (Value.get? r' key) := by
  unfold Value.get? Value.lookup?
  rw [List.find?_append]
  cases List.find? (fun e => e.1.same (.str key)) r <;> rfl

theorem get?_assign (r : Record) (key other : String) (v : Value) :
    Value.get? (Value.assign r (.str key) v) other =
      if key = other then some v else Value.get? r other := by
  unfold Value.get? Value.lookup?
  induction r with
  | nil => by_cases hk : key = other <;> simp [Value.assign, Value.same_str, hk]
  | cons e r ih =>
    obtain ⟨k, w⟩ := e
    unfold Value.assign
    split
    · rename_i hkey
      obtain rfl := Value.same_str_iff.mp hkey
      by_cases hk : key = other <;> simp [Value.same_str, hk]
    · rename_i hkey
      rw [List.find?_cons, List.find?_cons]
      split
      · rename_i hother
        obtain rfl := Value.same_str_iff.mp hother
        have hne : key ≠ other := fun h => hkey (by simp [h, Value.same_str])
        rw [if_neg hne]
      · exact ih

theorem get?_carried (r : Record) (key other : String) :
    Value.get? (carried r key) other = if key = other then Value.get? r key else none := by
  unfold carried
  cases Value.get? r key <;> simp [get?_cons]

theorem get?_carriedIfTrue_of_ne (r : Record) (h : key ≠ other) :
    Value.get? (carriedIfTrue r key) other = none := by
  unfold carriedIfTrue carried
  cases Value.get? r key with
  | none => rfl
  | some v => cases hv : v.truthy <;> simp [hv, get?_cons, h]

-- ---------------------------------------------------------------------------
-- Parameters and methods
-- ---------------------------------------------------------------------------

structure ReadsParam (raw : Value) (p : Param) : Prop where
  name : ∃ v, nameOf? raw = some v ∧ v.readText = .ok p.name
  optional : p.optional = (defaultOf? raw).isSome
  default : p.default = (defaultOf? raw).getD .null

theorem readParam_ok (h : Value.readParam (.map r) = .ok p) :
    (∃ v, Value.get? r "name" = some v ∧ v.readText = .ok p.name) ∧
      p.optional = (Value.get? r "default").isSome ∧
      p.default = (Value.get? r "default").getD .null := by
  obtain ⟨_, hr, h⟩ := bind_ok.mp h
  cases hr
  obtain ⟨_, hparts, rfl⟩ := Reading.map_eq_ok.mp h
  obtain ⟨hfirst, hsecond⟩ := Reading.both_ok.mp (Reading.also_ok hparts)
  have hdefault := Reading.within_ok.mp (Reading.both_ok.mp hsecond).1
  refine ⟨Record.required_ok (Reading.both_ok.mp hfirst).1, rfl, ?_⟩
  split at hdefault <;> rename_i hget
  · rw [hget]
    exact (Except.ok.inj hdefault).symm
  · rw [hget]
    exact (Except.ok.inj hdefault).symm

theorem readsParam (hrecord : paramRecord raw = .ok v) (hread : v.readParam = .ok p) :
    ReadsParam raw p := by
  unfold paramRecord at hrecord
  split at hrecord
  · cases hrecord
    cases hread
    exact ⟨⟨_, rfl, rfl⟩, rfl, rfl⟩
  · rename_i r
    obtain ⟨name, hname, heq⟩ := bind_ok.mp hrecord
    cases heq
    obtain ⟨⟨v, hv, htext⟩, hoptional, hdefault⟩ := readParam_ok hread
    -- The default is carried over as it is, also a null one.
    have hkept : Value.get? ((.str "name", name) :: typeEntry r :: (carried r "default" ++
        carriedIfTrue r "description")) "default" = Value.get? r "default" := by
      simp [get?_cons, typeEntry, get?_append, get?_carried, get?_carriedIfTrue_of_ne]
    rw [hkept] at hoptional hdefault
    refine ⟨⟨v, ?_, htext⟩, hoptional, hdefault⟩
    rw [get?_cons, if_pos rfl] at hv
    unfold required at hname
    split at hname
    · rename_i hget
      cases hname
      rw [nameOf?, hget, hv]
    · cases hname
  · cases hrecord

theorem paramRecords_ok (h : paramRecords raws = .ok vs) :
    List.Forall₂ (fun raw v => paramRecord raw = .ok v) raws vs := by
  induction raws generalizing vs with
  | nil =>
    cases h
    exact .nil
  | cons raw raws ih =>
    obtain ⟨v, hv, hrest⟩ := bind_ok.mp h
    obtain ⟨vs, hvs, heq⟩ := bind_ok.mp hrest
    cases heq
    exact .cons hv (ih hvs)

theorem readsParams (hrecords : List.Forall₂ (fun raw v => paramRecord raw = .ok v) raws vs)
    (hread : Value.readParams n vs = .ok ps) : List.Forall₂ ReadsParam raws ps := by
  induction hrecords generalizing n ps with
  | nil =>
    cases hread
    exact .nil
  | cons hrecord _ ih =>
    obtain ⟨_, hboth, rfl⟩ := Reading.map_eq_ok.mp hread
    obtain ⟨hparam, hrest⟩ := Reading.both_ok.mp hboth
    exact .cons (readsParam hrecord (Reading.within_ok.mp hparam)) (ih hrest)

/-- A method as it is described: its name, its parameters and whether it returns anything. -/
structure ReadsMethod (raw : Value) (m : Method) : Prop where
  name : ∃ v, nameOf? raw = some v ∧ v.readText = .ok m.name
  params : List.Forall₂ ReadsParam (listed (entriesOf raw) "params") m.params
  returns : m.returns = none ↔ Value.getD (entriesOf raw) "returns" = .null

theorem required_ok (h : required what key r = .ok v) : Value.get? r key = some v := by
  unfold required at h
  split at h
  · rename_i hget
    cases h
    exact hget
  · cases h

theorem readTypeRef?_ok (h : Value.readTypeRef? v = .ok t) : t = none ↔ v = .null := by
  unfold Value.readTypeRef? at h
  split at h
  · cases h
    simp
  · rename_i hv
    obtain ⟨_, -, rfl⟩ := Reading.map_eq_ok.mp h
    simpa using hv

theorem readsMethod (hrecord : methodRecord raw = .ok r)
    (hread : Value.readMethod (.map r) = .ok m) : ReadsMethod raw m := by
  obtain ⟨entries, hentries, h⟩ := bind_ok.mp hrecord
  obtain ⟨name, hname, h⟩ := bind_ok.mp h
  obtain ⟨raws, hraws, h⟩ := bind_ok.mp h
  obtain ⟨vs, hvs, h⟩ := bind_ok.mp h
  cases h
  obtain ⟨⟨v, hv, htext⟩, ⟨vs', hvs', hparams⟩, hreturns⟩ := Service.readMethod_ok hread
  unfold mapping at hentries
  split at hentries
  · cases hentries
    rw [get?_cons, if_pos rfl] at hv
    refine ⟨⟨v, ?_, htext⟩, ?_, ?_⟩
    · rw [nameOf?, required_ok hname, hv]
    · rw [get?_cons, if_neg (by decide), get?_cons, if_pos rfl] at hvs'
      cases hvs'
      have hlisted : listed entries "params" = raws := membersOrNone_ok hraws
      rw [entriesOf, hlisted]
      exact readsParams (paramRecords_ok hvs) hparams
    · have hreturns := Reading.within_ok.mp hreturns
      rw [get?_cons, if_neg (by decide), get?_cons, if_neg (by decide), get?_append,
        get?_carriedIfTrue_of_ne _ (by decide), Option.or_none] at hreturns
      rw [entriesOf]
      -- A null is left out of the record, everything else is carried over.
      cases hget : Value.getD entries "returns" with
      | null =>
        rw [hget] at hreturns
        exact iff_of_true (Except.ok.inj hreturns).symm rfl
      | _ =>
        rw [hget] at hreturns
        dsimp only at hreturns
        rw [get?_cons, if_pos rfl] at hreturns
        exact readTypeRef?_ok hreturns
  · cases hentries

-- ---------------------------------------------------------------------------
-- Types
-- ---------------------------------------------------------------------------

structure ReadsEnum (entry : Value × Value) (type : Value × TypeDef) : Prop where
  name : type.1 = entry.1
  enum : ∃ members, type.2 = .enum members

/-- A struct as it is described: its name, and the texts of the keys of its fields, each once. -/
structure ReadsStruct (entry : Value × Value) (type : Value × TypeDef) : Prop where
  name : type.1 = entry.1
  struct : ∃ fields names, type.2 = .struct fields ∧
    List.Forall₂ (fun key name => Value.readText key = .ok name)
      ((entriesOf (Value.getD (entriesOf entry.2) "fields")).map Prod.fst) names ∧
    fields.map Prod.fst = Name.firsts names

theorem fieldRecords_ok [Alphabet] (h : fieldRecords es = .ok fs) :
    fs.map Prod.fst = es.map Prod.fst := by
  induction es generalizing fs with
  | nil =>
    cases h
    rfl
  | cons e es ih =>
    obtain ⟨field, -, hrest⟩ := bind_ok.mp h
    obtain ⟨fields, hfields, heq⟩ := bind_ok.mp hrest
    cases heq
    rw [List.map_cons, List.map_cons, ih hfields]

theorem typeRecord_ok [Alphabet] (h : typeRecord name raw = .ok v) :
    ∃ fs, v = .map [(.str "fields", .map fs)] ∧ fs.map Prod.fst =
      (entriesOf (Value.getD (entriesOf raw) "fields")).map Prod.fst := by
  obtain ⟨r, hr, h⟩ := bind_ok.mp h
  obtain ⟨es, hes, h⟩ := bind_ok.mp h
  obtain ⟨fs, hfs, heq⟩ := bind_ok.mp h
  cases heq
  rw [mappingOrEmpty_ok hr, mappingOrEmpty_ok hes]
  exact ⟨fs, rfl, fieldRecords_ok hfs⟩

theorem keys_readEntries {read : Value → Reading α} (h : Value.readEntries read r = .ok es) :
    List.Forall₂ (fun key name => Value.readText key = .ok name) (r.map Prod.fst)
      (es.map Prod.fst) := by
  induction r generalizing es with
  | nil =>
    cases h
    exact .nil
  | cons e r ih =>
    obtain ⟨⟨f, fs⟩, hboth, rfl⟩ := Reading.map_eq_ok.mp h
    obtain ⟨hhead, hrest⟩ := Reading.both_ok.mp hboth
    have hkey := Reading.within_ok.mp (Reading.both_ok.mp hhead).1
    exact .cons (Reading.within_ok.mp hkey) (ih hrest)

theorem keys_foldl_putEntry (es entries : List (String × α)) :
    (es.foldl Value.putEntry entries).map Prod.fst =
      (es.map Prod.fst).foldl (fun seen x => if x ∈ seen then seen else seen ++ [x])
        (entries.map Prod.fst) := by
  induction es generalizing entries with
  | nil => rfl
  | cons e es ih => rw [List.foldl_cons, ih, Value.keys_putEntry, List.map_cons, List.foldl_cons]

theorem readStruct_ok (h : Value.readStruct (.map [(.str "fields", .map fs)]) = .ok d) :
    ∃ fields names, d = .struct fields ∧
      List.Forall₂ (fun key name => Value.readText key = .ok name) (fs.map Prod.fst) names ∧
      fields.map Prod.fst = Name.firsts names := by
  obtain ⟨_, hr, h⟩ := bind_ok.mp h
  cases hr
  obtain ⟨p, hparts, rfl⟩ := Reading.map_eq_ok.mp h
  have hfields := Reading.within_ok.mp (Reading.both_ok.mp (Reading.also_ok hparts)).2
  rw [get?_cons, if_pos rfl] at hfields
  obtain ⟨es, hes, heq⟩ := Reading.map_eq_ok.mp hfields
  refine ⟨p.2, es.map Prod.fst, rfl, keys_readEntries hes, ?_⟩
  rw [← heq, keys_foldl_putEntry]
  rfl

theorem registerStruct_ok {s : Service}
    (h : s.registerType name (.map [(.str "fields", .map fs)]) = .ok (t, d)) :
    t = s.addType name d ∧ ∃ fields names, d = .struct fields ∧
      List.Forall₂ (fun key name => Value.readText key = .ok name) (fs.map Prod.fst) names ∧
      fields.map Prod.fst = Name.firsts names := by
  refine ⟨(Service.registerType_ok h).2, ?_⟩
  obtain ⟨_, -, h⟩ := bind_ok.mp h
  have hkind : ((Value.get? [(.str "fields", .map fs)] "kind").getD (.str "struct")).same
      (.str "enum") = false := by
    simp [get?_cons, Value.same_str]
  simp only [hkind, Bool.false_eq_true, if_false] at h
  obtain ⟨d', hd', h⟩ := bind_ok.mp h
  obtain ⟨fields, names, rfl, hnames, hkeys⟩ := readStruct_ok (mapError_ok.mp hd')
  obtain ⟨_, -, h⟩ := bind_ok.mp h
  obtain ⟨_, -, heq⟩ := bind_ok.mp h
  cases heq
  exact ⟨fields, names, rfl, hnames, hkeys⟩

theorem registerEnum_enum {s : Service} (h : s.registerEnum name values = .ok (t, d)) :
    ∃ members, d = .enum members := by
  simp only [Service.registerEnum, Service.registerEntries, bind_ok, pure_ok, Prod.mk.injEq] at h
  obtain ⟨_, -, _, -, _, -, d', hread, -, rfl⟩ := h
  obtain ⟨_, -, rfl⟩ := Service.readEnum_ok (mapError_ok.mp hread)
  exact ⟨_, rfl⟩

-- ---------------------------------------------------------------------------
-- Sections
-- ---------------------------------------------------------------------------

/-- A section is registered entry by entry, and each entry appends what it describes. -/
theorem registers_all {s : Service} {run : Service → List α → Except Failure Service}
    (put : Service → List β → Service) {R : α → β → Prop}
    (hnil : ∀ s, run s [] = .ok s)
    (hcons : ∀ s x xs t, run s (x :: xs) = .ok t → ∃ y, R x y ∧ run (put s [y]) xs = .ok t)
    (hputNil : ∀ s, put s [] = s) (hputCons : ∀ s y ys, put (put s [y]) ys = put s (y :: ys))
    (h : run s xs = .ok t) : ∃ ys, List.Forall₂ R xs ys ∧ t = put s ys := by
  induction xs generalizing s with
  | nil =>
    rw [hnil] at h
    cases h
    exact ⟨[], .nil, (hputNil _).symm⟩
  | cons x xs ih =>
    obtain ⟨y, hy, hrest⟩ := hcons s x xs t h
    obtain ⟨ys, hys, rfl⟩ := ih hrest
    exact ⟨y :: ys, .cons hy hys, hputCons s y ys⟩

theorem registerEnums_ok {s : Service} (h : registerEnums s es = .ok t) :
    ∃ ts, List.Forall₂ ReadsEnum es ts ∧ t = { s with types := s.types ++ ts } := by
  refine registers_all (fun s ts => { s with types := s.types ++ ts }) (fun _ => rfl) ?_
    (by simp) (by simp) h
  intro s e es t h
  obtain ⟨⟨u, d⟩, hregister, hrest⟩ := bind_ok.mp h
  obtain ⟨-, rfl⟩ := Service.registerEnum_ok hregister
  exact ⟨(e.1, d), ⟨rfl, registerEnum_enum hregister⟩, hrest⟩

theorem registerTypes_ok {s : Service} (h : registerTypes s es = .ok t) :
    ∃ ts, List.Forall₂ ReadsStruct es ts ∧ t = { s with types := s.types ++ ts } := by
  refine registers_all (fun s ts => { s with types := s.types ++ ts }) (fun _ => rfl) ?_
    (by simp) (by simp) h
  intro s e es t h
  obtain ⟨v, hv, h⟩ := bind_ok.mp h
  obtain ⟨⟨u, d⟩, hregister, hrest⟩ := bind_ok.mp h
  obtain ⟨fs, rfl, hkeys⟩ := typeRecord_ok hv
  obtain ⟨rfl, hstruct⟩ := registerStruct_ok hregister
  exact ⟨(e.1, d), ⟨rfl, hkeys ▸ hstruct⟩, hrest⟩

theorem registerMethods_ok {s : Service} (h : registerMethods s raws = .ok t) :
    ∃ ms, List.Forall₂ ReadsMethod raws ms ∧ t = { s with methods := s.methods ++ ms } := by
  refine registers_all (fun s ms => { s with methods := s.methods ++ ms }) (fun _ => rfl) ?_
    (by simp) (by simp) h
  intro s raw raws t h
  obtain ⟨r, hr, h⟩ := bind_ok.mp h
  obtain ⟨⟨u, m⟩, hregister, hrest⟩ := bind_ok.mp h
  obtain ⟨-, rfl⟩ := Service.registerMethodRecord_ok hregister
  obtain ⟨m', hread, h⟩ := bind_ok.mp hregister
  obtain ⟨_, -, heq⟩ := bind_ok.mp h
  cases heq
  exact ⟨m, readsMethod hr hread, hrest⟩

def ReadsEvent (raw : Value) (e : Event) : Prop :=
  nameOf? raw = some (.str e.name)

theorem name_registerEvent {s : Service}
    (h : s.registerEvent name type description = .ok (t, e)) : name = .str e.name := by
  simp only [Service.registerEvent, bind_ok] at h
  obtain ⟨_, -, _, hread, h⟩ := h
  split at h
  · obtain ⟨_, -, heq⟩ := bind_ok.mp h
    cases heq
    rw [Service.name_readEvent hread]
  · cases h

theorem registerEvent_ok (h : registerEvent s raw = .ok t) :
    ∃ e, ReadsEvent raw e ∧ t = { s with events := s.events ++ [e] } := by
  unfold registerEvent at h
  split at h
  · obtain ⟨⟨u, e⟩, hregister, heq⟩ := bind_ok.mp h
    cases heq
    exact ⟨e, congrArg some (name_registerEvent hregister),
      (Service.registerEvent_ok hregister).2⟩
  · obtain ⟨r, hr, h⟩ := bind_ok.mp h
    obtain ⟨name, hname, h⟩ := bind_ok.mp h
    obtain ⟨⟨u, e⟩, hregister, heq⟩ := bind_ok.mp h
    cases heq
    unfold mapping at hr
    split at hr
    · cases hr
      refine ⟨e, ?_, (Service.registerEvent_ok hregister).2⟩
      rw [ReadsEvent, nameOf?, required_ok hname, name_registerEvent hregister]
    · cases hr

theorem registerEvents_ok {s : Service} (h : registerEvents s raws = .ok t) :
    ∃ es, List.Forall₂ ReadsEvent raws es ∧ t = { s with events := s.events ++ es } := by
  refine registers_all (fun s es => { s with events := s.events ++ es }) (fun _ => rfl) ?_
    (by simp) (by simp) h
  intro s raw raws t h
  obtain ⟨u, hevent, hrest⟩ := bind_ok.mp h
  obtain ⟨e, he, rfl⟩ := registerEvent_ok hevent
  exact ⟨e, he, hrest⟩

-- ---------------------------------------------------------------------------
-- Documents
-- ---------------------------------------------------------------------------

/-- A service as a document describes it, section by section and entry by entry. -/
structure Describes (r : Record) (s : Service) : Prop where
  types : ∃ enums structs, s.types = enums ++ structs ∧
    List.Forall₂ ReadsEnum (entriesOf (Value.getD r "enums")) enums ∧
    List.Forall₂ ReadsStruct (entriesOf (Value.getD r "types")) structs
  methods : List.Forall₂ ReadsMethod (listed r "methods") s.methods
  events : List.Forall₂ ReadsEvent (listed r "events") s.events

/-- A service read from a document has the types, methods and events that are described in it, in
the order in which they are written. -/
theorem service_as_described (h : service (.map r) = .ok s) : Describes r s := by
  obtain ⟨es, hes, h⟩ := bind_ok.mp h
  obtain ⟨afterEnums, henums, h⟩ := bind_ok.mp h
  obtain ⟨ts, hts, h⟩ := bind_ok.mp h
  obtain ⟨afterTypes, htypes, h⟩ := bind_ok.mp h
  obtain ⟨ms, hms, h⟩ := bind_ok.mp h
  obtain ⟨afterMethods, hmethods, h⟩ := bind_ok.mp h
  obtain ⟨vs, hvs, hevents⟩ := bind_ok.mp h
  obtain ⟨enums, hreadEnums, rfl⟩ := registerEnums_ok henums
  obtain ⟨structs, hreadStructs, rfl⟩ := registerTypes_ok htypes
  obtain ⟨methods, hreadMethods, rfl⟩ := registerMethods_ok hmethods
  obtain ⟨events, hreadEvents, rfl⟩ := registerEvents_ok hevents
  rw [← mappingOrEmpty_ok hes] at hreadEnums
  rw [← mappingOrEmpty_ok hts] at hreadStructs
  rw [← membersOrNone_ok hms] at hreadMethods
  rw [← membersOrNone_ok hvs] at hreadEvents
  exact ⟨⟨enums, structs, rfl, hreadEnums, hreadStructs⟩, hreadMethods, hreadEvents⟩

theorem jobs_as_described :
    let r : Record := [
      (.str "enums", .map [(.str "Mode", .list [.str "Fast", .str "Slow"])]),
      (.str "types", .map [(.str "Job", .map [(.str "fields", .map [
        (.str "id", .str "int"), (.bytes [0x61], .map [(.str "type", .list [.str "string"])])])])]),
      (.str "methods", .list [
        .map [(.str "name", .str "jobs.start"), (.str "params", .list [.str "job",
          .map [(.str "name", .str "mode"), (.str "type", .str "Mode"), (.str "default", .null)]]),
          (.str "returns", .str "Job")],
        .map [(.str "name", .str "jobs.stop"), (.str "returns", .null)]]),
      (.str "events", .list [.str "jobs.done", .map [(.str "name", .str "jobs.progress")]])]
    ∃ s, service (.map r) = .ok s ∧ Describes r s := by
  intro r
  obtain ⟨s, hs⟩ : ∃ s, service (.map r) = .ok s := by
    rw [← isOk_eq_true]
    simp only [r]
    decide +kernel
  exact ⟨s, hs, service_as_described hs⟩

/-- Two keys that read as one text are one field, of the type given last. -/
theorem bytes_key_merges_fields :
    let fields : Record := [(.str "a", .str "int"), (.bytes [0x61], .str "string")]
    let r : Record := [(.str "types", .map [(.str "T", .map [(.str "fields", .map fields)])])]
    ∃ s, service (.map r) = .ok s ∧ (∀ t ∈ s.structs, t.2.length < fields.length) ∧
      s.structs.map (fun t => t.2.map fun f => (f.1, f.2.type.name)) = [[("a", "string")]] := by
  intro fields r
  obtain ⟨s, hs, hstructs⟩ : ∃ s, (service (.map r)).toOption = some s ∧
      s.structs.map (fun t => t.2.map fun f => (f.1, f.2.type.name)) = [[("a", "string")]] := by
    rw [← Option.map_eq_some_iff]
    simp only [r, fields]
    decide +kernel
  refine ⟨s, toOption_eq_some.mp hs, fun t ht => ?_, hstructs⟩
  have hone : t.2.map (fun f => (f.1, f.2.type.name)) ∈ [[("a", "string")]] := by
    rw [← hstructs]
    exact List.mem_map_of_mem ht
  have hlength := congrArg List.length (List.mem_singleton.mp hone)
  rw [List.length_map] at hlength
  rw [hlength]
  exact Nat.one_lt_two

end Farcall.Document
