import Farcall.CommandLine.Run
import Farcall.Proofs.DocumentKeys
import Farcall.Proofs.Documents

/-!
# Failures that are told

What is wrong with a description is told, whatever it is, if the description is not flawed: if its
lists have members, and what it registers under a name can be a key. A flawed description may stop
the command line with a fault that is not told.
-/

namespace Farcall.CommandLine

-- ---------------------------------------------------------------------------
-- What is told
-- ---------------------------------------------------------------------------

/-- What stops a computation is told about; but if something is flawed, it may be a fault. -/
def ToldUnless (flaw : Prop) (x : Except Failure α) : Prop :=
  ∀ e, x = .error e → isTold e = true ∨ flaw ∧ ∃ f, e = .fault f

variable {x : Except Failure α} {flaw other : Prop}

theorem toldUnless_ok (a : α) : ToldUnless flaw (.ok a) :=
  fun _ h => nomatch h

theorem toldUnless_error (h : isTold e = true) : ToldUnless flaw (.error e : Except Failure α) := by
  rintro _ ⟨⟩
  exact .inl h

theorem toldUnless_fault (h : flaw) (f : Fault) :
    ToldUnless flaw (.error (.fault f) : Except Failure α) := by
  rintro _ ⟨⟩
  exact .inr ⟨h, f, rfl⟩

theorem ToldUnless.bind {f : α → Except Failure β} (hx : ToldUnless flaw x)
    (hf : ∀ a, x = .ok a → ToldUnless flaw (f a)) : ToldUnless flaw (x >>= f) := by
  cases x with
  | ok a => exact hf a rfl
  | error e =>
    rintro _ ⟨⟩
    exact hx e rfl

theorem toldUnless_invalid (r : Reading α) : ToldUnless flaw (r.mapError Failure.invalid) := by
  cases r with
  | ok a => exact toldUnless_ok a
  | error issues => exact toldUnless_error rfl

-- ---------------------------------------------------------------------------
-- Registration
-- ---------------------------------------------------------------------------

variable {s : Service} {name values : Value}

theorem told_checkTypeName (h : name.hashable = true) : ToldUnless flaw (s.checkTypeName name) := by
  rw [Service.checkTypeName, if_neg (by simp [h])]
  split
  · exact toldUnless_error rfl
  · exact toldUnless_ok ()

theorem told_numberLabels (h : ∀ l ∈ labels, l.hashable = false → flaw) :
    ToldUnless flaw (Service.numberLabels name taken next labels) := by
  induction labels generalizing taken next with
  | nil => exact toldUnless_ok _
  | cons label labels ih =>
    obtain ⟨hlabel, hlabels⟩ := List.forall_mem_cons.mp h
    unfold Service.numberLabels
    split
    · rename_i hkey
      exact toldUnless_fault (hlabel (by simpa using hkey)) _
    · split
      · exact toldUnless_error rfl
      · exact ih hlabels

/-- Values that do not enumerate anything: they have no members, or one that cannot be a key. -/
def Unlabelled (values : Value) : Prop :=
  values.members? = none ∨ ∃ labels, values.members? = some labels ∧
    ∃ l ∈ labels, l.hashable = false

theorem told_enumEntries (h : Unlabelled values → flaw) :
    ToldUnless flaw (Service.enumEntries name values) := by
  unfold Service.enumEntries
  split
  · exact toldUnless_ok _
  · exact toldUnless_error rfl
  · split
    · rename_i labels hlabels
      exact told_numberLabels fun l hl hkey => h (.inr ⟨labels, hlabels, l, hl, hkey⟩)
    · rename_i hnone
      exact toldUnless_fault (h (.inl hnone)) _

theorem told_checkValues : ToldUnless flaw (Service.checkValues name seen entries) := by
  induction entries generalizing seen with
  | nil => exact toldUnless_ok ()
  | cons e entries ih =>
    unfold Service.checkValues
    split
    · cases ‹_ :: _ = []›
    · rename_i heq
      cases heq
      split
      · exact toldUnless_error rfl
      · exact ih
    · exact toldUnless_error rfl

theorem told_registerEnum (hname : name.hashable = true) (h : Unlabelled values → flaw) :
    ToldUnless flaw (s.registerEnum name values) :=
  (told_checkTypeName hname).bind fun _ _ => (told_enumEntries h).bind fun _ _ =>
    told_checkValues.bind fun _ _ => (toldUnless_invalid _).bind fun _ _ => toldUnless_ok _

theorem told_resolve : ToldUnless flaw (s.resolve ref by') := by
  unfold Service.resolve
  split
  · exact toldUnless_ok ()
  · exact toldUnless_error rfl

theorem told_checkFields : ToldUnless flaw (s.checkFields name fields) := by
  induction fields with
  | nil => exact toldUnless_ok ()
  | cons f fields ih =>
    unfold Service.checkFields
    split
    · exact ih
    · exact told_resolve.bind fun _ _ => ih

theorem told_registerType (hname : name.hashable = true) (fields : Record) :
    ToldUnless flaw (s.registerType name (.map [(.str "fields", .map fields)])) := by
  have hkind : (((Value.get? [(.str "fields", .map fields)] "kind").getD (.str "struct")).same
      (.str "enum")) = false := by
    simp [Document.get?_cons, Value.same_str]
  refine (told_checkTypeName hname).bind fun _ _ => ?_
  dsimp only
  rw [if_neg (by rw [hkind]; decide)]
  refine (toldUnless_invalid _).bind fun d hd => ?_
  obtain ⟨fields, names, rfl, -⟩ := Document.readStruct_ok (mapError_ok.mp hd)
  exact (told_checkTypeName hname).bind fun _ _ =>
    told_checkFields.bind fun _ _ => toldUnless_ok _

theorem told_checkAncestors {name : String} : ToldUnless flaw (s.checkAncestors name) := by
  unfold Service.checkAncestors
  split
  · exact toldUnless_error rfl
  · exact toldUnless_ok ()

theorem told_checkParams {method : String} : ToldUnless flaw (s.checkParams method params) := by
  induction params with
  | nil => exact toldUnless_ok ()
  | cons p params ih => exact told_resolve.bind fun _ _ => ih

theorem told_checkReturn {m : Method} : ToldUnless flaw (s.checkReturn m) := by
  unfold Service.checkReturn
  split
  · split
    · exact toldUnless_ok ()
    · exact told_resolve
  · exact toldUnless_ok ()

theorem told_registerMethod {m : Method} : ToldUnless flaw (s.registerMethod m) := by
  by_cases hm : m.name ∈ s.methodNames
  · rw [Service.registerMethod, if_pos hm]
    exact toldUnless_error (by rfl)
  by_cases hn : m.name ∈ s.impliedNamespaces
  · rw [Service.registerMethod, if_neg hm, if_pos hn]
    exact toldUnless_error (by rfl)
  rw [Service.registerMethod, if_neg hm, if_neg hn]
  exact told_checkAncestors.bind fun _ _ => told_checkParams.bind fun _ _ =>
    told_checkReturn.bind fun _ _ => toldUnless_ok _

theorem told_registerEvent (hname : name.hashable = false ∨ (∃ b, name = .bytes b) → flaw) :
    ToldUnless flaw (s.registerEvent name type description) := by
  have hchecked : ToldUnless flaw (s.checkEventName name) := by
    unfold Service.checkEventName
    split
    · rename_i hkey
      exact toldUnless_fault (hname (.inl (by simpa using hkey))) _
    · split
      · exact toldUnless_error rfl
      · exact toldUnless_ok ()
  refine hchecked.bind fun _ _ => (toldUnless_invalid _).bind fun e he => ?_
  split
  · refine ToldUnless.bind (told_checkAncestors.bind fun _ _ => ?_) fun _ _ => toldUnless_ok _
    split
    · exact told_resolve.bind fun _ _ => toldUnless_ok _
    · exact toldUnless_ok _
  · -- Only texts and bytes are read as a name.
    rename_i hnot
    have htext := Reading.within_ok.mp (Reading.both_ok.mp (Reading.map_eq_ok.mp
      (mapError_ok.mp he)).choose_spec.1).1
    refine toldUnless_fault (hname (.inr ?_)) _
    cases name with
    | bytes b => exact ⟨b, rfl⟩
    | str s => exact absurd rfl (hnot s)
    | _ => cases htext

-- ---------------------------------------------------------------------------
-- Documents
-- ---------------------------------------------------------------------------

/-- Where a list should be, a value that has no members, but does not count as false. -/
def Unlisted (v : Value) : Prop :=
  v.truthy = true ∧ v.members? = none

variable {r : Record} {v raw : Value}

theorem told_membersOrNone (h : Unlisted v → flaw) : ToldUnless flaw (Document.membersOrNone v) := by
  unfold Document.membersOrNone
  split
  · exact toldUnless_ok _
  · rename_i htrue
    split
    · exact toldUnless_ok _
    · rename_i hnone
      exact toldUnless_fault (h ⟨by simpa using htrue, hnone⟩) _

theorem told_mapping : ToldUnless flaw (Document.mapping what v) := by
  unfold Document.mapping
  split
  · exact toldUnless_ok _
  · exact toldUnless_error rfl

theorem told_mappingOrEmpty : ToldUnless flaw (Document.mappingOrEmpty what v) := by
  unfold Document.mappingOrEmpty
  split
  · exact told_mapping
  · exact toldUnless_ok _

theorem told_required : ToldUnless flaw (Document.required what key r) := by
  unfold Document.required
  split
  · exact toldUnless_ok _
  · exact toldUnless_error rfl

theorem told_fieldRecord [Alphabet] : ToldUnless flaw (Document.fieldRecord name raw) := by
  unfold Document.fieldRecord
  split
  · exact toldUnless_ok _
  · exact toldUnless_ok _
  · exact told_mapping.bind fun _ _ => toldUnless_ok _

theorem told_fieldRecords [Alphabet] : ToldUnless flaw (Document.fieldRecords r) := by
  induction r with
  | nil => exact toldUnless_ok _
  | cons e r ih =>
    exact told_fieldRecord.bind fun _ _ => ih.bind fun _ _ => toldUnless_ok _

theorem told_typeRecord [Alphabet] : ToldUnless flaw (Document.typeRecord name raw) :=
  told_mappingOrEmpty.bind fun _ _ => told_mappingOrEmpty.bind fun _ _ =>
    told_fieldRecords.bind fun _ _ => toldUnless_ok _

theorem told_paramRecord : ToldUnless flaw (Document.paramRecord raw) := by
  unfold Document.paramRecord
  split
  · exact toldUnless_ok _
  · exact told_required.bind fun _ _ => toldUnless_ok _
  · exact toldUnless_error rfl

theorem told_paramRecords : ToldUnless flaw (Document.paramRecords raws) := by
  induction raws with
  | nil => exact toldUnless_ok _
  | cons raw raws ih =>
    exact told_paramRecord.bind fun _ _ => ih.bind fun _ _ => toldUnless_ok _

theorem told_registerMethodRecord (h : Document.methodRecord raw = .ok r) :
    ToldUnless flaw (s.registerMethodRecord r) := by
  obtain ⟨_, -, h⟩ := bind_ok.mp h
  obtain ⟨name, -, h⟩ := bind_ok.mp h
  obtain ⟨_, -, h⟩ := bind_ok.mp h
  obtain ⟨params, -, h⟩ := bind_ok.mp h
  cases h
  refine ToldUnless.bind ?_ fun _ _ => told_registerMethod.bind fun _ _ => toldUnless_ok _
  refine ToldUnless.bind (toldUnless_ok _) fun r hr => ?_
  cases hr
  split
  · exact toldUnless_invalid _
  · rename_i hnone
    simp [Document.get?_cons, Value.paramMembers?, Value.members?] at hnone

/-- A part of a description that has no members, or that holds what cannot be a key. -/
inductive Flawed (r : Record) : Prop
  | methods (h : Unlisted (Value.getD r "methods"))
  | events (h : Unlisted (Value.getD r "events"))
  | params (hm : .map m ∈ Document.listed r "methods") (h : Unlisted (Value.getD m "params"))
  | enum {name values : Value} (he : (name, values) ∈ Document.entriesOf (Value.getD r "enums"))
    (h : Unlabelled values)
  | event {name : Value} (he : .map m ∈ Document.listed r "events")
    (hname : Value.get? m "name" = some name) (h : name.hashable = false ∨ ∃ b, name = .bytes b)

theorem told_registerEnums (hkeys : ∀ e ∈ es, e.1.hashable = true)
    (h : ∀ e ∈ es, Unlabelled e.2 → flaw) : ToldUnless flaw (Document.registerEnums s es) := by
  induction es generalizing s with
  | nil => exact toldUnless_ok _
  | cons e es ih =>
    obtain ⟨hkey, hkeys⟩ := List.forall_mem_cons.mp hkeys
    obtain ⟨hfirst, hrest⟩ := List.forall_mem_cons.mp h
    exact (told_registerEnum hkey hfirst).bind fun _ _ => ih hkeys hrest

theorem told_registerTypes [Alphabet] (hkeys : ∀ e ∈ es, e.1.hashable = true) :
    ToldUnless flaw (Document.registerTypes s es) := by
  induction es generalizing s with
  | nil => exact toldUnless_ok _
  | cons e es ih =>
    obtain ⟨hkey, hkeys⟩ := List.forall_mem_cons.mp hkeys
    refine told_typeRecord.bind fun v hv => ?_
    obtain ⟨fields, rfl, -⟩ := Document.typeRecord_ok hv
    exact (told_registerType hkey fields).bind fun _ _ => ih hkeys

theorem told_registerMethods (h : ∀ m, .map m ∈ raws → Unlisted (Value.getD m "params") → flaw) :
    ToldUnless flaw (Document.registerMethods s raws) := by
  induction raws generalizing s with
  | nil => exact toldUnless_ok _
  | cons raw raws ih =>
    have hrecord : ToldUnless flaw (Document.methodRecord raw) := by
      unfold Document.methodRecord
      cases raw with
      | map m =>
        exact told_required.bind fun _ _ =>
          (told_membersOrNone (h m List.mem_cons_self)).bind fun _ _ =>
            told_paramRecords.bind fun _ _ => toldUnless_ok _
      | _ => exact toldUnless_error rfl
    exact hrecord.bind fun r hr => (told_registerMethodRecord hr).bind fun _ _ =>
      ih fun m hm => h m (List.mem_cons_of_mem _ hm)

theorem told_registerEvents (h : ∀ m, .map m ∈ raws → ∀ name, Value.get? m "name" = some name →
    name.hashable = false ∨ (∃ b, name = .bytes b) → flaw) :
    ToldUnless flaw (Document.registerEvents s raws) := by
  induction raws generalizing s with
  | nil => exact toldUnless_ok _
  | cons raw raws ih =>
    have hevent : ToldUnless flaw (Document.registerEvent s raw) := by
      unfold Document.registerEvent
      cases raw with
      | str name =>
        exact (told_registerEvent (by simp [Value.hashable])).bind fun _ _ => toldUnless_ok _
      | map m =>
        exact told_required.bind fun name hname =>
          (told_registerEvent (h m List.mem_cons_self name (Document.required_ok hname))).bind
            fun _ _ => toldUnless_ok _
      | _ => exact toldUnless_error rfl
    exact hevent.bind fun _ _ => ih fun m hm => h m (List.mem_cons_of_mem _ hm)

/-- What is wrong with a description is told, unless it is flawed. -/
theorem told_service [Alphabet] (hr : Yaml.Written (.map r)) :
    ToldUnless (Flawed r) (Document.service (.map r)) := by
  have hkeys : ∀ key es, Document.entriesOf (Value.getD r key) = es →
      ∀ e ∈ es, e.1.hashable = true := by
    rintro key _ rfl
    cases hget : Value.get? r key with
    | none => simp [Value.getD, hget, Document.entriesOf]
    | some v =>
      have hv := hr.get? hget
      cases v <;> simp only [Value.getD, hget, Option.getD_some, Document.entriesOf]
      case map es => exact fun e he => (hv.entries e he).key
      all_goals exact List.forall_mem_nil _
  refine told_mappingOrEmpty.bind fun es hes => ?_
  have hes := Document.mappingOrEmpty_ok hes
  refine (told_registerEnums (hkeys _ _ hes) fun e he h => ?_).bind fun s _ => ?_
  · exact .enum (Eq.symm hes ▸ he) h
  refine told_mappingOrEmpty.bind fun ts hts => ?_
  refine (told_registerTypes (hkeys _ _ (Document.mappingOrEmpty_ok hts))).bind fun s _ => ?_
  refine (told_membersOrNone .methods).bind fun ms hms => ?_
  have hms : Document.listed r "methods" = ms := Document.membersOrNone_ok hms
  refine (told_registerMethods fun m hm h => .params (hms ▸ hm) h).bind fun s _ => ?_
  refine (told_membersOrNone .events).bind fun vs hvs => ?_
  have hvs : Document.listed r "events" = vs := Document.membersOrNone_ok hvs
  exact told_registerEvents fun m hm name hname h => .event (hvs ▸ hm) hname h

end Farcall.CommandLine
