import Farcall.Proofs.Actions
import Farcall.Proofs.Documents

/-!
# Live services

A service that is shared changes where it stands, so whatever a registration has written before it
fails stays written. Here registrations are the programs that do this, one statement after the other.
They come to the same as the functions on services, as nothing is written before the last check, and
what is written is one new entry.
-/

namespace Farcall

-- ---------------------------------------------------------------------------
-- Programs
-- ---------------------------------------------------------------------------

namespace Live

open Farcall.Action

/-- Writes an entry: over the one of its name if there is one, else at the end. -/
def write (isNamed : α → Bool) (renew : α → α) (new : α) (entries : List α) : List α :=
  if entries.any isNamed then entries.map fun e => if isNamed e then renew e else e
  else entries ++ [new]

def writeType (name : Value) (d : TypeDef) (s : Service) : Service :=
  { s with types := write (·.1.same name) (fun e => (e.1, d)) (name, d) s.types }

def writeMethod (m : Method) (s : Service) : Service :=
  { s with methods := write (·.name == m.name) (fun _ => m) m s.methods }

def writeEvent (e : Event) (s : Service) : Service :=
  { s with events := write (·.name == e.name) (fun _ => e) e s.events }

def registerEnum (name values : Value) : Action Service TypeDef := do
  looks (·.checkTypeName name)
  let entries ← given (Service.enumEntries name values)
  given (Service.checkValues name [] entries)
  let d ← given ((Value.readEnum (.map [(.str "members", .map entries)])).mapError .invalid)
  modify (writeType name d)
  return d

/-- Registers a definition under a name that has been checked; an enumeration is handed on, and its
name is checked again. -/
def define (name : Value) : TypeDef → Action Service TypeDef
  | .enum members => registerEnum name (.map (members.map fun (label, n) => (.str label, .int n)))
  | .struct fields => do
    looks (·.checkFields name fields)
    modify (writeType name (.struct fields))
    return .struct fields

def registerDefinition (name : Value) (d : TypeDef) : Action Service TypeDef := do
  looks (·.checkTypeName name)
  define name d

def registerType (name definition : Value) : Action Service TypeDef := do
  looks (·.checkTypeName name)
  match definition with
  | .map r =>
    if ((Value.get? r "kind").getD (.str "struct")).same (.str "enum") then
      match Value.get? r "members" with
      | some members => registerEnum name members
      | none => throw (.fault .noKey)
    else
      let d ← given ((Value.readStruct definition).mapError .invalid)
      define name d
  | _ => throw (.fault .noAttribute)

def checkFree (name : String) (s : Service) : Except Failure Unit :=
  if name ∈ s.methodNames then .error (.alreadyDefined (.str name) "method") else .ok ()

def checkNotNamespace (name : String) (s : Service) : Except Failure Unit :=
  if name ∈ s.impliedNamespaces then .error (.alreadyDefined (.str name) "namespace") else .ok ()

def registerMethod (m : Method) : Action Service Method := do
  looks (checkFree m.name)
  looks (checkNotNamespace m.name)
  looks (·.checkAncestors m.name)
  looks (·.checkParams m.name m.params)
  looks (·.checkReturn m)
  modify (writeMethod m)
  return m

/-- Registers a method that is given read or by its fields, but not both. -/
def registerGiven : Option Method → Record → Action Service Method
  | none, fields => given (Value.readMethod (.map fields)) >>= registerMethod
  | some m, [] => registerMethod m
  | some _, _ :: _ => throw (.usage .definitionAndFields)

def registerGivenIn (scope : Scope) : Option Method → Record → Action Service Method
  | none, fields => given (scope.qualifyRecord fields) >>= registerGiven none
  | some m, fields => registerGiven (some { m with name := scope.qualify (.str m.name) }) fields

def registerEvent (name type description : Value) : Action Service Event := do
  looks (·.checkEventName name)
  let e ← given (Value.readEvent name type description)
  match name with
  | .str _ =>
    looks (·.checkAncestors e.name)
    match e.type with
    | some t => looks (·.resolve t e.name)
    | none => pure ()
    modify (writeEvent e)
    return e
  | _ => throw (.fault .wrongKind)

-- ---------------------------------------------------------------------------
-- The programs and the functions
-- ---------------------------------------------------------------------------

variable {s t : Service}

theorem write_new (h : entries.any isNamed = false) :
    write isNamed renew new entries = entries ++ [new] := by
  simp [write, h]

theorem writeType_new (h : s.hasType name = false) : writeType name d s = s.addType name d := by
  have hfree := (Bool.or_eq_false_iff.mp h).1
  simp only [writeType, write_new hfree]
  rfl

theorem writeMethod_new (h : m.name ∉ s.methodNames) :
    writeMethod m s = { s with methods := s.methods ++ [m] } := by
  have hfree : s.methods.any (·.name == m.name) = false :=
    List.any_eq_false.mpr fun n hn => by
      rw [beq_iff_eq]
      exact fun hname => h (hname ▸ List.mem_map_of_mem hn)
  simp only [writeMethod, write_new hfree]

theorem writeEvent_new (h : e.name ∉ s.eventNames) :
    writeEvent e s = { s with events := s.events ++ [e] } := by
  have hfree : s.events.any (·.name == e.name) = false :=
    List.any_eq_false.mpr fun f hf => by
      rw [beq_iff_eq]
      exact fun hname => h (hname ▸ List.mem_map_of_mem hf)
  simp only [writeEvent, write_new hfree]

theorem registerEnum_run :
    registerEnum name values s = outcome s (s.registerEnum name values) := by
  refine looks_bind_run fun _ hname => given_bind_run fun entries _ => ?_
  refine given_bind_run fun _ _ => given_bind_run fun d _ => ?_
  rw [bind_run, modify_run, writeType_new (Service.checkTypeName_ok hname)]
  rfl

/-- A name that was found free once is found free again. -/
theorem checkTypeName_bind {x : Except Failure α} (h : s.checkTypeName name = .ok u) :
    (s.checkTypeName name >>= fun _ => x) = x := by
  rw [h]
  rfl

theorem define_run (h : s.checkTypeName name = .ok u) :
    define name d s = outcome s (s.registerDefinition name d) := by
  unfold Service.registerDefinition
  rw [checkTypeName_bind h]
  cases d with
  | enum members =>
    simp only [define]
    rw [registerEnum_run, Service.registerEnum, checkTypeName_bind h]
    rfl
  | struct fields =>
    refine looks_bind_run fun _ _ => ?_
    rw [bind_run, modify_run, writeType_new (Service.checkTypeName_ok h)]
    rfl

theorem registerDefinition_run :
    registerDefinition name d s = outcome s (s.registerDefinition name d) := by
  have hlook : registerDefinition name d s =
      outcome s (s.checkTypeName name >>= fun _ => s.registerDefinition name d) :=
    looks_bind_run fun _ hname => define_run hname
  refine hlook.trans (congrArg (outcome s) ?_)
  unfold Service.registerDefinition
  cases s.checkTypeName name <;> rfl

theorem registerType_run :
    registerType name definition s = outcome s (s.registerType name definition) := by
  refine looks_bind_run fun _ hname => ?_
  cases definition with
  | map r =>
    simp only
    by_cases hkind : ((Value.get? r "kind").getD (.str "struct")).same (.str "enum") = true
    · rw [if_pos hkind, if_pos hkind]
      cases Value.get? r "members" with
      | some members => exact registerEnum_run
      | none => rfl
    · rw [if_neg hkind, if_neg hkind]
      exact given_bind_run fun d _ => define_run hname
  | _ => rfl

theorem checkFree_ok (h : checkFree name s = .ok u) : name ∉ s.methodNames := by
  unfold checkFree at h
  split at h
  · cases h
  · assumption

/-- A method, registered by the function on services, with its checks one after the other. -/
theorem registerMethod_eq : (·, m) <$> s.registerMethod m = do
    checkFree m.name s
    checkNotNamespace m.name s
    s.checkAncestors m.name
    s.checkParams m.name m.params
    s.checkReturn m
    return ({ s with methods := s.methods ++ [m] }, m) := by
  unfold Service.registerMethod checkFree checkNotNamespace
  by_cases hm : m.name ∈ s.methodNames
  · simp only [hm, if_true]
    rfl
  by_cases hn : m.name ∈ s.impliedNamespaces
  · simp only [hm, hn, if_true, if_false]
    rfl
  simp only [hm, hn, if_false, map_bind, map_pure]
  rfl

theorem registerMethod_run :
    registerMethod m s = outcome s ((·, m) <$> s.registerMethod m) := by
  rw [registerMethod_eq]
  refine looks_bind_run fun _ hfree => looks_bind_run fun _ _ => looks_bind_run fun _ _ => ?_
  refine looks_bind_run fun _ _ => looks_bind_run fun _ _ => ?_
  rw [bind_run, modify_run, writeMethod_new (checkFree_ok hfree)]
  rfl

theorem registerGiven_run :
    registerGiven none fields s = outcome s (s.registerMethodRecord fields) := by
  refine given_bind_run fun m _ => registerMethod_run.trans (congrArg (outcome s) ?_)
  simp only [map_eq_pure_bind]

theorem registerGivenIn_run {scope : Scope} :
    registerGivenIn scope none fields s = outcome s (scope.registerMethodRecord s fields) :=
  given_bind_run fun _ _ => registerGiven_run

theorem registerGivenIn_run_read {scope : Scope} :
    registerGivenIn scope (some m) [] s = outcome s (scope.registerMethod s m) := by
  refine registerMethod_run.trans (congrArg (outcome s) ?_)
  simp only [Scope.registerMethod, map_eq_pure_bind]

theorem registerEvent_run :
    registerEvent name type description s = outcome s (s.registerEvent name type description) := by
  refine looks_bind_run fun _ hname => given_bind_run fun e hread => ?_
  cases name with
  | str n =>
    have hfree : e.name ∉ s.eventNames := by
      rw [Service.name_readEvent hread]
      exact Service.checkEventName_ok.mp hname
    have hwrite : (modify (writeEvent e) >>= fun _ => pure e : Action Service Event) s =
        outcome s (.ok ({ s with events := s.events ++ [e] }, e)) := by
      rw [bind_run, modify_run, writeEvent_new hfree]
      rfl
    simp only [Service.registerReadEvent, bind_assoc]
    refine looks_bind_run fun _ _ => ?_
    cases e.type with
    | some t =>
      simp only [bind_assoc]
      exact looks_bind_run fun _ _ => hwrite
    | none => exact hwrite
  | _ => rfl

-- ---------------------------------------------------------------------------
-- Registrations
-- ---------------------------------------------------------------------------

inductive Submission where
  | type (name definition : Value)
  /-- A type that is already read. -/
  | definition (name : Value) (d : TypeDef)
  | enum (name values : Value)
  /-- A method that is already read, or its fields, or even both. -/
  | method (scopes : List Value) (known : Option Method) (fields : Record)
  | event (scopes : List Value) (name ref description : Value)

inductive Entry where
  | type (d : TypeDef)
  | method (m : Method)
  | event (e : Event)

def submit : Submission → Action Service Entry
  | .type name definition => .type <$> registerType name definition
  | .definition name d => .type <$> registerDefinition name d
  | .enum name values => .type <$> registerEnum name values
  | .method scopes known fields => do
    match ← given (Scope.innermost scopes) with
    | none => .method <$> registerGiven known fields
    | some scope => .method <$> registerGivenIn scope known fields
  | .event scopes name ref description => do
    match ← given (Scope.innermost scopes) with
    | none => .event <$> registerEvent name ref description
    | some scope => .event <$> registerEvent (.str (scope.qualify name)) ref description

def qualified? (scopes : List Value) (name : Value) : Option Value :=
  match Scope.innermost scopes with
  | .ok none => some name
  | .ok (some scope) => some (.str (scope.qualify name))
  | .error _ => none

def methodName? : Option Method → Record → Option Value
  | some m, _ => some (.str m.name)
  | none, fields => Value.get? fields "name"

def Submission.name? : Submission → Option Value
  | .type name _ => some name
  | .definition name _ => some name
  | .enum name _ => some name
  | .method scopes known fields => (methodName? known fields).bind (qualified? scopes)
  | .event scopes name _ _ => qualified? scopes name

/-- A service has one entry more than before, of a new name and the last of its kind. -/
inductive Gains (s : Service) : Value → Entry → Service → Prop
  | type (hnew : s.hasType name = false) :
    Gains s name (.type d) { s with types := s.types ++ [(name, d)] }
  /-- A name given as bytes is read as a text. -/
  | method (hname : name.readText = .ok m.name) (hnew : m.name ∉ s.methodNames) :
    Gains s name (.method m) { s with methods := s.methods ++ [m] }
  | event (hname : name = .str e.name) (hnew : e.name ∉ s.eventNames) :
    Gains s name (.event e) { s with events := s.events ++ [e] }

def submission : Registration → Submission
  | .type name definition => .type name definition
  | .definition name d => .definition name d
  | .enum name values => .enum name values
  | .method scopes r => .method scopes none r
  | .readMethod scopes m => .method scopes (some m) []
  | .event scopes name ref description => .event scopes name ref description

theorem register_eq_result (r : Registration) (s : Service) :
    s.register r = (submit (submission r)).result s := by
  cases r with
  | type name definition => exact (result_map.trans (result_of_outcome registerType_run)).symm
  | definition name d => exact (result_map.trans (result_of_outcome registerDefinition_run)).symm
  | enum name values => exact (result_map.trans (result_of_outcome registerEnum_run)).symm
  | method scopes r =>
    refine (bind_congr fun scope => ?_).trans result_given_bind.symm
    cases scope with
    | none => exact (result_map.trans (result_of_outcome registerGiven_run)).symm
    | some scope => exact (result_map.trans (result_of_outcome registerGivenIn_run)).symm
  | readMethod scopes m =>
    refine (bind_congr fun scope => ?_).trans result_given_bind.symm
    cases scope with
    | none =>
      refine Eq.symm (result_map.trans ((result_of_outcome registerMethod_run).trans ?_))
      cases s.registerMethod m <;> rfl
    | some scope => exact (result_map.trans (result_of_outcome registerGivenIn_run_read)).symm
  | event scopes name ref description =>
    refine (bind_congr fun scope => ?_).trans result_given_bind.symm
    cases scope with
    | none => exact (result_map.trans (result_of_outcome registerEvent_run)).symm
    | some scope => exact (result_map.trans (result_of_outcome registerEvent_run)).symm

-- ---------------------------------------------------------------------------
-- Names that are read
-- ---------------------------------------------------------------------------

theorem qualifyRecord_ok {scope : Scope} (h : scope.qualifyRecord r = .ok r') : ∃ v,
    Value.get? r "name" = some v ∧ Value.get? r' "name" = some (.str (scope.qualify v)) := by
  unfold Scope.qualifyRecord at h
  split at h
  · rename_i v hv
    cases h
    exact ⟨v, hv, by rw [Document.get?_assign, if_pos rfl]⟩
  · cases h

-- ---------------------------------------------------------------------------
-- All or nothing
-- ---------------------------------------------------------------------------

theorem registerType_gains : (registerType name definition).AllOrNothing s fun d t =>
    Gains s name (.type d) t :=
  .of_outcome registerType_run fun t d h => by
    obtain ⟨hd, rfl⟩ := Service.registerType_ok h
    exact .type hd.fresh

theorem registerDefinition_gains : (registerDefinition name d).AllOrNothing s fun d t =>
    Gains s name (.type d) t :=
  .of_outcome registerDefinition_run fun t d h => by
    obtain ⟨hd, rfl⟩ := Service.registerDefinition_ok h
    exact .type hd.fresh

theorem registerEnum_gains : (registerEnum name values).AllOrNothing s fun d t =>
    Gains s name (.type d) t :=
  .of_outcome registerEnum_run fun t d h => by
    obtain ⟨hd, rfl⟩ := Service.registerEnum_ok h
    exact .type hd.fresh

theorem registerMethod_gains (hname : name.readText = .ok m.name) :
    (registerMethod m).AllOrNothing s fun m' t => Gains s name (.method m') t :=
  .of_outcome registerMethod_run fun t m' h => by
    obtain ⟨t', hm, heq⟩ := map_ok.mp h
    cases heq
    obtain ⟨hadmits, rfl⟩ := Service.registerMethod_ok.mp hm
    exact .method hname hadmits.fresh

theorem registerGiven_gains : (registerGiven known fields).AllOrNothing s fun m t =>
    ∃ name, methodName? known fields = some name ∧ Gains s name (.method m) t := by
  cases known with
  | none =>
    refine .given_bind fun m hm => ?_
    obtain ⟨⟨v, hv, hname⟩, -⟩ := Service.readMethod_ok hm
    exact (registerMethod_gains hname).imp fun _ _ h => ⟨v, hv, h⟩
  | some m =>
    cases fields with
    | nil => exact (registerMethod_gains rfl).imp fun _ _ h => ⟨_, rfl, h⟩
    | cons _ _ => rfl

theorem registerGivenIn_gains {scope : Scope} :
    (registerGivenIn scope known fields).AllOrNothing s fun m t =>
      ∃ name, methodName? known fields = some name ∧
        Gains s (.str (scope.qualify name)) (.method m) t := by
  cases known with
  | none =>
    refine .given_bind fun r hr => ?_
    obtain ⟨v, hv, hqualified⟩ := qualifyRecord_ok hr
    refine registerGiven_gains.imp fun _ _ ⟨name, hname, h⟩ => ⟨v, hv, ?_⟩
    cases hqualified.symm.trans hname
    exact h
  | some m =>
    refine registerGiven_gains.imp fun _ _ ⟨name, hname, h⟩ => ⟨.str m.name, rfl, ?_⟩
    cases hname
    exact h

theorem registerEvent_gains : (registerEvent name ref description).AllOrNothing s fun e t =>
    Gains s name (.event e) t :=
  .of_outcome registerEvent_run fun t e h => by
    cases name with
    | str n =>
      obtain ⟨_, hfree, h⟩ := bind_ok.mp h
      obtain ⟨e', hread, h⟩ := bind_ok.mp h
      obtain ⟨t', ht, heq⟩ := bind_ok.mp h
      cases heq
      obtain ⟨-, rfl⟩ := Service.registerReadEvent_ok.mp ht
      have hname := Service.name_readEvent hread
      exact .event (by rw [hname]) (by rw [hname]; exact Service.checkEventName_ok.mp hfree)
    | _ =>
      obtain ⟨_, -, h⟩ := bind_ok.mp h
      obtain ⟨_, -, h⟩ := bind_ok.mp h
      cases h

/-- A registration either fails and leaves the service as it was, or the service gains exactly one
entry, the last of its kind, under the name asked for. -/
theorem submit_all_or_nothing (x : Submission) (s : Service) :
    (submit x).AllOrNothing s fun entry t => ∃ name, x.name? = some name ∧ Gains s name entry t := by
  cases x with
  | type name definition => exact .map (registerType_gains.imp fun _ _ h => ⟨name, rfl, h⟩)
  | definition name d => exact .map (registerDefinition_gains.imp fun _ _ h => ⟨name, rfl, h⟩)
  | enum name values => exact .map (registerEnum_gains.imp fun _ _ h => ⟨name, rfl, h⟩)
  | method scopes known fields =>
    refine .given_bind fun scope hscope => ?_
    cases scope with
    | none =>
      refine .map (registerGiven_gains.imp fun _ _ ⟨name, hname, h⟩ => ⟨name, ?_, h⟩)
      simp [Submission.name?, hname, qualified?, hscope]
    | some scope =>
      refine .map (registerGivenIn_gains.imp fun _ _ ⟨name, hname, h⟩ => ⟨_, ?_, h⟩)
      simp [Submission.name?, hname, qualified?, hscope]
  | event scopes name ref description =>
    refine .given_bind fun scope hscope => ?_
    cases scope with
    | none =>
      refine .map (registerEvent_gains.imp fun _ _ h => ⟨name, ?_, h⟩)
      simp [Submission.name?, qualified?, hscope]
    | some scope =>
      refine .map (registerEvent_gains.imp fun _ _ h => ⟨_, ?_, h⟩)
      simp [Submission.name?, qualified?, hscope]

end Live

end Farcall
