import Farcall.Proofs.Emissions
import Farcall.Proofs.TreeReplay

/-!
# Running a generated class

The statements of a generated class use imported names, which the enumerations of the class may
hide. A statement runs if it sees the names it needs and if the tree admits it; what the class holds
afterwards follows from the statements alone. The texts of a service are made of scalar values here.
-/

namespace Farcall

-- ---------------------------------------------------------------------------
-- Texts that literals give back
-- ---------------------------------------------------------------------------

namespace Python

theorem readChar_ne (h : 0x10000 ≤ c.toNat) (more : List Nat) :
    readChar c ++ more ≠ c.toNat :: rest := by
  have hvalid := Json.valid_toNat c
  rw [readChar, if_neg (by omega)]
  simp only [List.cons_append, ne_eq, List.cons.injEq, not_and]
  omega

theorem readsBack_iff : readsBack s = true ↔ ∀ c ∈ s.toList, c.toNat < 0x10000 := by
  rw [readsBack, readLiteral, beq_iff_eq]
  induction s.toList with
  | nil => simp
  | cons c cs ih =>
    rw [List.forall_mem_cons, ← ih, List.flatMap_cons, List.map_cons]
    by_cases hc : c.toNat < 0x10000
    · simp [readChar, hc]
    · simp only [hc, false_and, iff_false]
      exact readChar_ne (by omega) _

end Python

open Python (Statement inside outside)

namespace ProxyClass

variable {c c' : ProxyClass} {name other : String}

-- ---------------------------------------------------------------------------
-- Codecs by name
-- ---------------------------------------------------------------------------

theorem checkVisible_ok : c.checkVisible name = .ok u ↔ c.enums.lookup name = none := by
  unfold checkVisible
  cases c.enums.lookup name <;> simp

theorem lookup_filter_ne (entries : List (String × Codec)) (h : other ≠ name) :
    (entries.filter (·.1 ≠ name)).lookup other = entries.lookup other := by
  induction entries with
  | nil => rfl
  | cons e entries ih =>
    obtain ⟨key, codec⟩ := e
    by_cases hkey : key = name
    · have hother : (other == key) = false := beq_eq_false_iff_ne.mpr (hkey ▸ h)
      rw [List.filter_cons_of_neg (by simpa using hkey), List.lookup_cons, hother, ih]
    · rw [List.filter_cons_of_pos (by simpa using hkey), List.lookup_cons, List.lookup_cons, ih]

theorem lookup_assign (c : ProxyClass) (name : String) (codec : Codec) (other : String) :
    (c.assign name codec).enums.lookup other =
      if other = name then some codec else c.enums.lookup other := by
  rw [assign, List.lookup_append]
  by_cases h : other = name
  · subst h
    have hnone : (c.enums.filter (·.1 ≠ other)).lookup other = none :=
      Tree.lookup_eq_none_iff.mpr (by simp)
    rw [hnone]
    simp
  · rw [lookup_filter_ne _ h, if_neg h, List.lookup_cons, beq_eq_false_iff_ne.mpr h]
    simp

-- ---------------------------------------------------------------------------
-- One statement
-- ---------------------------------------------------------------------------

def codecOf (name : String) (members : List (String × Int)) : Codec :=
  ⟨name, Codec.entriesOf members⟩

/-- Whether a statement finds the imported names that it makes use of. -/
def Sees (c : ProxyClass) : Statement → Prop
  | .enum _ _ => c.enums.lookup codecName = none
  | .tree => c.enums.lookup treeName = none
  | .addMethod _ _ _ _ => c.enums.lookup stubName = none
  | .attach _ _ => c.name ≠ codecName ∧ c.name ≠ setterName
  | .addNamespace _ => True
  | .events _ => True

/-- Whether the codec that a statement builds can be built. -/
def Codable : Statement → Prop
  | .enum name members => Codec.ofMembers name members = .ok (codecOf name members)
  | .attach name members => Codec.ofMembers name members = .ok (codecOf name members)
  | _ => True

def define (c : ProxyClass) : Statement → ProxyClass
  | .enum name members => c.assign (Text.identifierForm name) (codecOf name members)
  | .attach name members => c.assign name (codecOf name members)
  | .events names => { c with events := names.map Python.readLiteral }
  | _ => c

def withTree (c : ProxyClass) (t : Tree) : ProxyClass :=
  { c with tree := t }

@[simp] theorem tree_withTree (c : ProxyClass) (t : Tree) : (c.withTree t).tree = t := rfl

@[simp] theorem withTree_withTree (c : ProxyClass) (t t' : Tree) :
    (c.withTree t).withTree t' = c.withTree t' := rfl

theorem define_withTree (c : ProxyClass) (t : Tree) (st : Statement) :
    (c.withTree t).define st = (c.define st).withTree t := by
  cases st <;> rfl

theorem sees_withTree (c : ProxyClass) (t : Tree) (st : Statement) :
    (c.withTree t).Sees st ↔ c.Sees st := by
  cases st <;> exact Iff.rfl

/-- A statement runs exactly if it finds the names it makes use of and the tree admits it. -/
theorem execute_ok (hst : Codable st) : c.execute st = .ok c' ↔
    c.Sees st ∧ ∃ t, Tree.execute c.tree st = .ok t ∧ c' = (c.define st).withTree t := by
  cases st with
  | enum name members =>
    have hcodec : Codec.ofMembers name members = .ok (codecOf name members) := hst
    simp only [execute, bind_ok, checkVisible_ok, hcodec, pure_ok]
    constructor
    · rintro ⟨_, hsees, _, hbuilt, rfl⟩
      cases hbuilt
      exact ⟨hsees, _, rfl, rfl⟩
    · rintro ⟨hsees, _, ht, rfl⟩
      cases ht
      exact ⟨(), hsees, _, rfl, rfl⟩
  | tree =>
    simp only [execute, bind_ok, checkVisible_ok, pure_ok]
    constructor
    · rintro ⟨_, hsees, rfl⟩
      exact ⟨hsees, _, rfl, rfl⟩
    · rintro ⟨hsees, _, ht, rfl⟩
      cases ht
      exact ⟨(), hsees, rfl⟩
  | addNamespace path =>
    simp only [execute, bind_ok, pure_ok]
    constructor
    · rintro ⟨t, ht, rfl⟩
      exact ⟨trivial, t, ht, rfl⟩
    · rintro ⟨-, t, ht, rfl⟩
      exact ⟨t, ht, rfl⟩
  | addMethod name params expectReturn doc =>
    simp only [execute, bind_ok, checkVisible_ok, pure_ok]
    constructor
    · rintro ⟨_, hsees, t, ht, rfl⟩
      exact ⟨hsees, t, ht, rfl⟩
    · rintro ⟨hsees, t, ht, rfl⟩
      exact ⟨(), hsees, t, ht, rfl⟩
  | events names =>
    constructor
    · intro h
      cases h
      exact ⟨trivial, _, rfl, rfl⟩
    · rintro ⟨-, _, ht, rfl⟩
      cases ht
      rfl
  | attach name members =>
    have hcodec : Codec.ofMembers name members = .ok (codecOf name members) := hst
    by_cases hhidden : c.name = codecName ∨ c.name = setterName
    · simp only [execute, if_pos hhidden, reduceCtorEq, false_iff]
      rintro ⟨⟨hcodecs, hsetter⟩, -⟩
      exact hhidden.elim hcodecs hsetter
    · simp only [execute, if_neg hhidden, bind_ok, hcodec, pure_ok]
      constructor
      · rintro ⟨_, hbuilt, rfl⟩
        cases hbuilt
        exact ⟨not_or.mp hhidden, _, rfl, rfl⟩
      · rintro ⟨-, _, ht, rfl⟩
        cases ht
        exact ⟨_, rfl, rfl⟩

-- ---------------------------------------------------------------------------
-- All statements
-- ---------------------------------------------------------------------------

def defineAll (c : ProxyClass) (ss : List Statement) : ProxyClass :=
  ss.foldl define c

/-- Whether each statement finds the names it makes use of, after those before it. -/
def AllSee (c : ProxyClass) : List Statement → Prop
  | [] => True
  | st :: ss => c.Sees st ∧ (c.define st).AllSee ss

theorem defineAll_withTree (c : ProxyClass) (t : Tree) (ss : List Statement) :
    (c.withTree t).defineAll ss = (c.defineAll ss).withTree t := by
  induction ss generalizing c with
  | nil => rfl
  | cons st ss ih =>
    rw [defineAll, List.foldl_cons, define_withTree]
    exact ih (c.define st)

theorem allSee_withTree (c : ProxyClass) (t : Tree) (ss : List Statement) :
    (c.withTree t).AllSee ss ↔ c.AllSee ss := by
  induction ss generalizing c with
  | nil => exact Iff.rfl
  | cons st ss ih => rw [AllSee, AllSee, sees_withTree, define_withTree, ih]

/-- Statements run exactly if each finds the names it makes use of and the tree can be built. -/
theorem executeAll_ok (hss : ∀ st ∈ ss, Codable st) : ss.foldlM execute c = .ok c' ↔
    c.AllSee ss ∧
      ∃ t, ss.foldlM Tree.execute c.tree = .ok t ∧ c' = (c.defineAll ss).withTree t := by
  induction ss generalizing c with
  | nil =>
    simp only [List.foldlM_nil, pure_ok, AllSee, true_and]
    constructor
    · rintro rfl
      exact ⟨_, rfl, rfl⟩
    · rintro ⟨_, rfl, rfl⟩
      rfl
  | cons st ss ih =>
    obtain ⟨hst, hss⟩ := List.forall_mem_cons.mp hss
    have hdefine (t : Tree) :
        ((c.define st).withTree t).defineAll ss = (c.defineAll (st :: ss)).withTree t :=
      defineAll_withTree _ t ss
    simp only [List.foldlM_cons, bind_ok, execute_ok hst, ih hss, AllSee]
    constructor
    · rintro ⟨_, ⟨hsees, t, ht, rfl⟩, hall, t', ht', rfl⟩
      rw [hdefine]
      exact ⟨⟨hsees, (allSee_withTree _ t ss).mp hall⟩, t', ⟨t, ht, ht'⟩, rfl⟩
    · rintro ⟨⟨hsees, hall⟩, t', ⟨t, ht, ht'⟩, rfl⟩
      refine ⟨_, ⟨hsees, t, ht, rfl⟩, (allSee_withTree _ t ss).mpr hall, t', ht', ?_⟩
      rw [hdefine]
      rfl

theorem defineAll_append (c : ProxyClass) (ss ss' : List Statement) :
    c.defineAll (ss ++ ss') = (c.defineAll ss).defineAll ss' :=
  List.foldl_append

theorem allSee_append : c.AllSee (ss ++ ss') ↔ c.AllSee ss ∧ (c.defineAll ss).AllSee ss' := by
  induction ss generalizing c with
  | nil => simp [AllSee, defineAll]
  | cons st ss ih =>
    rw [List.cons_append, AllSee, AllSee, ih, and_assoc]
    rfl

def assignment? : Statement → Option (String × Codec)
  | .enum name members => some (Text.identifierForm name, codecOf name members)
  | .attach name members => some (name, codecOf name members)
  | _ => none

theorem lookup_define_of_some (h : assignment? st = some a) (c : ProxyClass) (key : String) :
    (c.define st).enums.lookup key = if key = a.1 then some a.2 else c.enums.lookup key := by
  cases st <;> cases h <;> exact lookup_assign c _ _ key

theorem lookup_define_of_none (h : assignment? st = none) (c : ProxyClass) (key : String) :
    (c.define st).enums.lookup key = c.enums.lookup key := by
  cases st <;> first | rfl | cases h

theorem lookup_defineAll_eq_none : (c.defineAll ss).enums.lookup key = none ↔
    c.enums.lookup key = none ∧ ∀ st ∈ ss, ∀ a, assignment? st = some a → a.1 ≠ key := by
  induction ss generalizing c with
  | nil => simp [defineAll]
  | cons st ss ih =>
    rw [List.forall_mem_cons]
    refine (ih (c := c.define st)).trans ?_
    cases ha : assignment? st with
    | none => simp [lookup_define_of_none ha]
    | some a =>
      rw [lookup_define_of_some ha]
      by_cases hkey : key = a.1
      · simp [hkey]
      · simp [hkey, Ne.symm hkey]

/-- If all statements that assign a name assign it one codec, that is found there. -/
theorem lookup_defineAll_eq_some (hall : ∀ st ∈ ss, ∀ a, assignment? st = some a → a.1 = key →
      a.2 = codec)
    (hsome : c.enums.lookup key = some codec ∨ ∃ st ∈ ss, assignment? st = some (key, codec)) :
    (c.defineAll ss).enums.lookup key = some codec := by
  induction ss generalizing c with
  | nil => simpa [defineAll] using hsome
  | cons st ss ih =>
    obtain ⟨hst, hall⟩ := List.forall_mem_cons.mp hall
    -- A codec once found there stays: later statements only assign the same one.
    refine ih (c := c.define st) hall ?_
    rcases hsome with hold | ⟨x, hx, hassigned⟩
    · left
      cases ha : assignment? st with
      | none => rw [lookup_define_of_none ha, hold]
      | some a =>
        rw [lookup_define_of_some ha, hold]
        split
        · rename_i hkey
          rw [hst a ha hkey.symm]
        · rfl
    · rcases List.mem_cons.mp hx with rfl | hx
      · left
        rw [lookup_define_of_some hassigned, if_pos rfl]
      · exact .inr ⟨x, hx, hassigned⟩

-- ---------------------------------------------------------------------------
-- What the statements of a service see
-- ---------------------------------------------------------------------------

theorem allSee_of_forall (h : ∀ st ∈ ss, ∀ c : ProxyClass, c.Sees st) : c.AllSee ss := by
  induction ss generalizing c with
  | nil => trivial
  | cons st ss ih =>
    obtain ⟨hst, hss⟩ := List.forall_mem_cons.mp h
    exact ⟨hst c, ih hss⟩

/-- Each enumeration but the last of the class body must leave the name of the codec alone. -/
theorem allSee_inside {xs : List (String × List (String × Int))}
    (h : c.enums.lookup codecName = none) : c.AllSee (xs.map .ofInside) ↔
      ∀ x ∈ xs.dropLast, Text.identifierForm x.1 ≠ codecName := by
  induction xs generalizing c with
  | nil => simp [AllSee]
  | cons x xs ih =>
    cases xs with
    | nil => simpa [AllSee, Sees, Statement.ofInside] using h
    | cons y xs =>
      have hnext : (c.define (.ofInside x)).enums.lookup codecName =
          if codecName = Text.identifierForm x.1 then some (codecOf x.1 x.2)
          else c.enums.lookup codecName :=
        lookup_assign c _ _ codecName
      rw [List.dropLast_cons_cons, List.forall_mem_cons, List.map_cons, AllSee]
      -- The statement that hides the codec still runs; the one after it does not.
      by_cases hx : Text.identifierForm x.1 = codecName
      · have hhidden : ¬ (c.define (.ofInside x)).Sees (.ofInside y) := by
          intro hsees
          have hsees : (c.define (.ofInside x)).enums.lookup codecName = none := hsees
          rw [hnext, if_pos hx.symm] at hsees
          cases hsees
        simp only [List.map_cons, AllSee, hhidden, hx, ne_eq, not_true_eq_false, false_and,
          and_false]
      · have hfree : (c.define (.ofInside x)).enums.lookup codecName = none := by
          rw [hnext, if_neg (Ne.symm hx), h]
        rw [ih hfree]
        simp only [hx, ne_eq, not_false_eq_true, true_and, and_iff_right_iff_imp]
        exact fun _ => h

theorem allSee_methods {ms : List Method} :
    c.AllSee (ms.map Python.methodStatement) ↔ ms = [] ∨ c.enums.lookup stubName = none := by
  induction ms with
  | nil => simp [AllSee]
  | cons m ms ih =>
    have hdefine : c.define (Python.methodStatement m) = c := rfl
    have hsees : c.Sees (Python.methodStatement m) ↔ c.enums.lookup stubName = none := Iff.rfl
    rw [List.map_cons, AllSee, hdefine, hsees, ih]
    simp only [reduceCtorEq, false_or, and_iff_left_iff_imp]
    exact Or.inr

theorem allSee_outside {xs : List (String × List (String × Int))} :
    c.AllSee (xs.map .ofOutside) ↔ xs = [] ∨ (c.name ≠ codecName ∧ c.name ≠ setterName) := by
  induction xs generalizing c with
  | nil => simp [AllSee]
  | cons x xs ih =>
    have hsees : c.Sees (.ofOutside x) ↔ c.name ≠ codecName ∧ c.name ≠ setterName := Iff.rfl
    have hname : (c.define (.ofOutside x)).name = c.name := rfl
    rw [List.map_cons, AllSee, ih, hsees, hname]
    simp only [reduceCtorEq, false_or, and_iff_left_iff_imp]
    exact Or.inr

theorem view_defineAll (view : ProxyClass → α)
    (h : ∀ st ∈ ss, ∀ c : ProxyClass, view (c.define st) = view c) :
    view (c.defineAll ss) = view c := by
  induction ss generalizing c with
  | nil => rfl
  | cons st ss ih =>
    obtain ⟨hst, hss⟩ := List.forall_mem_cons.mp h
    rw [defineAll, List.foldl_cons]
    exact (ih (c := c.define st) hss).trans (hst c)

theorem name_defineAll (c : ProxyClass) (ss : List Statement) :
    (c.defineAll ss).name = c.name :=
  view_defineAll name fun st _ _ => by cases st <;> rfl

theorem lookup_inside {xs : List (String × List (String × Int))}
    (h : c.enums.lookup key = none) : (c.defineAll (xs.map .ofInside)).enums.lookup key = none ↔
      ∀ x ∈ xs, Text.identifierForm x.1 ≠ key := by
  rw [lookup_defineAll_eq_none, List.forall_mem_map]
  simp [h, Statement.ofInside, assignment?]

variable {e : Emission} {s : Service}

/-- An emission whose program runs: nothing that a statement makes use of is hidden from it, and the
names of the methods make a tree. -/
structure Definable (e : Emission) : Prop where
  title : '\x00' ∉ e.title.toList
  className : Text.identifierForm e.className ≠ constantName
  codecs : ∀ x ∈ (inside e.service).dropLast, Text.identifierForm x.1 ≠ codecName
  trees : ∀ x ∈ inside e.service, Text.identifierForm x.1 ≠ treeName
  stubs : e.service.methods = [] ∨ ∀ x ∈ inside e.service, Text.identifierForm x.1 ≠ stubName
  setters : outside e.service = [] ∨ Text.identifierForm e.className ≠ codecName ∧
    Text.identifierForm e.className ≠ setterName
  tree : ∃ t, Tree.ofService e.service = .ok t

theorem allSee_statements : (bare name).AllSee (Python.statements s) ↔
    (∀ x ∈ (inside s).dropLast, Text.identifierForm x.1 ≠ codecName) ∧
    (∀ x ∈ inside s, Text.identifierForm x.1 ≠ treeName) ∧
    (s.methods = [] ∨ ∀ x ∈ inside s, Text.identifierForm x.1 ≠ stubName) ∧
    (outside s = [] ∨ name ≠ codecName ∧ name ≠ setterName) := by
  have hnone (key : String) : (bare name).enums.lookup key = none := rfl
  have htree (c : ProxyClass) : c.defineAll [.tree] = c := rfl
  have hspaces (c : ProxyClass) : c.defineAll (s.namespaces.map .addNamespace) = c := by
    apply view_defineAll id
    simp [define]
  have hmethods (c : ProxyClass) : c.defineAll (s.methods.map Python.methodStatement) = c := by
    apply view_defineAll id
    simp [define, Python.methodStatement]
  have hseeTree (c : ProxyClass) : c.AllSee [.tree] ↔ c.enums.lookup treeName = none := by
    simp [AllSee, Sees]
  have hseeSpaces (c : ProxyClass) : c.AllSee (s.namespaces.map .addNamespace) := by
    apply allSee_of_forall
    simp [Sees]
  have hseeEvents (c : ProxyClass) : c.AllSee (Python.eventStatements s.events) := by
    apply allSee_of_forall
    unfold Python.eventStatements
    split <;> simp [Sees]
  rw [Python.statements_eq]
  simp only [allSee_append, defineAll_append, htree, hspaces, hmethods, hseeTree, hseeSpaces,
    hseeEvents, allSee_inside (hnone _), allSee_methods, allSee_outside, name_defineAll,
    lookup_inside (hnone _), and_true, and_assoc]
  rfl

theorem codable_statements (h : s.Reachable) (haccepts : Python.Accepts ⟨s, name⟩) :
    ∀ st ∈ Python.statements s, Codable st := by
  have hcodec {x : String × List (String × Int)} (hx : (Value.str x.1, x.2) ∈ s.enums) :
      Codec.ofMembers x.1 x.2 = .ok (codecOf x.1 x.2) :=
    Codec.ofMembers_ok (h.typesOk.enumerates _ hx) (haccepts.enums _ hx).labels x.1
  intro st hst
  rw [Python.statements_eq] at hst
  simp only [List.mem_append, List.mem_map, List.mem_singleton] at hst
  rcases hst with ((((⟨x, hx, rfl⟩ | rfl) | ⟨p, -, rfl⟩) | ⟨m, -, rfl⟩) | hevents) | ⟨x, hx, rfl⟩
  · exact hcodec (Python.mem_inside.mp hx).1
  · trivial
  · trivial
  · trivial
  · unfold Python.eventStatements at hevents
    split at hevents
    · cases hevents
    · obtain rfl := List.mem_singleton.mp hevents
      trivial
  · exact hcodec (Python.mem_outside.mp hx).1

def defined (e : Emission) (t : Tree) : ProxyClass :=
  ((bare (Text.identifierForm e.className)).defineAll (Python.statements e.service)).withTree t

theorem ofProgram_ok (h : e.service.Reachable) (haccepts : Python.Accepts e) :
    ofProgram e = .ok c ↔
      Definable e ∧ ∃ t, Tree.ofService e.service = .ok t ∧ c = defined e t := by
  have hrun : ofStatements (Text.identifierForm e.className) (Python.statements e.service) = .ok c ↔
      (bare (Text.identifierForm e.className)).AllSee (Python.statements e.service) ∧
        ∃ t, Tree.ofService e.service = .ok t ∧ c = defined e t :=
    executeAll_ok (codable_statements h haccepts)
  by_cases hbad : e.title.toList.contains '\x00' ∨ Text.identifierForm e.className = constantName
  · simp only [ofProgram, if_pos hbad, reduceCtorEq, false_iff, not_and]
    intro hd
    rcases hbad with hnull | hconstant
    · exact absurd (by simpa using hnull) hd.title
    · exact absurd hconstant hd.className
  · simp only [ofProgram, if_neg hbad]
    refine hrun.trans ?_
    rw [allSee_statements]
    simp only [not_or, List.contains_iff_mem] at hbad
    constructor
    · rintro ⟨⟨hcodecs, htrees, hstubs, hsetters⟩, t, ht, hc⟩
      exact ⟨⟨hbad.1, hbad.2, hcodecs, htrees, hstubs, hsetters, t, ht⟩, t, ht, hc⟩
    · rintro ⟨hd, t, ht, hc⟩
      exact ⟨⟨hd.codecs, hd.trees, hd.stubs, hd.setters⟩, t, ht, hc⟩

-- ---------------------------------------------------------------------------
-- What the class holds
-- ---------------------------------------------------------------------------

def place (name : String) : String :=
  if Python.isName name then Text.identifierForm name else name

/-- An enumeration that the texts of a class tell apart from others and from nothing else: its codec
stands under its own name and no other does, and the characters of its texts are in the sixteen-bit
range, where literals are read as they are. -/
structure Legible (s : Service) (name : String) (members : List (String × Int)) : Prop where
  place : place name = name
  alone : ∀ x ∈ s.enums, ∀ other, x.1 = .str other → ProxyClass.place other = name → other = name
  name : Python.isName name = true ∨ ∀ c ∈ name.toList, c.toNat < 0x10000
  labels : ∀ m ∈ members, ∀ c ∈ m.1.toList, c.toNat < 0x10000

/-- A class with the codecs and the events of a service. The events are what their literals are read
as: their names, if all of these are in the sixteen-bit range. -/
structure Carries (c : ProxyClass) (s : Service) : Prop where
  codec : ∀ name members, (Value.str name, members) ∈ s.enums → Legible s name members →
    ∃ codec, c.enum? name = some codec ∧ codec.entries = Codec.entriesOf members
  events : c.events = s.eventNames.map Python.readLiteral
  eventNames : (∀ name ∈ s.eventNames, ∀ c ∈ name.toList, c.toNat < 0x10000) →
    c.events = s.eventNames.map fun name => name.toList.map Char.toNat

theorem assignment_place (hst : st ∈ Python.statements s) (ha : assignment? st = some a) :
    ∃ x : String × List (String × Int),
      (Value.str x.1, x.2) ∈ s.enums ∧ a = (place x.1, codecOf x.1 x.2) := by
  rw [Python.statements_eq] at hst
  simp only [List.mem_append, List.mem_map, List.mem_singleton] at hst
  rcases hst with ((((⟨x, hx, rfl⟩ | rfl) | ⟨p, -, rfl⟩) | ⟨m, -, rfl⟩) | hevents) | ⟨x, hx, rfl⟩
  · obtain ⟨hmem, hname⟩ := Python.mem_inside.mp hx
    cases ha
    exact ⟨x, hmem, by rw [place, if_pos hname]⟩
  · cases ha
  · cases ha
  · cases ha
  · unfold Python.eventStatements at hevents
    split at hevents
    · cases hevents
    · obtain rfl := List.mem_singleton.mp hevents
      cases ha
  · obtain ⟨hmem, hname⟩ := Python.mem_outside.mp hx
    cases ha
    exact ⟨x, hmem, by rw [place, if_neg (by simp [hname])]⟩

theorem exists_assignment (h : (Value.str name, members) ∈ s.enums) :
    ∃ st ∈ Python.statements s, assignment? st = some (place name, codecOf name members) := by
  rw [Python.statements_eq]
  cases hname : Python.isName name with
  | true =>
    have hmem : (name, members) ∈ inside s := Python.mem_inside.mpr ⟨h, hname⟩
    refine ⟨.ofInside (name, members), ?_, by simp [Statement.ofInside, assignment?, place, hname]⟩
    simp only [List.mem_append, List.append_assoc]
    exact .inl (List.mem_map_of_mem hmem)
  | false =>
    have hmem : (name, members) ∈ outside s := Python.mem_outside.mpr ⟨h, hname⟩
    refine ⟨.ofOutside (name, members), ?_,
      by simp [Statement.ofOutside, assignment?, place, hname]⟩
    exact List.mem_append_right _ (List.mem_map_of_mem hmem)

theorem lookup_defined (hs : s.TypesOk) (h : (Value.str name, members) ∈ s.enums)
    (hlegible : Legible s name members) (className : String) (t : Tree) :
    (defined ⟨s, className⟩ t).enums.lookup name = some (codecOf name members) := by
  refine lookup_defineAll_eq_some ?_ (.inr ?_)
  · intro st hst a ha hkey
    obtain ⟨x, hx, rfl⟩ := assignment_place hst ha
    have hname : x.1 = name := hlegible.alone _ hx x.1 rfl hkey
    obtain ⟨other, ms⟩ := x
    obtain rfl : other = name := hname
    obtain rfl := hs.members_unique hx h
    rfl
  · obtain ⟨st, hst, ha⟩ := exists_assignment h
    exact ⟨st, hst, by rw [ha, hlegible.place]⟩

theorem fromLiterals_defineAll (c : ProxyClass) (ss : List Statement) :
    (c.defineAll ss).fromLiterals = c.fromLiterals :=
  view_defineAll fromLiterals fun st _ _ => by cases st <;> rfl

theorem events_defined (e : Emission) (t : Tree) :
    (defined e t).events = e.service.eventNames.map Python.readLiteral := by
  have hbefore : ∀ st ∈ (inside e.service).map .ofInside ++ [.tree] ++
      e.service.namespaces.map .addNamespace ++ e.service.methods.map Python.methodStatement,
      ∀ c : ProxyClass, (c.define st).events = c.events := by
    simp only [List.mem_append, List.mem_map, List.mem_singleton]
    rintro st (((⟨x, -, rfl⟩ | rfl) | ⟨p, -, rfl⟩) | ⟨m, -, rfl⟩) c <;> rfl
  have hafter : ∀ st ∈ (outside e.service).map Statement.ofOutside, ∀ c : ProxyClass,
      (c.define st).events = c.events := by
    simp only [List.mem_map]
    rintro st ⟨x, -, rfl⟩ c
    rfl
  rw [defined, Python.statements_eq, defineAll_append, defineAll_append]
  refine (view_defineAll events hafter).trans ?_
  unfold Python.eventStatements Service.eventNames
  cases hevents : e.service.events with
  | nil => exact view_defineAll events hbefore
  | cons event events => rfl

theorem carries_defined (hs : s.TypesOk) (className : String) (t : Tree) :
    (defined ⟨s, className⟩ t).Carries s where
  codec name members h hlegible := by
    refine ⟨codecOf name members, ?_, rfl⟩
    have hliterals : (defined ⟨s, className⟩ t).fromLiterals = true :=
      fromLiterals_defineAll _ _
    have hvisible :
        (Text.isIdentifier name || (defined ⟨s, className⟩ t).answersTo name) = true := by
      rcases hlegible.name with hname | hname
      · simp [(Bool.and_eq_true_iff.mp hname).1]
      · simp [answersTo, Python.readsBack_iff.mpr hname]
    rw [enum?, if_pos hvisible]
    exact lookup_defined hs h hlegible className t
  events := events_defined _ t
  eventNames hread := by
    rw [events_defined]
    exact List.map_congr_left fun name hname =>
      eq_of_beq (Python.readsBack_iff.mpr (hread name hname))

end ProxyClass

end Farcall
