import Farcall.Proofs.Chunks
import Farcall.Proofs.Success
import Farcall.Target.Python
import Mathlib.Data.List.Basic

/-!
# Emitted proxies

The Python target accepts a service by its names alone. What it then writes is the lines of the
statements of the proxy, in sections set off by empty lines.
-/

namespace Farcall.Python

-- ---------------------------------------------------------------------------
-- Accepted names
-- ---------------------------------------------------------------------------

/-- An enumeration that may stand in a proxy with the given members. -/
structure AdmitsEnum (members : List String) (name : Value) (labels : List (String × Int)) :
    Prop where
  text : ∃ s, name = .str s ∧ isReserved s = false ∧ s ∉ members
  labels : ∀ l ∈ labels, Codec.isReserved l.1 = false

/-- An emission whose names are usable. -/
structure Accepts (e : Emission) : Prop where
  className : isName e.className = true
  members : ∀ m ∈ e.rootMembers, isReserved m = false
  enums : ∀ x ∈ e.service.enums, AdmitsEnum e.rootMembers x.1 x.2

theorem checkMembers_ok : checkMembers ms = .ok u ↔ ∀ m ∈ ms, isReserved m = false := by
  induction ms with
  | nil => simp [checkMembers]
  | cons m ms ih =>
    rw [checkMembers, List.forall_mem_cons, ← ih]
    cases isReserved m <;> simp

theorem checkLabels_ok :
    checkLabels name ls = .ok u ↔ ∀ l ∈ ls, Codec.isReserved l = false := by
  induction ls with
  | nil => simp [checkLabels]
  | cons l ls ih =>
    rw [checkLabels, List.forall_mem_cons, ← ih]
    cases Codec.isReserved l <;> simp

theorem checkEnums_ok :
    checkEnums members es = .ok u ↔ ∀ x ∈ es, AdmitsEnum members x.1 x.2 := by
  induction es with
  | nil => simp [checkEnums]
  | cons x es ih =>
    obtain ⟨v, labels⟩ := x
    rw [List.forall_mem_cons, ← ih]
    cases v with
    | str name =>
      by_cases hclash : (isReserved name || name ∈ members) = true
      · simp only [checkEnums, if_pos hclash, bind_ok, throw_ok, false_and, exists_false, false_iff,
          not_and]
        rintro ⟨⟨s, hs, hfree, hout⟩, -⟩
        cases hs
        simp [hfree, hout] at hclash
      · simp only [checkEnums, if_neg hclash, bind_ok, checkLabels_ok, List.mem_map]
        simp only [Bool.or_eq_true, decide_eq_true_eq, not_or, Bool.not_eq_true] at hclash
        constructor
        · rintro ⟨_, hlabels, hrest⟩
          exact ⟨⟨⟨name, rfl, hclash⟩, fun l hl => hlabels l.1 ⟨l, hl, rfl⟩⟩, hrest⟩
        · rintro ⟨⟨-, hlabels⟩, hrest⟩
          refine ⟨(), ?_, hrest⟩
          rintro _ ⟨l, hl, rfl⟩
          exact hlabels l hl
    | _ =>
      simp only [checkEnums, reduceCtorEq, false_iff, not_and]
      rintro ⟨⟨s, hs, -⟩, -⟩
      cases hs

theorem checkNames_ok : checkNames e = .ok u ↔ Accepts e := by
  by_cases hname : isName e.className = true
  · simp only [checkNames, if_pos hname, bind_ok, checkMembers_ok, checkEnums_ok]
    constructor
    · rintro ⟨_, hmembers, henums⟩
      exact ⟨hname, hmembers, henums⟩
    · rintro ⟨-, hmembers, henums⟩
      exact ⟨(), hmembers, henums⟩
  · simp only [checkNames, if_neg hname, bind_ok, throw_ok, false_and, exists_false, false_iff]
    exact fun h => hname h.className

-- ---------------------------------------------------------------------------
-- Written lines
-- ---------------------------------------------------------------------------

def inside (s : Service) : List (String × List (String × Int)) :=
  s.enums.filterMap fun x =>
    match x.1 with
    | .str name => if isName name then some (name, x.2) else none
    | _ => none

def outside (s : Service) : List (String × List (String × Int)) :=
  s.enums.filterMap fun x =>
    match x.1 with
    | .str name => if isName name then none else some (name, x.2)
    | _ => none

theorem mem_inside {s : Service} :
    x ∈ inside s ↔ (Value.str x.1, x.2) ∈ s.enums ∧ isName x.1 = true := by
  simp only [inside, List.mem_filterMap]
  constructor
  · rintro ⟨⟨v, ms⟩, hx, hname⟩
    cases v <;> simp only [reduceCtorEq] at hname
    split at hname <;> cases hname
    rename_i hyes
    exact ⟨hx, hyes⟩
  · rintro ⟨hx, hname⟩
    exact ⟨_, hx, by simp [hname]⟩

theorem mem_outside {s : Service} :
    x ∈ outside s ↔ (Value.str x.1, x.2) ∈ s.enums ∧ isName x.1 = false := by
  simp only [outside, List.mem_filterMap]
  constructor
  · rintro ⟨⟨v, ms⟩, hx, hname⟩
    cases v <;> simp only [reduceCtorEq] at hname
    split at hname <;> cases hname
    rename_i hno
    exact ⟨hx, Bool.eq_false_iff.mpr hno⟩
  · rintro ⟨hx, hname⟩
    exact ⟨_, hx, by simp [hname]⟩

def Statement.ofInside (x : String × List (String × Int)) : Statement := .enum x.1 x.2

def Statement.ofOutside (x : String × List (String × Int)) : Statement := .attach x.1 x.2

theorem flatMap_enumStatements (s : Service) :
    s.enums.flatMap (fun x => enumStatements x.1 x.2) = (inside s).map .ofInside := by
  rw [inside, List.map_filterMap, List.filterMap_eq_flatMap_toList]
  refine List.flatMap_congr fun x _ => ?_
  obtain ⟨name, ms⟩ := x
  cases name <;> simp only [enumStatements, Option.map_none, Option.toList_none]
  split <;> rfl

theorem flatMap_attachStatements (s : Service) :
    s.enums.flatMap (fun x => attachStatements x.1 x.2) = (outside s).map .ofOutside := by
  rw [outside, List.map_filterMap, List.filterMap_eq_flatMap_toList]
  refine List.flatMap_congr fun x _ => ?_
  obtain ⟨name, ms⟩ := x
  cases name <;> simp only [attachStatements, Option.map_none, Option.toList_none]
  split <;> rfl

theorem statements_eq (s : Service) : statements s =
    (inside s).map .ofInside ++ [.tree] ++ s.namespaces.map .addNamespace ++
      s.methods.map methodStatement ++ eventStatements s.events ++ (outside s).map .ofOutside := by
  rw [← flatMap_enumStatements, ← flatMap_attachStatements]
  rfl

theorem closing_eq [Alphabet] (e : Emission) :
    closing e = if outside e.service = [] then [] else
      "" :: linesOf e ((outside e.service).map .ofOutside) := by
  unfold closing
  rw [flatMap_attachStatements]
  cases outside e.service <;> rfl

def sectionsOf [Alphabet] (e : Emission) : List (List String) :=
  [header e, linesOf e ((inside e.service).map .ofInside),
    linesOf e (.tree :: e.service.namespaces.map .addNamespace),
    linesOf e (e.service.methods.map methodStatement), linesOf e (eventStatements e.service.events),
    closing e]

theorem linesOf_flatMap [Alphabet] (e : Emission) (f : α → List Statement) (xs : List α) :
    (xs.map fun x => linesOf e (f x)).flatten = linesOf e (xs.flatMap f) := by
  rw [linesOf, List.flatMap_assoc, List.flatMap_def]
  rfl

theorem linesOf_map [Alphabet] (e : Emission) (f : α → Statement) (xs : List α) :
    (xs.map fun x => linesOf e [f x]).flatten = linesOf e (xs.map f) := by
  rw [linesOf_flatMap, List.map_eq_flatMap]

/-- The values of the enumerations have texts. -/
def Writable (s : Service) : Prop :=
  ∀ x ∈ s.enums, ∀ m ∈ x.2, m.2.natAbs.repr.length ≤ Json.digitLimit

theorem sections_ok [Alphabet] : target.sections e = .ok parts ↔
    Accepts e ∧ Writable e.service ∧ parts = sectionsOf e := by
  have hparts : [header e,
      Target.joinChunks false (e.service.enums.map fun x => linesOf e (enumStatements x.1 x.2)),
      linesOf e [.tree] ++ (e.namespaces.map fun p => linesOf e [.addNamespace p]).flatten,
      Target.joinChunks false (e.service.methods.map fun m => linesOf e [methodStatement m]),
      linesOf e (eventStatements e.service.events), closing e] = sectionsOf e := by
    rw [Target.joinChunks_flatten, Target.joinChunks_flatten, linesOf_flatMap, linesOf_map, linesOf_map,
      flatMap_enumStatements]
    rfl
  have hvalues : (∀ x ∈ e.service.enums, Literal.checkValues x.2 = .ok ()) ↔ Writable e.service := by
    simp only [Literal.checkValues_ok, Writable]
  rw [← checkNames_ok (u := ()), ← hparts, ← hvalues]
  simp only [Target.sections, target, Target.each_ok, Target.each_checked, bind_ok, pure_ok,
    Except.ok.injEq, exists_eq_left']
  constructor
  · rintro ⟨_, ⟨_, hnames, rfl⟩, _, ⟨hshort, rfl⟩, rfl⟩
    exact ⟨hnames, hshort, rfl⟩
  · rintro ⟨hnames, hshort, rfl⟩
    exact ⟨_, ⟨(), hnames, rfl⟩, _, ⟨hshort, rfl⟩, rfl⟩

theorem compile_ok [Alphabet] : target.compile e = .ok text ↔ Accepts e ∧ Writable e.service ∧
    text = "\n".intercalate (Target.joinChunks true (sectionsOf e)) ++ "\n" := by
  simp only [Target.compile, Target.lines, bind_ok, pure_ok, sections_ok]
  constructor
  · rintro ⟨_, ⟨_, ⟨haccepts, hshort, rfl⟩, rfl⟩, rfl⟩
    exact ⟨haccepts, hshort, rfl⟩
  · rintro ⟨haccepts, hshort, rfl⟩
    exact ⟨_, ⟨_, ⟨haccepts, hshort, rfl⟩, rfl⟩, rfl⟩

end Farcall.Python
