import Farcall.Proofs.Documents

/-!
# Parts of a wrong shape

Some parts of a document are mappings: the enumerations and the types. Others are lists: the methods,
the events, and the parameters of a method. A part of another shape is refused where a mapping should
be, and so is a text or a mapping in the place of the methods, because its members are no
descriptions. A number in the place of a list is not refused as a wrong argument; and in the place of
events and of parameters, where a bare name is a description, a text or a mapping is read as the list
of its members.
-/

namespace Farcall.Document

/-- A part of a document that is to be a mapping or a list. -/
inductive Part where
  | enums
  | types
  | methods
  /-- The parameters of the method at a position. -/
  | params (position : Nat)
  | events

-- ---------------------------------------------------------------------------
-- Section by section
-- ---------------------------------------------------------------------------

def withEnums (r : Record) : Except Failure Service := do
  let s := Service.empty (textOr r "version" "1.0") (textOr r "name" "")
  registerEnums s (← mappingOrEmpty "enums" (Value.getD r "enums"))

def withTypes (r : Record) : Except Failure Service := do
  let s ← withEnums r
  registerTypes s (← mappingOrEmpty "types" (Value.getD r "types"))

def withMethods (r : Record) : Except Failure Service := do
  let s ← withTypes r
  registerMethods s (← membersOrNone (Value.getD r "methods"))

theorem service_eq (r : Record) : service (.map r) = (do
    let s ← withMethods r
    registerEvents s (← membersOrNone (Value.getD r "events"))) := by
  simp only [service, serviceOfRecord, withMethods, withTypes, withEnums, bind_assoc]

/-- What stands at a part of a document when everything that is read before the part is valid. -/
inductive Reached (r : Record) : Part → Value → Prop
  | enums : Reached r .enums (Value.getD r "enums")
  | types (h : withEnums r = .ok s) : Reached r .types (Value.getD r "types")
  | methods (h : withTypes r = .ok s) : Reached r .methods (Value.getD r "methods")
  | params (h : withTypes r = .ok s)
    (hmethods : membersOrNone (Value.getD r "methods") = .ok (before ++ .map m :: after))
    (hbefore : registerMethods s before = .ok t) (hname : required "method" "name" m = .ok name) :
    Reached r (.params before.length) (Value.getD m "params")
  | events (h : withMethods r = .ok s) : Reached r .events (Value.getD r "events")

-- ---------------------------------------------------------------------------
-- Parts
-- ---------------------------------------------------------------------------

variable {v raw : Value} {xs : List Value} {m : Record}

theorem mapping_eq_error (h : ∀ es, v ≠ .map es) :
    mapping what v = .error (.argument (.notMapping what v)) := by
  unfold mapping
  split
  · exact absurd rfl (h _)
  · rfl

theorem mappingOrEmpty_eq_error (hv : v.truthy = true) (h : ∀ es, v ≠ .map es) :
    mappingOrEmpty what v = .error (.argument (.notMapping what v)) := by
  rw [mappingOrEmpty, if_pos hv, mapping_eq_error h]

theorem membersOrNone_eq_error (hv : v.truthy = true) (hnumber : v.numeric?.isSome = true) :
    membersOrNone v = .error (.fault .notIterable) := by
  cases v <;> simp_all [membersOrNone, Value.members?, Value.numeric?]

theorem membersOrNone_of_members (hv : v.truthy = true) (hxs : v.members? = some xs) :
    membersOrNone v = .ok xs := by
  simp [membersOrNone, hv, hxs]

theorem membersOrNone_list (xs : List Value) : membersOrNone (.list xs) = .ok xs := by
  cases xs <;> rfl

theorem registerMethods_append (s : Service) (before after : List Value) :
    registerMethods s (before ++ after) = (do
      let t ← registerMethods s before
      registerMethods t after) := by
  induction before generalizing s with
  | nil => rfl
  | cons raw before ih =>
    simp only [List.cons_append, registerMethods, bind_assoc]
    exact bind_congr fun r => bind_congr fun ⟨t, _⟩ => ih t

/-- The first member of a text or of a mapping is not a mapping. -/
theorem members_of_text_or_mapping (hv : v.truthy = true) (hshape : (∃ s, v = .str s) ∨
    ∃ es, v = .map es ∧ ∀ e ∈ es, e.1.hashable = true) :
    ∃ x xs, v.members? = some (x :: xs) ∧ ∀ es, x ≠ .map es := by
  rcases hshape with ⟨s, rfl⟩ | ⟨es, rfl, hkeys⟩
  · have hne : s.toList ≠ [] := by simpa [Value.truthy] using hv
    obtain ⟨c, cs, hcs⟩ := List.exists_cons_of_ne_nil hne
    refine ⟨.str (String.singleton c), _, by rw [Value.members?, hcs, List.map_cons], ?_⟩
    exact fun es h => by cases h
  · cases es with
    | nil => cases hv
    | cons e es =>
      refine ⟨_, _, rfl, fun es' h => ?_⟩
      have hkey := hkeys e List.mem_cons_self
      rw [h] at hkey
      cases hkey

theorem getD_assign (r : Record) (key other : String) (v : Value) :
    Value.getD (Value.assign r (.str key) v) other =
      if key = other then v else Value.getD r other := by
  rw [Value.getD, get?_assign]
  split <;> rfl

def listParams (xs : List Value) : Value → Value
  | .map m => .map (Value.assign m (.str "params") (.list xs))
  | raw => raw

theorem methodRecord_listParams (hname : required "method" "name" m = .ok name)
    (hv : (Value.getD m "params").truthy = true)
    (hxs : (Value.getD m "params").members? = some xs) :
    methodRecord (listParams xs (.map m)) = methodRecord (.map m) := by
  have hname' : required "method" "name" (Value.assign m (.str "params") (.list xs)) = .ok name := by
    rw [required, get?_assign, if_neg (by decide), required_ok hname]
  have hdescription : carriedIfTrue (Value.assign m (.str "params") (.list xs)) "description" =
      carriedIfTrue m "description" := by
    rw [carriedIfTrue, carried, get?_assign, if_neg (by decide), ← carried, ← carriedIfTrue]
  simp [listParams, methodRecord, mapping, hname, hname', getD_assign, hdescription,
    membersOrNone_list, membersOrNone_of_members hv hxs]

theorem withMethods_of_turn (htypes : withTypes r = .ok s)
    (hmethods : membersOrNone (Value.getD r "methods") = .ok (before ++ after))
    (hbefore : registerMethods s before = .ok t) : withMethods r = registerMethods t after := by
  simp only [withMethods, htypes, hmethods, ok_bind, registerMethods_append, hbefore]

/-- What is read before the methods depends on neither methods nor events. -/
theorem withTypes_assign (h : key = "methods" ∨ key = "events") :
    withTypes (Value.assign r (.str key) v) = withTypes r := by
  have hne : key ≠ "version" ∧ key ≠ "name" ∧ key ≠ "enums" ∧ key ≠ "types" := by
    rcases h with rfl | rfl <;> decide
  simp only [withTypes, withEnums, textOr, get?_assign, getD_assign, hne, if_false]

-- ---------------------------------------------------------------------------
-- Documents
-- ---------------------------------------------------------------------------

end Farcall.Document
