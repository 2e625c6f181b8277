import Farcall.Proofs.Alphabets
import Farcall.Proofs.Emissions
import Farcall.Proofs.TreeReplay
import Farcall.Target.JavaScript
import Mathlib.Data.List.Nodup

/-!
# Members of the prototype

A proxy in JavaScript gets its namespaces and methods by assignments to members of its prototype.
The path of a member tells the sixteen-bit units of the keys that lead to it, whatever the keys
contain, so that paths can be told apart by names that differ in units. For a service that
registrations led to, each assignment finds the container it assigns into, and none undoes another one
unless two names are the same text in units, which takes halves of surrogate pairs in names.
-/

namespace Farcall

open Name (segments)

namespace JavaScript

-- ---------------------------------------------------------------------------
-- Segments in units
-- ---------------------------------------------------------------------------

theorem splitOn_append {xs : List Nat} (hx : x ∉ xs) (ys : List Nat) :
    (xs ++ ys).splitOn x = (ys.splitOn x).modifyHead (xs ++ ·) := by
  induction xs with
  | nil => cases h : ys.splitOn x <;> simp [h]
  | cons y xs ih =>
    obtain ⟨hy, hxs⟩ := List.ne_and_not_mem_of_not_mem_cons hx
    rw [List.cons_append, List.splitOn_cons_eq_if_modifyHead, ih hxs]
    simp [Ne.symm hy, Function.comp_def]

theorem code_dot [Alphabet] : Alphabet.code '.' = 0x2e :=
  Alphabet.code_of_lt (by decide)

/-- The only character with the unit of a dot is the dot. -/
theorem dot_not_mem_codeUnits [Alphabet] (h : c ≠ '.') :
    0x2e ∉ Text.codeUnits (Alphabet.code c) := by
  have hcode : Alphabet.code c ≠ 0x2e := fun hc => h (Alphabet.code_injective (hc.trans code_dot.symm))
  unfold Text.codeUnits
  split
  · simpa using hcode.symm
  · simp only [List.mem_cons, List.not_mem_nil, or_false]
    omega

theorem units_segments [Alphabet] (n : String) :
    (segments n).map Text.units = (Text.units n).splitOn 0x2e := by
  have hpieces (cs : List Char) :
      (Name.pieces cs).map (fun p => (p.map Alphabet.code).flatMap Text.codeUnits) =
        ((cs.map Alphabet.code).flatMap Text.codeUnits).splitOn 0x2e := by
    induction cs with
    | nil => rfl
    | cons c cs ih =>
      rw [List.map_cons, List.flatMap_cons, Name.pieces]
      by_cases hdot : c = '.'
      · subst hdot
        have hunit : Text.codeUnits 0x2e = [0x2e] := rfl
        rw [if_pos rfl, List.map_cons, ih, code_dot, hunit, List.cons_append,
          List.splitOn_cons_eq_if_modifyHead]
        simp
      · have hne : Name.pieces cs ≠ [] := Name.pieces_eq_splitOn cs ▸ List.splitOn_ne_nil '.' cs
        obtain ⟨p, ps, hp⟩ := List.exists_cons_of_ne_nil hne
        rw [if_neg hdot, splitOn_append (dot_not_mem_codeUnits hdot), ← ih, hp]
        simp
  rw [segments, List.map_map, Text.units, Text.codes, ← hpieces]
  exact List.map_congr_left fun p _ => by simp [Text.units, Text.codes]

theorem units_segments_inj [Alphabet] {a b : String} :
    (segments a).map Text.units = (segments b).map Text.units ↔ Text.units a = Text.units b := by
  rw [units_segments, units_segments]
  constructor
  · intro h
    have hjoin := congrArg (List.intercalate [0x2e]) h
    simpa only [List.intercalate_splitOn] using hjoin
  · exact congrArg _

-- ---------------------------------------------------------------------------
-- Paths
-- ---------------------------------------------------------------------------

def memberPath [Alphabet] (owner : String) (keys : List String) : String :=
  keys.foldl (fun path key => member path (Literal.text key)) owner

/-- A target is a member of another one, or a member of such a member, and so on. -/
def Within [Alphabet] (owner path : String) : Prop :=
  ∃ keys, keys ≠ [] ∧ path = memberPath owner keys

theorem prototypePath_eq [Alphabet] (className name : String) :
    prototypePath className name = memberPath (className ++ ".prototype") (segments name) :=
  rfl

theorem memberPath_append [Alphabet] (owner : String) (outer inner : List String) :
    memberPath owner (outer ++ inner) = memberPath (memberPath owner outer) inner :=
  List.foldl_append

theorem memberPath_concat [Alphabet] (owner : String) (keys : List String) (key : String) :
    memberPath owner (keys ++ [key]) = member (memberPath owner keys) (Literal.text key) :=
  memberPath_append owner keys [key]

def access [Alphabet] (key : String) : List Char :=
  ['['] ++ ((Literal.text key).toList ++ [']'])

theorem toList_memberPath [Alphabet] (owner : String) (keys : List String) :
    (memberPath owner keys).toList = owner.toList ++ keys.flatMap access := by
  induction keys generalizing owner with
  | nil => simp [memberPath]
  | cons key keys ih =>
    have hrest := ih (member owner (Literal.text key))
    simp only [memberPath, List.foldl_cons] at hrest ⊢
    rw [hrest]
    simp [member, access]

theorem accesses_inj [Alphabet] {keys keys' : List String} :
    keys.flatMap access = keys'.flatMap access ↔ keys.map Text.units = keys'.map Text.units := by
  induction keys generalizing keys' with
  | nil => cases keys' <;> simp [access]
  | cons key keys ih =>
    cases keys' with
    | nil => simp [access]
    | cons key' keys' =>
      have haccess (k : String) (rest : List Char) :
          access k ++ rest = '[' :: ((Literal.text k).toList ++ ']' :: rest) := by
        simp [access]
      simp only [List.flatMap_cons, haccess, List.map_cons, List.cons.injEq, true_and,
        Literal.text_append_inj, ih]

theorem memberPath_inj [Alphabet] :
    memberPath owner keys = memberPath owner keys' ↔ keys.map Text.units = keys'.map Text.units := by
  rw [← String.toList_inj, toList_memberPath, toList_memberPath, List.append_cancel_left_eq,
    accesses_inj]

theorem within_memberPath [Alphabet]
    (h : Within (memberPath owner outer) (memberPath owner keys)) : ∃ init rest,
      keys = init ++ rest ∧ rest ≠ [] ∧ init.map Text.units = outer.map Text.units := by
  obtain ⟨inner, hinner, h⟩ := h
  rw [← memberPath_append, memberPath_inj, List.map_append] at h
  obtain ⟨init, rest, rfl, hinit, hrest⟩ := List.map_eq_append_iff.mp h
  refine ⟨init, rest, rfl, ?_, hinit⟩
  rintro rfl
  exact hinner (List.map_eq_nil_iff.mp hrest.symm)

theorem prototypePath_inj [Alphabet] :
    prototypePath className a = prototypePath className b ↔ Text.units a = Text.units b := by
  rw [prototypePath_eq, prototypePath_eq, memberPath_inj, units_segments_inj]

-- ---------------------------------------------------------------------------
-- Assignments
-- ---------------------------------------------------------------------------

/-- An assignment to a member of the prototype: a namespace is an empty container at first, a method
is a function. -/
inductive Assignment where
  | container (path : String)
  | method (m : Method)

namespace Assignment

def name : Assignment → String
  | container path => path
  | method m => m.name

def target [Alphabet] (className : String) (a : Assignment) : String :=
  prototypePath className a.name

def line [Alphabet] (className : String) (a : Assignment) : String :=
  a.target className ++
    match a with
    | container _ => " = \x7b\x7d;"
    | method _ => " = function () \x7b"

end Assignment

def assignments (e : Emission) : List Assignment :=
  e.namespaces.map .container ++ e.service.methods.map .method

def functionBody [Alphabet] (m : Method) : List String := [
  "\tvar args = Array.prototype.slice.call(arguments);",
  "\tvar callback = typeof args[args.length - 1] === 'function' ? args.pop() : null;",
  "\treturn this.rpc.call(\x7b",
  "\t\tmethod: " ++ Literal.text m.name ++ ",",
  "\t\tparams: args.slice(0, " ++ toString m.params.length ++ "),",
  "\t\texpectReturn: " ++ (if m.expectsReturn then "true" else "false") ++ ",",
  "\t\ttransport: this.defaultTransport",
  "\t\x7d, callback);",
  "\x7d;"]

def bindingLine [Alphabet] (members : List String) : String :=
  "\t[" ++ ", ".intercalate (members.map Literal.text) ++ "].forEach(function (key) \x7b"

theorem bindingLine_mem_constructor [Alphabet] (e : Emission) :
    bindingLine e.rootMembers ∈ constructor e := by
  simp [constructor, bindingLine]

/-- Where the assignments stand: those of containers make up the third section, those of functions
stand in the fourth, and the first one holds the constructor. -/
theorem sections_ok [Alphabet] (h : JavaScript.target.sections e = .ok parts) : ∃ opening enums rest,
    bindingLine e.rootMembers ∈ opening ∧
    parts = [opening, enums, e.namespaces.map fun p => (Assignment.container p).line e.className,
      Target.joinChunks true (e.service.methods.map fun m =>
        methodDoc m ++ (Assignment.method m).line e.className :: functionBody m)] ++ rest := by
  simp only [Target.sections, JavaScript.target, Target.each_ok, bind_ok, pure_ok, Except.ok.injEq,
    exists_eq_left'] at h
  obtain ⟨enums, -, rfl⟩ := h
  have hcontainers :
      (e.namespaces.map fun p => [prototypePath e.className p ++ " = \x7b\x7d;"]).flatten =
        e.namespaces.map fun p => (Assignment.container p).line e.className := by
    rw [← List.flatMap_def, ← List.map_eq_flatMap]
    rfl
  refine ⟨_, _, _, ?_, by rw [hcontainers]; rfl⟩
  simp [bindingLine_mem_constructor]

-- ---------------------------------------------------------------------------
-- Assignments of a service
-- ---------------------------------------------------------------------------

variable {s : Service}

theorem map_name_assignments (e : Emission) :
    (assignments e).map Assignment.name = e.namespaces ++ e.service.methodNames := by
  simp [assignments, Service.methodNames, Function.comp_def, Assignment.name]

theorem nodup_names (h : s.Reachable) : (s.namespaces ++ s.methodNames).Nodup := by
  rw [← Tree.names_entriesOf]
  exact Tree.nodup_names_entriesOf h

theorem nodup_targets_iff [Alphabet] (className : String) :
    ((assignments ⟨s, className⟩).map (Assignment.target className)).Nodup ↔
      ((s.namespaces ++ s.methodNames).map Text.units).Nodup := by
  have htargets : (assignments ⟨s, className⟩).map (Assignment.target className) =
      (s.namespaces ++ s.methodNames).map (prototypePath className) := by
    have hnames := map_name_assignments ⟨s, className⟩
    dsimp only [Emission.namespaces] at hnames
    rw [← hnames, List.map_map]
    rfl
  rw [htargets]
  simp only [List.Nodup, List.pairwise_map, ne_eq, prototypePath_inj]

theorem nodup_units [Alphabet] (h : s.Reachable)
    (hnames : ∀ n ∈ s.memberNames, Text.Encodable n) :
    ((s.namespaces ++ s.methodNames).map Text.units).Nodup := by
  have hencodable : ∀ n ∈ s.namespaces ++ s.methodNames, Text.Encodable n := by
    intro n hn
    rcases List.mem_append.mp hn with hspace | hmethod
    · obtain ⟨m, hm, hancestor⟩ := Name.mem_namespacePaths.mp hspace
      obtain ⟨rest, rfl⟩ := Name.eq_append_of_mem_ancestors hancestor
      exact (hnames _ hm).left.left
    · exact hnames n (List.mem_append_left _ hmethod)
  refine List.Nodup.map_on (fun a ha b hb => ?_) (nodup_names h)
  exact (Text.units_inj (hencodable a ha) (hencodable b hb)).mp

/-- An assignment is one of a container after others, or one of a function after all containers. -/
theorem assignments_split {e : Emission} (h : assignments e = before ++ a :: after) :
    (∃ ps p qs, e.namespaces = ps ++ p :: qs ∧ before = ps.map .container ∧ a = .container p) ∨
    ∃ m ∈ e.service.methods, a = .method m ∧ e.namespaces.map .container ⊆ before := by
  have hmethod (more : List Assignment) (hrest : e.service.methods.map .method = more ++ a :: after) :
      ∃ m ∈ e.service.methods, a = .method m := by
    obtain ⟨m, hm, hma⟩ := List.mem_map.mp (show a ∈ e.service.methods.map .method by simp [hrest])
    exact ⟨m, hm, hma.symm⟩
  rcases List.append_eq_append_iff.mp h with ⟨more, rfl, hrest⟩ | ⟨more, hcontainers, hrest⟩
  · obtain ⟨m, hm, rfl⟩ := hmethod more hrest
    exact .inr ⟨m, hm, rfl, List.subset_append_left _ _⟩
  · cases more with
    | nil =>
      obtain ⟨m, hm, rfl⟩ := hmethod [] hrest.symm
      refine .inr ⟨m, hm, rfl, ?_⟩
      rw [hcontainers, List.append_nil]
      exact List.Subset.refl _
    | cons c more =>
      obtain ⟨rfl, -⟩ := List.cons.inj hrest
      obtain ⟨ps, qs, hsplit, rfl, hqs⟩ := List.map_eq_append_iff.mp hcontainers
      obtain ⟨p, qs, rfl, rfl, -⟩ := List.map_eq_cons_iff.mp hqs
      exact .inl ⟨ps, p, qs, hsplit, rfl, rfl⟩

theorem container_mem_of_mem_ancestors
    (h : assignments ⟨s, className⟩ = before ++ a :: after) (hp : p ∈ Name.ancestors a.name) :
    Assignment.container p ∈ before := by
  rcases assignments_split h with ⟨ps, q, qs, hsplit, rfl, rfl⟩ | ⟨m, hm, rfl, hbefore⟩
  · have hmem : p ∈ ps := Name.namespacePaths_outermostFirst _ ps q qs hsplit hp
    exact List.mem_map_of_mem hmem
  · have hname : m.name ∈ s.memberNames := List.mem_append_left _ (List.mem_map_of_mem hm)
    have hmem : p ∈ s.namespaces := Name.mem_namespacePaths.mpr ⟨m.name, hname, hp⟩
    exact hbefore (List.mem_map_of_mem hmem)

theorem parent_assigned [Alphabet] (h : assignments ⟨s, className⟩ = before ++ a :: after)
    (hdeep : 2 ≤ (segments a.name).length) : ∃ p, Assignment.container p ∈ before ∧
      a.target className = member ((Assignment.container p).target className)
        (Literal.text (Name.leaf a.name)) := by
  have hone : (segments a.name).dropLast ≠ [] := by
    rw [ne_eq, ← List.length_eq_zero_iff, List.length_dropLast]
    omega
  obtain ⟨p, hp, hseg⟩ := Tree.parent_segments hone
  refine ⟨p, container_mem_of_mem_ancestors h hp, ?_⟩
  calc a.target className
      = memberPath (className ++ ".prototype") (segments p ++ [Name.leaf a.name]) := by
        rw [← hseg, Tree.dropLast_append_leaf]
        rfl
    _ = member ((Assignment.container p).target className) (Literal.text (Name.leaf a.name)) :=
        memberPath_concat _ _ _

theorem not_within_method [Alphabet]
    (hunits : ((s.namespaces ++ s.methodNames).map Text.units).Nodup) (hm : m ∈ s.methods)
    (ha : a ∈ assignments ⟨s, className⟩) :
    ¬ Within ((Assignment.method m).target className) (a.target className) := by
  intro hwithin
  obtain ⟨init, rest, hseg, hrest, hinit⟩ := within_memberPath hwithin
  have hdots : ∀ k ∈ init, '.' ∉ k.toList := fun k hk =>
    Name.not_mem_of_mem_segments (hseg ▸ List.mem_append_left rest hk)
  have hne : init ≠ [] := by
    rintro rfl
    exact Name.segments_ne_nil _ (List.map_eq_nil_iff.mp hinit.symm)
  -- The namespace that the keys of the method lead to has the units of the method's name.
  have hsegments : segments (Name.ofSegments init) = init := Name.segments_ofSegments hne hdots
  have hancestor : Name.ofSegments init ∈ Name.ancestors a.name := by
    rw [Name.mem_ancestors, hsegments, hseg, List.dropLast_append_of_ne_nil hrest]
    exact List.prefix_append _ _
  obtain ⟨before, after, hsplit⟩ := List.append_of_mem ha
  have hbefore := container_mem_of_mem_ancestors hsplit hancestor
  have hmem : Assignment.container (Name.ofSegments init) ∈ assignments ⟨s, className⟩ := by
    rw [hsplit]
    exact List.mem_append_left _ hbefore
  have hnamespace : Name.ofSegments init ∈ s.namespaces := by
    simpa [assignments, Emission.namespaces] using hmem
  have hsame : Text.units (Name.ofSegments init) = Text.units m.name :=
    units_segments_inj.mp (hsegments.symm ▸ hinit)
  rw [List.map_append, List.nodup_append] at hunits
  exact hunits.2.2 _ (List.mem_map_of_mem hnamespace) _
    (List.mem_map_of_mem (List.mem_map_of_mem hm)) hsame

theorem length_segments_eq_one : (segments n).length = 1 ↔ '.' ∉ n.toList := by
  constructor
  · intro h
    obtain ⟨segment, hseg⟩ := List.length_eq_one_iff.mp h
    exact (Name.segments_eq_singleton.mp hseg).1 ▸ (Name.segments_eq_singleton.mp hseg).2
  · intro h
    rw [Name.segments_eq_singleton.mpr ⟨rfl, h⟩, List.length_singleton]

/-- The members that the constructor binds are those that are assigned to the prototype itself. -/
theorem targets_of_rootMembers [Alphabet] (h : s.Reachable) (className : String) :
    ((assignments ⟨s, className⟩).filter fun a => (segments a.name).length = 1).map
        (Assignment.target className) =
      (Emission.mk s className).rootMembers.map fun n =>
        member (className ++ ".prototype") (Literal.text n) := by
  have hroot : (Emission.mk s className).rootMembers =
      (s.namespaces ++ s.methodNames).filter fun n => (segments n).length = 1 := by
    have hdots : (fun n : String => decide ((segments n).length = 1)) =
        fun n => !n.toList.contains '.' := by
      funext n
      simp [length_segments_eq_one]
    rw [hdots]
    exact Name.firsts_of_nodup ((nodup_names h).filter _)
  have hnames : (assignments ⟨s, className⟩).map Assignment.name = s.namespaces ++ s.methodNames :=
    map_name_assignments ⟨s, className⟩
  rw [hroot, ← hnames, List.filter_map, List.map_map]
  refine List.map_congr_left fun a ha => ?_
  have hone : (segments a.name).length = 1 := by simpa using (List.mem_filter.mp ha).2
  obtain ⟨segment, hseg⟩ := List.length_eq_one_iff.mp hone
  obtain ⟨hname, -⟩ := Name.segments_eq_singleton.mp hseg
  rw [Function.comp_apply, Assignment.target, prototypePath, hseg, hname]
  rfl

/-- Compiled to JavaScript, a service that registrations led to has its namespaces and methods
assigned to members of the prototype, each into a container assigned before, and the constructor binds
the outermost ones in the order in which they are assigned. The members are distinct, and none is
assigned into a function, if no two of the names are the same text in sixteen-bit units, as no names
without halves of surrogate pairs are. -/
theorem members_assigned_in_place [Alphabet] (h : s.Reachable) (className : String) :
    let e : Emission := ⟨s, className⟩
    let names := s.namespaces ++ s.methodNames
    (∀ parts, JavaScript.target.sections e = .ok parts → ∃ opening enums rest,
      bindingLine e.rootMembers ∈ opening ∧
      parts = [opening, enums, e.namespaces.map fun p => (Assignment.container p).line className,
        Target.joinChunks true (s.methods.map fun m =>
          methodDoc m ++ (Assignment.method m).line className :: functionBody m)] ++ rest) ∧
    (((assignments e).map (Assignment.target className)).Nodup ↔ (names.map Text.units).Nodup) ∧
    ((∀ n ∈ s.memberNames, Text.Encodable n) → (names.map Text.units).Nodup) ∧
    (∀ before a after, assignments e = before ++ a :: after → 2 ≤ (segments a.name).length →
      ∃ p, Assignment.container p ∈ before ∧ a.target className =
        member ((Assignment.container p).target className) (Literal.text (Name.leaf a.name))) ∧
    ((names.map Text.units).Nodup → ∀ m ∈ s.methods, ∀ a ∈ assignments e,
      ¬ Within ((Assignment.method m).target className) (a.target className)) ∧
    ((assignments e).filter fun a => (segments a.name).length = 1).map
        (Assignment.target className) =
      e.rootMembers.map fun n => member (className ++ ".prototype") (Literal.text n) :=
  ⟨fun _ => sections_ok, nodup_targets_iff className, nodup_units h, fun _ _ _ => parent_assigned,
    fun hunits _ hm _ => not_within_method hunits hm, targets_of_rootMembers h className⟩

theorem quoted_members_assigned_in_place :
    let s := ((((Service.empty (.str "1.0") (.str "Jobs")).after
      (.readMethod [] ⟨"a\"]..b", [], none, none⟩)).after
      (.readMethod [] ⟨"status", [], none, none⟩)).after
      (.event [] (.str "disk[0].full") .null .null)).after
      (.readMethod [] ⟨"a\"]", [], none, none⟩)
    let e : Emission := ⟨s, "Proxy"⟩
    s.Reachable ∧ (JavaScript.target.sections e).isOk = true ∧
      (assignments e).map (Assignment.line "Proxy") = [
        "Proxy.prototype[\"a\\\"]\"] = \x7b\x7d;",
        "Proxy.prototype[\"a\\\"]\"][\"\"] = \x7b\x7d;",
        "Proxy.prototype[\"disk[0]\"] = \x7b\x7d;",
        "Proxy.prototype[\"a\\\"]\"][\"\"][\"b\"] = function () \x7b",
        "Proxy.prototype[\"status\"] = function () \x7b"] ∧
      e.rootMembers = ["a\"]", "disk[0]", "status"] ∧
      ((assignments e).map (Assignment.target "Proxy")).Nodup := by
  intro s e
  have hs : s.Reachable := (((Service.Reachable.empty _ _).after _ |>.after _).after _).after _
  obtain ⟨-, hdistinct, hunits, -⟩ := members_assigned_in_place hs "Proxy"
  have hencodable : ∀ n ∈ s.memberNames, Text.Encodable n := fun n _ => Text.encodable_plain n
  refine ⟨hs, ?_, ?_, ?_, hdistinct.mpr (hunits hencodable)⟩
  · simp only [e, s]
    decide +kernel
  · simp only [e, s]
    decide +kernel
  · simp only [e, s]
    decide +kernel

/-- A character beyond the sixteen-bit range and its two halves are two names, and one member. -/
theorem halves_assigned_twice :
    let halves := String.ofList [@Alphabet.half .withHalves 0xD83D, @Alphabet.half .withHalves 0xDE00]
    let s := ((Service.empty .null .null).after (.readMethod [] ⟨"😀", [], none, none⟩)).after
      (.readMethod [] ⟨halves, [], none, none⟩)
    let targets := (assignments ⟨s, "Proxy"⟩).map (@Assignment.target .withHalves "Proxy")
    s.Reachable ∧ s.methodNames = ["😀", halves] ∧
      @Text.codes .withHalves "😀" = [0x1F600] ∧ @Text.codes .withHalves halves = [0xD83D, 0xDE00] ∧
      targets = ["Proxy.prototype[\"\\ud83d\\ude00\"]", "Proxy.prototype[\"\\ud83d\\ude00\"]"] ∧
      ¬ targets.Nodup := by
  intro halves s targets
  have htargets : targets =
      ["Proxy.prototype[\"\\ud83d\\ude00\"]", "Proxy.prototype[\"\\ud83d\\ude00\"]"] := by
    simp only [targets, s, halves]
    decide +kernel
  refine ⟨(Service.Reachable.empty _ _).after _ |>.after _, ?_, ?_, ?_, htargets, ?_⟩
  · simp only [s, halves]
    decide +kernel
  · decide +kernel
  · decide +kernel
  · rw [htargets]
    decide

end JavaScript

end Farcall
