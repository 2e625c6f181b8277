import Farcall.Proofs.ProxyClasses
import Farcall.Proxy.Proxy

/-!
# Members at the root

The members of a proxy are attributes of it, so that one could hide an attribute that all proxies
have, or an accessor. The names that are checked before a class is written are those without a dot.
A name whose only dot is its first character lies at the root as well, under what follows the dot,
and is not checked.
-/

namespace Farcall

open Name (segments)

-- ---------------------------------------------------------------------------
-- Keys at the root
-- ---------------------------------------------------------------------------

namespace Name

theorem ofSegments_eq_empty (hsegs : segs ⊆ segments name) :
    ofSegments segs = "" ↔ segs = [] ∨ segs = [""] := by
  constructor
  · intro h
    by_cases hne : segs = []
    · exact .inl hne
    · right
      rw [← segments_ofSegments_subset hne hsegs, h]
      rfl
  · rintro (rfl | rfl) <;> rfl

theorem segments_dotted (hkey : '.' ∉ key.toList) : segments ("." ++ key) = ["", key] := by
  have hsegs : segments (ofSegments ["", key]) = ["", key] := by
    refine segments_ofSegments (by simp) ?_
    simpa using hkey
  have hname : ofSegments ["", key] = "." ++ key := by
    rw [← String.toList_inj, toList_ofSegments]
    simp
  rwa [hname] at hsegs

end Name

namespace Tree

def rootKey? (name : String) : Option String :=
  if Name.parent name = "" then some (Name.leaf name) else none

/-- At the root lie the names without a dot and those whose only dot is their first character. -/
theorem rootKey?_eq_some :
    rootKey? name = some key ↔ '.' ∉ key.toList ∧ (name = key ∨ name = "." ++ key) := by
  have hsplit := dropLast_append_leaf name
  have hroot := Name.ofSegments_eq_empty (List.dropLast_subset (segments name))
  constructor
  · intro h
    unfold rootKey? at h
    split at h
    · rename_i hparent
      obtain rfl := Option.some.inj h
      have hmem : Name.leaf name ∈ segments name := by
        rw [← hsplit]
        simp
      have hleaf := Name.not_mem_of_mem_segments hmem
      refine ⟨hleaf, ?_⟩
      rcases hroot.mp hparent with hnone | hempty
      · rw [hnone, List.nil_append] at hsplit
        exact .inl (Name.segments_eq_singleton.mp hsplit.symm).1
      · rw [hempty, List.singleton_append, ← Name.segments_dotted hleaf] at hsplit
        exact .inr (Name.segments_inj.mp hsplit.symm)
    · cases h
  · rintro ⟨hkey, rfl | rfl⟩
    · have hsegs := Name.segments_eq_singleton.mpr ⟨rfl, hkey⟩
      simp [rootKey?, Name.parent, Name.leaf, hsegs, Name.ofSegments]
    · have hsegs := Name.segments_dotted hkey
      simp [rootKey?, Name.parent, Name.leaf, hsegs, Name.ofSegments]

theorem mem_filterMap_rootKey? {names : List String} : key ∈ names.filterMap rootKey? ↔
    '.' ∉ key.toList ∧ (key ∈ names ∨ "." ++ key ∈ names) := by
  simp only [List.mem_filterMap, rootKey?_eq_some]
  constructor
  · rintro ⟨name, hname, hkey, rfl | rfl⟩
    · exact ⟨hkey, .inl hname⟩
    · exact ⟨hkey, .inr hname⟩
  · rintro ⟨hkey, hname | hname⟩
    · exact ⟨key, hname, hkey, .inl rfl⟩
    · exact ⟨_, hname, hkey, .inr rfl⟩

variable {t t' : Tree} {s : Service}

def rootKeys (t : Tree) : List String :=
  t.children.map Prod.fst

theorem rootKeys_attach (h : t.attach name node = .ok t') :
    t'.rootKeys = t.rootKeys ++ (rootKey? name).toList := by
  cases t with
  | method stub => cases h
  | scope p cs =>
    simp only [attach, bind_ok, pure_ok] at h
    obtain ⟨cs', hcs, rfl⟩ := h
    have hpath : parentPath name = [] ↔ Name.parent name = "" := by
      unfold parentPath
      split <;> simp_all
    have hkeys := keys_attachAt hcs
    simp only [hpath] at hkeys
    rw [rootKeys, children, hkeys, rootKey?]
    split <;> rfl

def addedKey? : Python.Statement → Option String
  | .addNamespace path => rootKey? path
  | .addMethod name _ _ _ => rootKey? name
  | _ => none

theorem rootKeys_execute (hst : st ≠ .tree) (h : execute t st = .ok t') :
    t'.rootKeys = t.rootKeys ++ (addedKey? st).toList := by
  cases st with
  | tree => exact absurd rfl hst
  | addNamespace path => exact rootKeys_attach h
  | addMethod name params expectReturn doc => exact rootKeys_attach h
  | enum name members => cases h; simp [addedKey?]
  | events names => cases h; simp [addedKey?]
  | attach name members => cases h; simp [addedKey?]

theorem rootKeys_executeAll {ss : List Python.Statement} (hss : ∀ st ∈ ss, st ≠ .tree)
    (h : ss.foldlM execute t = .ok t') : t'.rootKeys = t.rootKeys ++ ss.filterMap addedKey? := by
  induction ss generalizing t with
  | nil =>
    cases h
    simp
  | cons st ss ih =>
    obtain ⟨hst, hss⟩ := List.forall_mem_cons.mp hss
    obtain ⟨next, hnext, hrest⟩ := bind_ok.mp h
    rw [ih hss hrest, rootKeys_execute hst hnext, List.append_assoc, List.filterMap_cons]
    cases addedKey? st <;> rfl

/-- The keys at the root of the tree of a service: those of its namespaces, then of its methods. -/
theorem rootKeys_ofService (h : ofService s = .ok t) :
    t.rootKeys = (s.namespaces ++ s.methodNames).filterMap rootKey? := by
  have hinside : ((Python.inside s).map .ofInside).foldlM execute (empty "") = .ok (empty "") := by
    refine execute_inert ?_
    rintro _ hst
    obtain ⟨x, -, rfl⟩ := List.mem_map.mp hst
    rfl
  obtain ⟨rest, hrestEq⟩ : ∃ rest, rest = s.namespaces.map Python.Statement.addNamespace ++
      (s.methods.map Python.methodStatement ++
        (Python.eventStatements s.events ++ (Python.outside s).map .ofOutside)) := ⟨_, rfl⟩
  have hrest : rest.foldlM execute (empty "") = .ok t := by
    rw [ofService, Python.statements_eq] at h
    simp only [List.append_assoc] at h
    rw [List.foldlM_append, hinside, ← hrestEq] at h
    exact h
  have hnotTree : ∀ st ∈ rest, st ≠ Python.Statement.tree := by
    simp only [hrestEq, List.mem_append, List.mem_map]
    rintro st (⟨p, -, rfl⟩ | ⟨m, -, rfl⟩ | hevents | ⟨x, -, rfl⟩)
    · simp
    · simp [Python.methodStatement]
    · unfold Python.eventStatements at hevents
      split at hevents <;> simp_all
    · simp [Python.Statement.ofOutside]
  have hevents : (Python.eventStatements s.events).filterMap addedKey? = [] := by
    unfold Python.eventStatements
    split <;> rfl
  have houtside : ((Python.outside s).map .ofOutside).filterMap addedKey? = [] := by
    simp [Python.Statement.ofOutside, addedKey?]
  rw [rootKeys_executeAll hnotTree hrest, hrestEq]
  simp only [List.filterMap_append, hevents, houtside, List.append_nil, List.filterMap_map,
    Service.methodNames]
  rfl

theorem member?_eq_none {c : ProxyClass} (h : key ∉ c.tree.rootKeys) : c.member? [key] = none := by
  have hfind : c.tree.find? [key] = none := by
    cases htree : c.tree with
    | method stub => rfl
    | scope p cs =>
      have hlookup : cs.lookup key = none := by
        rw [htree] at h
        exact lookup_eq_none_iff.mpr h
      simp [find?, hlookup]
  rw [ProxyClass.member?, hfind, ite_self]

end Tree

namespace ProxyClass

variable {s : Service} {t : Tree} {c : ProxyClass}

def listed (s : Service) : List String :=
  s.namespaces ++ s.methodNames

/-- Why a member can hide an attribute of its class although the names were checked. -/
inductive Unchecked (s : Service) (key : String) : Prop where
  /-- The member lies at the root only because its name begins with a dot. -/
  | dotted (h : "." ++ key ∈ listed s)
  /-- All classes have this attribute, as they are objects themselves. -/
  | ofClasses (h : key = "mro")
  /-- The codec of an enumeration was assigned under another form of its name. -/
  | form {name : String} (h : (Value.str name, members) ∈ s.enums) (hne : name ≠ key)
    (hplace : place name = key)

theorem isReserved_of_mem_hidden : ∀ a ∈ hiddenAttributes, a = "mro" ∨ Python.isReserved a = true := by
  decide

theorem exists_enum_of_lookup (h : ((defined ⟨s, className⟩ t).enums.lookup key).isSome = true) :
    ∃ name members, (Value.str name, members) ∈ s.enums ∧ place name = key := by
  by_contra hnone
  have hfree : (defined ⟨s, className⟩ t).enums.lookup key = none := by
    refine lookup_defineAll_eq_none.mpr ⟨rfl, fun st hst a ha hkey => hnone ?_⟩
    obtain ⟨x, hx, rfl⟩ := assignment_place hst ha
    exact ⟨x.1, x.2, hx, hkey⟩
  rw [hfree] at h
  cases h

theorem checked_of_mem_rootKeys (haccepts : Python.Accepts ⟨s, className⟩)
    (ht : Tree.ofService s = .ok t) (hkey : key ∈ t.rootKeys) (hdotted : "." ++ key ∉ listed s) :
    Python.isReserved key = false ∧ ∀ members, (Value.str key, members) ∉ s.enums := by
  rw [Tree.rootKeys_ofService ht, Tree.mem_filterMap_rootKey?] at hkey
  have hmember : key ∈ (Emission.mk s className).rootMembers := by
    refine Name.mem_firsts.mpr (List.mem_filter.mpr ⟨hkey.2.resolve_right hdotted, ?_⟩)
    simpa using hkey.1
  refine ⟨haccepts.members key hmember, fun members henum => ?_⟩
  obtain ⟨name, hname, -, hfree⟩ := (haccepts.enums _ henum).text
  cases hname
  exact hfree hmember

/-- Whatever a member of a proxy hides was not seen when the names were checked. -/
theorem unchecked_of_mem_shadows (haccepts : Python.Accepts ⟨s, className⟩)
    (ht : Tree.ofService s = .ok t) (hkey : key ∈ (defined ⟨s, className⟩ t).shadows) :
    Unchecked s key := by
  obtain ⟨hroot, hhas⟩ := List.mem_filter.mp hkey
  by_cases hdotted : "." ++ key ∈ listed s
  · exact .dotted hdotted
  · obtain ⟨hreserved, hnames⟩ := checked_of_mem_rootKeys haccepts ht hroot hdotted
    simp only [hasAttribute, hasCodec, Bool.or_eq_true, Bool.and_eq_true, decide_eq_true_eq] at hhas
    rcases hhas with (hpublic | hhidden) | ⟨hcodec, -⟩
    · simp [Python.isReserved, hpublic] at hreserved
    · refine .ofClasses ((isReserved_of_mem_hidden key hhidden).resolve_right ?_)
      simp [hreserved]
    · obtain ⟨name, members, hmem, hplace⟩ := exists_enum_of_lookup hcodec
      refine .form hmem ?_ hplace
      rintro rfl
      exact hnames members hmem

end ProxyClass

end Farcall
