import Farcall.Proofs.Registration
import Farcall.Proofs.Trees
import Farcall.Proxy.Definition
import Mathlib.Data.List.Induction

/-!
# The tree of a generated class

A generated class builds its tree by statements, the namespaces first and then the methods. For a
service that registrations led to, all of them succeed, and the tree holds the methods and
namespaces of the service and nothing else.
-/

namespace Farcall

open Name (segments)

def Python.stub (m : Method) : Stub :=
  ⟨m.name, m.params.map Param.name, m.expectsReturn, methodDoc m⟩

namespace Tree

/-- The tree after a statement of a generated class. Codecs and events do not concern it. -/
def execute (t : Tree) : Python.Statement → Except Failure Tree
  | .tree => .ok (empty "")
  | .addNamespace path => t.addNamespace path
  | .addMethod name params expectReturn doc => t.addMethod ⟨name, params, expectReturn, doc⟩
  | .enum _ _ => .ok t
  | .events _ => .ok t
  | .attach _ _ => .ok t

def ofService (s : Service) : Except Failure Tree :=
  (Python.statements s).foldlM execute (empty "")

-- ---------------------------------------------------------------------------
-- Trees given by lists
-- ---------------------------------------------------------------------------

def byPath (entries : List (String × Kind)) : List (List String × Kind) :=
  entries.map fun e => (segments e.1, e.2)

theorem lookup_byPath (entries : List (String × Kind)) (name : String) :
    (byPath entries).lookup (segments name) = entries.lookup name := by
  induction entries with
  | nil => rfl
  | cons e entries ih =>
    obtain ⟨n, k⟩ := e
    simp only [byPath, List.map_cons, List.lookup_cons] at ih ⊢
    by_cases h : name = n
    · simp [h]
    · have hne : segments name ≠ segments n := fun hs => h (Name.segments_inj.mp hs)
      rw [beq_eq_false_iff_ne.mpr h, beq_eq_false_iff_ne.mpr hne, ih]

/-- The nodes of a tree, the root apart, are the listed ones, each at the end of the segments of its
name; those at the root stand in the order of the list. -/
structure Lists (t : Tree) (entries : List (String × Kind)) : Prop where
  root : t.kind = .scope ""
  at? : ∀ path, path ≠ [] → t.at? path = (byPath entries).lookup path
  keys : t.children.map Prod.fst = (entries.map Prod.fst).filter fun n => !n.toList.contains '.'
  distinct : t.KeysDistinct

theorem lists_empty : (empty "").Lists [] where
  root := rfl
  at? path hpath := by
    obtain ⟨key, path, rfl⟩ := List.exists_cons_of_ne_nil hpath
    rfl
  keys := rfl
  distinct := .scope .nil (by simp)

/-- Under a free name in a listed namespace a node can be attached, and is listed from then on. -/
theorem Lists.attach {t node : Tree} (h : t.Lists entries) (hdot : name.toList.head? ≠ some '.')
    (hparent : (segments name).dropLast = [] ∨
      ∃ q p, (segments name).dropLast = segments q ∧ entries.lookup q = some (.scope p))
    (hfree : entries.lookup name = none) (hbare : node.IsBare) (hdistinct : node.KeysDistinct) :
    ∃ t', t.attach name node = .ok t' ∧ t'.Lists (entries ++ [(name, node.kind)]) := by
  cases t with
  | method s => cases h.root
  | scope r cs =>
    obtain rfl : r = "" := by simpa [kind] using h.root
    have hsplit := dropLast_append_leaf name
    have hscope : ∃ p, (scope "" cs).at? (segments name).dropLast = some (.scope p) := by
      by_cases hone : (segments name).dropLast = []
      · exact ⟨"", by rw [hone]; rfl⟩
      · obtain ⟨q, p, hq, hp⟩ := hparent.resolve_left hone
        exact ⟨p, by rw [h.at? _ hone, hq, lookup_byPath, hp]⟩
    have hplace : (scope "" cs).at? (segments name) = none := by
      rw [h.at? _ (Name.segments_ne_nil name), lookup_byPath, hfree]
    obtain ⟨cs', hcs⟩ :
        ∃ cs', attachAt name (Name.leaf name) node (segments name).dropLast cs = .ok cs' :=
      attachAt_ok.mpr ⟨hscope, by rwa [hsplit]⟩
    refine ⟨scope "" cs', ?_, rfl, ?_, ?_, keysDistinct_attachAt h.distinct hdistinct hcs⟩
    · simp [Tree.attach, parentPath_eq hdot, hcs]
    · intro q hq
      rw [at?_attachAt hbare hcs hq, hsplit, h.at? q hq]
      simp only [byPath, List.map_append, List.lookup_append, List.map_cons, List.map_nil,
        List.lookup_cons]
      by_cases hname : q = segments name
      · have hold := lookup_byPath entries name
        rw [hfree, byPath] at hold
        simp [hname, hold]
      · simp [hname, beq_eq_false_iff_ne.mpr hname]
    · have hkeys := keys_attachAt hcs
      simp only [children, hkeys, List.map_append, List.filter_append, ← h.keys, List.map_cons,
        List.map_nil]
      congr 1
      by_cases hone : (segments name).dropLast = []
      · rw [hone, List.nil_append] at hsplit
        obtain ⟨hleaf, hname⟩ := Name.segments_eq_singleton.mp hsplit.symm
        simp [hone, ← hleaf, hname]
      · have hname : '.' ∈ name.toList := by
          by_contra hno
          exact hone (by rw [Name.segments_eq_singleton.mpr ⟨rfl, hno⟩]; rfl)
        simp [hone, hname]

-- ---------------------------------------------------------------------------
-- Namespaces, then methods
-- ---------------------------------------------------------------------------

variable {ps : List String} {ms : List Method}

def scopeEntry (p : String) : String × Kind := (p, .scope p)

def methodEntry (m : Method) : String × Kind := (m.name, .method (Python.stub m))

def entriesOf (s : Service) : List (String × Kind) :=
  s.namespaces.map scopeEntry ++ s.methods.map methodEntry

theorem lookup_scopeEntry (hp : p ∈ ps) : (ps.map scopeEntry).lookup p = some (.scope p) := by
  induction ps with
  | nil => cases hp
  | cons q ps ih =>
    rw [List.map_cons, scopeEntry, List.lookup_cons]
    by_cases h : p = q
    · simp [h]
    · rw [beq_eq_false_iff_ne.mpr h]
      exact ih ((List.mem_cons.mp hp).resolve_left h)

theorem parent_segments (hone : (segments name).dropLast ≠ []) :
    ∃ q ∈ Name.ancestors name, (segments name).dropLast = segments q := by
  have hseg := Name.segments_ofSegments_subset hone (List.dropLast_subset (segments name))
  exact ⟨_, Name.mem_ancestors.mpr (hseg.symm ▸ List.prefix_rfl), hseg.symm⟩

/-- Namespaces that stand after their own namespaces can be attached one after the other. -/
theorem addNamespaces (hfirst : Name.OutermostFirst ps) (hnodup : ps.Nodup)
    (hdot : ∀ p ∈ ps, p.toList.head? ≠ some '.') :
    ∃ t, ps.foldlM addNamespace (empty "") = .ok t ∧ t.Lists (ps.map scopeEntry) := by
  induction ps using List.reverseRecOn with
  | nil => exact ⟨_, rfl, lists_empty⟩
  | append_singleton ps p ih =>
    have hps : Name.OutermostFirst ps := fun before q after h =>
      hfirst before q (after ++ [p]) (by simp [h])
    obtain ⟨hnodup, -, hp⟩ := List.nodup_append.mp hnodup
    obtain ⟨t, ht, hlist⟩ := ih hps hnodup fun q hq => hdot q (List.mem_append_left _ hq)
    have hparent : (segments p).dropLast = [] ∨ ∃ q r, (segments p).dropLast = segments q ∧
        (ps.map scopeEntry).lookup q = some (.scope r) := by
      by_cases hone : (segments p).dropLast = []
      · exact .inl hone
      · obtain ⟨q, hq, hseg⟩ := parent_segments hone
        exact .inr ⟨q, q, hseg, lookup_scopeEntry (hfirst ps p [] rfl hq)⟩
    have hfree : (ps.map scopeEntry).lookup p = none :=
      lookup_eq_none_iff.mpr (by simpa [scopeEntry] using fun h => hp p h p (by simp) rfl)
    obtain ⟨t', ht', hlist'⟩ := hlist.attach (hdot p (by simp)) hparent hfree (isBare_empty p)
      (.scope .nil (by simp))
    exact ⟨t', foldlM_concat_ok ht ht', by simpa [scopeEntry] using hlist'⟩

theorem addMethods {t : Tree} (hlist : t.Lists (ps.map scopeEntry))
    (hnodup : (ms.map Method.name).Nodup) (hps : ∀ m ∈ ms, m.name ∉ ps)
    (hscope : ∀ m ∈ ms, Name.ancestors m.name ⊆ ps)
    (hdot : ∀ m ∈ ms, m.name.toList.head? ≠ some '.') :
    ∃ t', (ms.map Python.stub).foldlM addMethod t = .ok t' ∧
      t'.Lists (ps.map scopeEntry ++ ms.map methodEntry) := by
  induction ms using List.reverseRecOn with
  | nil => exact ⟨t, rfl, by simpa using hlist⟩
  | append_singleton ms m ih =>
    rw [List.map_append, List.nodup_append] at hnodup
    obtain ⟨hnodup, -, hm⟩ := hnodup
    have hold {x} (hx : x ∈ ms) : x ∈ ms ++ [m] := List.mem_append_left _ hx
    obtain ⟨t', ht', hlist'⟩ := ih hnodup (fun x hx => hps x (hold hx))
      (fun x hx => hscope x (hold hx)) (fun x hx => hdot x (hold hx))
    have hmem : m ∈ ms ++ [m] := by simp
    have hparent : (segments m.name).dropLast = [] ∨ ∃ q r, (segments m.name).dropLast = segments q ∧
        (ps.map scopeEntry ++ ms.map methodEntry).lookup q = some (.scope r) := by
      by_cases hone : (segments m.name).dropLast = []
      · exact .inl hone
      · obtain ⟨q, hq, hseg⟩ := parent_segments hone
        refine .inr ⟨q, q, hseg, ?_⟩
        rw [List.lookup_append, lookup_scopeEntry (hscope m hmem hq), Option.some_or]
    have hfree : (ps.map scopeEntry ++ ms.map methodEntry).lookup m.name = none := by
      apply lookup_eq_none_iff.mpr
      simp only [List.map_append, List.map_map, List.mem_append, not_or]
      refine ⟨by simpa [scopeEntry] using hps m hmem, fun h => ?_⟩
      obtain ⟨x, hx, hxm⟩ := List.mem_map.mp h
      exact hm x.name (List.mem_map_of_mem hx) m.name (by simp) hxm
    obtain ⟨t'', ht'', hlist''⟩ := hlist'.attach (hdot m hmem) hparent hfree
      (isBare_method (Python.stub m)) .method
    refine ⟨t'', ?_, by simpa [methodEntry] using hlist''⟩
    rw [List.map_append]
    exact foldlM_concat_ok ht' ht''

-- ---------------------------------------------------------------------------
-- The whole class
-- ---------------------------------------------------------------------------

theorem execute_inert {ss : List Python.Statement} (h : ∀ st ∈ ss, execute t st = .ok t) :
    ss.foldlM execute t = .ok t := by
  induction ss with
  | nil => rfl
  | cons st ss ih =>
    obtain ⟨hst, hss⟩ := List.forall_mem_cons.mp h
    exact bind_ok.mpr ⟨t, hst, ih hss⟩

theorem execute_enumStatements (t : Tree) (hst : st ∈ Python.enumStatements name members) :
    execute t st = .ok t := by
  unfold Python.enumStatements at hst
  grind [execute]

theorem execute_attachStatements (t : Tree) (hst : st ∈ Python.attachStatements name members) :
    execute t st = .ok t := by
  unfold Python.attachStatements at hst
  grind [execute]

theorem execute_eventStatements (t : Tree) (hst : st ∈ Python.eventStatements events) :
    execute t st = .ok t := by
  unfold Python.eventStatements at hst
  grind [execute]

theorem ofService_ok {s : Service} (hps : s.namespaces.foldlM addNamespace (empty "") = .ok t)
    (hms : (s.methods.map Python.stub).foldlM addMethod t = .ok t') : ofService s = .ok t' := by
  have hns :
      (s.namespaces.map Python.Statement.addNamespace).foldlM execute (empty "") = .ok t := by
    rwa [List.foldlM_map]
  have hmethods : (s.methods.map Python.methodStatement).foldlM execute t = .ok t' := by
    rw [List.foldlM_map] at hms ⊢
    exact hms
  unfold ofService Python.statements
  refine foldlM_append_ok (foldlM_append_ok (foldlM_append_ok (foldlM_append_ok
    (foldlM_concat_ok (execute_inert ?_) rfl) hns) hmethods) (execute_inert ?_)) (execute_inert ?_)
  · intro st hst
    obtain ⟨_, -, hst⟩ := List.mem_flatMap.mp hst
    exact execute_enumStatements _ hst
  · exact fun st hst => execute_eventStatements _ hst
  · intro st hst
    obtain ⟨_, -, hst⟩ := List.mem_flatMap.mp hst
    exact execute_attachStatements _ hst

variable {s : Service}

theorem method_not_mem_namespaces (h : s.Reachable) (hm : m ∈ s.methodNames) :
    m ∉ s.namespaces := by
  intro hp
  obtain ⟨n, hn, hp⟩ := Name.mem_namespacePaths.mp hp
  exact h.noClash m hm n hn hp

theorem names_entriesOf (s : Service) :
    (entriesOf s).map Prod.fst = s.namespaces ++ s.methodNames := by
  simp [entriesOf, Service.methodNames, Function.comp_def, scopeEntry, methodEntry]

theorem nodup_names_entriesOf (h : s.Reachable) : ((entriesOf s).map Prod.fst).Nodup := by
  rw [names_entriesOf, List.nodup_append]
  refine ⟨Name.nodup_namespacePaths _, h.nodup_methodNames, ?_⟩
  intro p hp m hm hpm
  exact method_not_mem_namespaces h hm (hpm ▸ hp)

theorem ofService_lists (h : s.Reachable) (hdot : ∀ n ∈ s.memberNames, n.toList.head? ≠ some '.') :
    ∃ t, ofService s = .ok t ∧ t.Lists (entriesOf s) := by
  have hmethod {m} (hm : m ∈ s.methods) : m.name ∈ s.memberNames :=
    List.mem_append_left _ (List.mem_map_of_mem hm)
  have hscope : ∀ p ∈ s.namespaces, p.toList.head? ≠ some '.' := by
    intro p hp
    obtain ⟨n, hn, hp⟩ := Name.mem_namespacePaths.mp hp
    exact Name.head?_of_mem_ancestors hp (hdot n hn)
  obtain ⟨t, ht, hlist⟩ := addNamespaces (Name.namespacePaths_outermostFirst _)
    (Name.nodup_namespacePaths _) hscope
  have hfree : ∀ m ∈ s.methods, m.name ∉ s.namespaces := fun m hm =>
    method_not_mem_namespaces h (List.mem_map_of_mem hm)
  have hparents : ∀ m ∈ s.methods, Name.ancestors m.name ⊆ s.namespaces := fun m hm p hp =>
    Name.mem_namespacePaths.mpr ⟨m.name, hmethod hm, hp⟩
  obtain ⟨t', ht', hlist'⟩ := addMethods hlist h.nodup_methodNames hfree hparents
    fun m hm => hdot m.name (hmethod hm)
  exact ⟨t', ofService_ok ht ht', hlist'⟩

/-- The tree holds the methods and the namespaces of a service where their names say, and nothing
else. -/
structure Exact (s : Service) (t : Tree) : Prop where
  root : ∃ cs, t = .scope "" cs
  method : ∀ m ∈ s.methods, t.find? (segments m.name) = some (.method (Python.stub m))
  scope : ∀ p ∈ s.impliedNamespaces, ∃ cs, t.find? (segments p) = some (.scope p cs)
  nothingElse : ∀ path node, path ≠ [] → t.find? path = some node →
    (∃ m ∈ s.methods, path = segments m.name) ∨ ∃ p ∈ s.impliedNamespaces, path = segments p
  keysDistinct : t.KeysDistinct
  rootMembers : ∀ className, t.children.map Prod.fst = (Emission.mk s className).rootMembers

theorem find?_of_at? {t : Tree} (h : t.at? path = some k) :
    ∃ node, t.find? path = some node ∧ node.kind = k :=
  Option.map_eq_some_iff.mp h

theorem kind_eq_scope {t : Tree} (h : t.kind = .scope p) : ∃ cs, t = .scope p cs := by
  cases t with
  | scope q cs => exact ⟨cs, by simpa [kind] using h⟩
  | method stub => cases h

theorem kind_eq_method {t : Tree} (h : t.kind = .method stub) : t = .method stub := by
  cases t with
  | scope q cs => cases h
  | method stub' => simpa [kind] using h

theorem mem_of_lookup_byPath {entries : List (String × Kind)}
    (h : (byPath entries).lookup path = some k) :
    ∃ name, path = segments name ∧ (name, k) ∈ entries := by
  obtain ⟨⟨name, k⟩, hentry, heq⟩ := List.mem_map.mp (mem_of_lookup h)
  cases heq
  exact ⟨name, rfl, hentry⟩

/-- The class generated for a service that registrations led to builds its tree without a failure,
and the tree is exact, provided that no name begins with a dot. -/
theorem ofService_exact (h : s.Reachable) (hdot : ∀ n ∈ s.memberNames, n.toList.head? ≠ some '.') :
    ∃ t, ofService s = .ok t ∧ Exact s t := by
  obtain ⟨t, ht, hlist⟩ := ofService_lists h hdot
  have hat {name k} (hk : (name, k) ∈ entriesOf s) :
      ∃ node, t.find? (segments name) = some node ∧ node.kind = k := by
    apply find?_of_at?
    rw [hlist.at? _ (Name.segments_ne_nil name), lookup_byPath,
      lookup_of_mem (nodup_names_entriesOf h) hk]
  refine ⟨t, ht, kind_eq_scope hlist.root, ?_, ?_, ?_, hlist.distinct, ?_⟩
  · intro m hm
    obtain ⟨node, hnode, hkind⟩ := hat (List.mem_append_right _ (List.mem_map_of_mem hm))
    rw [kind_eq_method hkind] at hnode
    exact hnode
  · intro p hp
    have hp : p ∈ s.namespaces := Name.mem_firsts.mpr hp
    obtain ⟨node, hnode, hkind⟩ := hat (List.mem_append_left _ (List.mem_map_of_mem hp))
    obtain ⟨cs, rfl⟩ := kind_eq_scope hkind
    exact ⟨cs, hnode⟩
  · intro path node hpath hnode
    have hk : t.at? path = some node.kind := by rw [at?, hnode, Option.map_some]
    rw [hlist.at? path hpath] at hk
    obtain ⟨name, rfl, hmem⟩ := mem_of_lookup_byPath hk
    rcases List.mem_append.mp hmem with hmem | hmem
    · obtain ⟨p, hp, heq⟩ := List.mem_map.mp hmem
      obtain rfl : p = name := congrArg Prod.fst heq
      exact .inr ⟨p, Name.mem_firsts.mp hp, rfl⟩
    · obtain ⟨m, hm, heq⟩ := List.mem_map.mp hmem
      obtain rfl : m.name = name := congrArg Prod.fst heq
      exact .inl ⟨m, hm, rfl⟩
  · intro className
    have hnodup : (s.namespaces ++ s.methodNames).Nodup := by
      rw [← names_entriesOf]
      exact nodup_names_entriesOf h
    rw [hlist.keys, names_entriesOf]
    exact (Name.firsts_of_nodup (hnodup.filter _)).symm

/-- An empty segment makes a namespace like any other, and events only add namespaces. -/
theorem status_tree_exact :
    let s := (((Service.empty (.str "1.0") (.str "Jobs")).after
      (.readMethod [] ⟨"jobs..list", [], none, none⟩)).after
      (.readMethod [] ⟨"status", [], none, none⟩)).after (.event [] (.str "disk.full") .null .null)
    s.Reachable ∧ (∀ n ∈ s.memberNames, n.toList.head? ≠ some '.') ∧
      s.namespaces = ["jobs", "jobs.", "disk"] ∧ ∃ t, ofService s = .ok t ∧ Exact s t := by
  intro s
  have hs : s.Reachable := ((Service.Reachable.empty _ _).after _ |>.after _).after _
  have hnames : s.memberNames = ["jobs..list", "status", "disk.full"] := by
    simp only [s]
    decide +kernel
  have hdot : ∀ n ∈ s.memberNames, n.toList.head? ≠ some '.' := by
    rw [hnames]
    decide
  refine ⟨hs, hdot, ?_, ofService_exact hs hdot⟩
  rw [Service.namespaces, hnames]
  decide +kernel

-- ---------------------------------------------------------------------------
-- The class as it is built
-- ---------------------------------------------------------------------------

theorem execute_of_proxyClass {c c' : ProxyClass} (h : c.execute st = .ok c') :
    execute c.tree st = .ok c'.tree := by
  cases st with
  | enum name members =>
    simp only [ProxyClass.execute, bind_ok, pure_ok] at h
    obtain ⟨_, -, _, -, rfl⟩ := h
    rfl
  | tree =>
    simp only [ProxyClass.execute, bind_ok, pure_ok] at h
    obtain ⟨_, -, rfl⟩ := h
    rfl
  | addNamespace path =>
    simp only [ProxyClass.execute, bind_ok, pure_ok] at h
    obtain ⟨t, ht, rfl⟩ := h
    exact ht
  | addMethod name params expectReturn doc =>
    simp only [ProxyClass.execute, bind_ok, pure_ok] at h
    obtain ⟨_, -, t, ht, rfl⟩ := h
    exact ht
  | events names =>
    cases h
    rfl
  | attach name members =>
    simp only [ProxyClass.execute] at h
    split at h
    · cases h
    · simp only [bind_ok, pure_ok] at h
      obtain ⟨_, -, rfl⟩ := h
      rfl

/-- A generated class that can be defined at all has the tree of its service. -/
theorem ofService_of_proxyClass {c : ProxyClass}
    (h : ProxyClass.ofStatements name (Python.statements s) = .ok c) :
    ofService s = .ok c.tree := by
  have hrun {ss : List Python.Statement} {c c' : ProxyClass}
      (h : ss.foldlM ProxyClass.execute c = .ok c') : ss.foldlM execute c.tree = .ok c'.tree := by
    induction ss generalizing c with
    | nil =>
      cases h
      rfl
    | cons st ss ih =>
      obtain ⟨next, hnext, hrest⟩ := bind_ok.mp h
      exact bind_ok.mpr ⟨next.tree, execute_of_proxyClass hnext, ih hrest⟩
  exact hrun h

end Tree

end Farcall
