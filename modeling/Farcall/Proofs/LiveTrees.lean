import Farcall.Proofs.Actions
import Farcall.Proofs.Trees

/-!
# Trees as maps from names

A tree that is built where it stands is changed by programs: they go down to the namespace of a
name, look whether the name is free, and write last. Seen from outside, such a tree is a finite map
from dotted names to nodes, as long as no name begins with a dot.
-/

namespace Farcall

open Name (segments parent)

namespace Tree

-- ---------------------------------------------------------------------------
-- Nodes by name
-- ---------------------------------------------------------------------------

/-- The name that a node carries: the path of a namespace, or that of a method. -/
def Kind.name : Kind → String
  | .scope path => path
  | .method stub => stub.name

def Kind.bare : Kind → Tree
  | .scope path => empty path
  | .method stub => .method stub

@[simp] theorem kind_bare (k : Kind) : k.bare.kind = k := by
  cases k <;> rfl

theorem isBare_bare (k : Kind) : k.bare.IsBare := by
  cases k with
  | scope path => exact isBare_empty path
  | method stub => exact isBare_method stub

theorem keysDistinct_bare (k : Kind) : k.bare.KeysDistinct := by
  cases k with
  | scope path => exact .scope .nil (by simp)
  | method stub => exact .method

@[simp] theorem children_bare (k : Kind) : k.bare.children = [] := by
  cases k <;> rfl

def addNode (t : Tree) : Kind → Except Failure Tree
  | .scope path => t.addNamespace path
  | .method stub => t.addMethod stub

theorem addNode_eq (t : Tree) (k : Kind) : t.addNode k = t.attach k.name k.bare := by
  cases k <;> rfl

def node? (t : Tree) (name : String) : Option Kind :=
  t.at? (segments name)

/-- Whether the namespace of a name is there; the root always is. -/
def HoldsParent (t : Tree) (name : String) : Prop :=
  parent name = "" ∨ ∃ path, t.node? (parent name) = some (.scope path)

def keysAt? (t : Tree) (path : List String) : Option (List String) :=
  (t.find? path).map fun node => node.children.map Prod.fst

variable {cs cs' : List (String × Tree)} {node : Tree}

theorem find?_append (t : Tree) (path rest : List String) :
    t.find? (path ++ rest) = (t.find? path).bind (·.find? rest) := by
  induction path generalizing t with
  | nil => cases t <;> rfl
  | cons key path ih =>
    cases t with
    | method stub => rfl
    | scope p cs =>
      simp only [List.cons_append, find?]
      cases cs.lookup key with
      | none => rfl
      | some c => exact ih c

theorem at?_eq_scope {t : Tree} :
    t.at? path = some (.scope p) ↔ ∃ cs, t.find? path = some (.scope p cs) := by
  unfold at?
  cases t.find? path with
  | none => simp
  | some node => cases node <;> simp [kind]

theorem holdsParent_iff :
    (scope r cs).HoldsParent name ↔ ∃ p, (scope r cs).at? (parentPath name) = some (.scope p) := by
  unfold HoldsParent parentPath
  by_cases hroot : parent name = ""
  · simp [hroot, kind]
  · simp [hroot, node?]

-- ---------------------------------------------------------------------------
-- Writing
-- ---------------------------------------------------------------------------

/-- Sets a key: a known key keeps its place and leads to the new node, a new one goes last. -/
def assign (key : String) (node : Tree) (cs : List (String × Tree)) : List (String × Tree) :=
  if (cs.lookup key).isSome then replace key node cs else cs ++ [(key, node)]

def write (key : String) (node : Tree) : List String → Tree → Tree
  | [], .scope p cs => .scope p (assign key node cs)
  | step :: path, .scope p cs =>
    match cs.lookup step with
    | some c => .scope p (replace step (write key node path c) cs)
    | none => .scope p cs
  | _, .method stub => .method stub

/-- The node is written where the path leads to a namespace that does not have the key. -/
theorem attachAt_eq : scope r <$> attachAt name key node path cs =
    match (scope r cs).find? path with
    | some (.scope _ inner) =>
      if (inner.lookup key).isSome then .error (.usage (.nodeExists name))
      else .ok (write key node path (scope r cs))
    | _ => .error (.usage (.namespaceMissing (parent name) name)) := by
  induction path generalizing r cs with
  | nil =>
    simp only [attachAt, find?, write, assign]
    cases cs.lookup key <;> rfl
  | cons step path ih =>
    simp only [attachAt, find?, write]
    cases hstep : cs.lookup step with
    | none => rfl
    | some c =>
      cases c with
      | method stub => cases path <;> rfl
      | scope p inner =>
        have hinner : scope r <$> (do
              return replace step (scope p (← attachAt name key node path inner)) cs) =
            (fun t => scope r (replace step t cs)) <$>
              (scope p <$> attachAt name key node path inner) := by
          cases attachAt name key node path inner <;> rfl
        simp only [hinner, ih, Option.bind_some]
        split
        · split <;> rfl
        · rfl

theorem attach_eq : (scope r cs).attach name node =
    scope r <$> attachAt name (Name.leaf name) node (parentPath name) cs := by
  simp only [attach, map_eq_pure_bind]

theorem attach_ok (h : (scope r cs).attach name node = .ok t) :
    ∃ cs', attachAt name (Name.leaf name) node (parentPath name) cs = .ok cs' ∧
      t = scope r cs' := by
  rw [attach_eq] at h
  obtain ⟨cs', hcs, rfl⟩ := map_ok.mp h
  exact ⟨cs', hcs, rfl⟩

theorem attach_missing (h : ¬ (scope r cs).HoldsParent name) :
    (scope r cs).attach name node = .error (.usage (.namespaceMissing (parent name) name)) := by
  rw [attach_eq, attachAt_eq]
  split
  · rename_i p inner hscope
    exact (h (holdsParent_iff.mpr ⟨p, at?_eq_scope.mpr ⟨inner, hscope⟩⟩)).elim
  · rfl

/-- Where a namespace is there, the name is taken or the node is written. -/
theorem attach_held (node : Tree) (hdot : name.toList.head? ≠ some '.')
    (h : (scope r cs).HoldsParent name) :
    (scope r cs).attach name node = if ((scope r cs).node? name).isSome
      then .error (.usage (.nodeExists name))
      else .ok (write (Name.leaf name) node (parentPath name) (scope r cs)) := by
  obtain ⟨p, hp⟩ := holdsParent_iff.mp h
  obtain ⟨inner, hscope⟩ := at?_eq_scope.mp hp
  have hnode : ((scope r cs).node? name).isSome = (inner.lookup (Name.leaf name)).isSome := by
    rw [node?, ← dropLast_append_leaf, ← parentPath_eq hdot, at?, find?_append, hscope]
    simp only [Option.bind_some, find?, Option.isSome_map]
    cases inner.lookup (Name.leaf name) with
    | none => rfl
    | some c => cases c <;> rfl
  rw [attach_eq, attachAt_eq, hscope, hnode]

-- ---------------------------------------------------------------------------
-- Order
-- ---------------------------------------------------------------------------

@[simp] theorem keysAt?_nil (t : Tree) : t.keysAt? [] = some (t.children.map Prod.fst) := by
  cases t <;> rfl

@[simp] theorem keysAt?_scope_cons :
    (scope p cs).keysAt? (key :: path) = (cs.lookup key).bind (·.keysAt? path) := by
  simp only [keysAt?, find?]
  cases cs.lookup key <;> rfl

@[simp] theorem keysAt?_bare_cons (k : Kind) : k.bare.keysAt? (key :: path) = none := by
  cases k <;> rfl

/-- The new key goes last among its own siblings, and all other keys stay as they are. -/
theorem keysAt?_attachAt {k : Kind} (h : attachAt name key k.bare path cs = .ok cs') :
    (scope r cs').keysAt? q = if q = path ++ [key] then some []
      else ((scope r cs).keysAt? q).map (· ++ if q = path then [key] else []) := by
  induction path generalizing cs cs' q r with
  | nil =>
    simp only [attachAt] at h
    split at h
    · cases h
    · rename_i hfree
      cases h
      cases q with
      | nil => simp [children]
      | cons first q =>
        by_cases hfirst : first = key
        · subst hfirst
          cases q <;> simp [List.lookup_append, hfree]
        · have hother : (first == key) = false := by simpa using hfirst
          simp [List.lookup_append, List.lookup_cons, hfirst, hother]
  | cons step path ih =>
    simp only [attachAt] at h
    split at h
    · rename_i p inner hstep
      simp only [bind_ok, pure_ok] at h
      obtain ⟨inner', hin, rfl⟩ := h
      cases q with
      | nil => simp [children, keys_replace]
      | cons first q =>
        by_cases hfirst : first = step
        · subst hfirst
          simp [lookup_replace, hstep, ih hin]
        · simp [lookup_replace, hfirst]
    · cases h

end Tree

-- ---------------------------------------------------------------------------
-- Programs
-- ---------------------------------------------------------------------------

namespace LiveTree

open Farcall.Action
open Farcall.Tree (Kind parentPath parentPath_eq dropLast_append_leaf)

/-- What stands at a place on the way to a name must be a namespace. -/
def checkScope (name : String) (place : List String) (t : Tree) : Except Failure Unit :=
  match t.find? place with
  | some (.scope _ _) => .ok ()
  | _ => .error (.usage (.namespaceMissing (parent name) name))

def checkFree (name : String) (place : List String) (t : Tree) : Except Failure Unit :=
  if (t.find? place).isSome then .error (.usage (.nodeExists name)) else .ok ()

def descend (name : String) (place : List String) : List String → Action Tree (List String)
  | [] => pure place
  | key :: keys => do
    looks (checkScope name (place ++ [key]))
    descend name (place ++ [key]) keys

def findParent (name : String) : Action Tree (List String) := do
  let place ← descend name [] (parentPath name)
  looks (checkFree name (place ++ [Name.leaf name]))
  return place

def add (k : Kind) : Action Tree Unit := do
  let place ← findParent k.name
  modify (Tree.write (Name.leaf k.name) k.bare place)

/-- The tree after some calls, one after the other; a failed one does not keep the next from being
made. -/
def addAll (calls : List Kind) (t : Tree) : Tree :=
  calls.foldl (fun t k => (add k t).2) t

theorem descend_run (hplace : t.find? place = some (.scope p cs)) :
    descend name place keys t = (match t.find? (place ++ keys) with
      | some (.scope _ _) => .ok (place ++ keys)
      | _ => .error (.usage (.namespaceMissing (parent name) name)), t) := by
  induction keys generalizing place p cs with
  | nil =>
    rw [List.append_nil, hplace]
    rfl
  | cons key keys ih =>
    have hkeys : t.find? (place ++ key :: keys) =
        (t.find? (place ++ [key])).bind (·.find? keys) := by
      rw [← Tree.find?_append, List.append_assoc, List.singleton_append]
    rw [descend, bind_run, looks, checkScope]
    cases hkey : t.find? (place ++ [key]) with
    | none =>
      rw [hkeys, hkey]
      rfl
    | some node =>
      cases node with
      | scope q inner =>
        have hrest := ih hkey
        rw [List.append_assoc, List.singleton_append] at hrest
        exact hrest
      | method stub =>
        rw [hkeys, hkey]
        cases keys <;> rfl

theorem add_run : add k (.scope r cs) =
    outcome (.scope r cs) ((·, ()) <$> (Tree.scope r cs).addNode k) := by
  have hroot : (Tree.scope r cs).find? [] = some (.scope r cs) := rfl
  rw [Tree.addNode_eq, Tree.attach_eq, Tree.attachAt_eq, add, bind_run, findParent, bind_run,
    descend_run hroot, List.nil_append]
  cases hparent : (Tree.scope r cs).find? (parentPath k.name) with
  | none => rfl
  | some node =>
    cases node with
    | method stub => rfl
    | scope p inner =>
      simp only [bind_run, looks, checkFree, Tree.find?_append, hparent, Option.bind_some,
        Tree.find?]
      cases inner.lookup (Name.leaf k.name) with
      | none => rfl
      | some c => cases c <;> rfl

-- ---------------------------------------------------------------------------
-- The map
-- ---------------------------------------------------------------------------

/-- Every node of a tree is found once, under the keys that its name consists of. -/
structure Named (t : Tree) : Prop where
  root : ∃ r cs, t = .scope r cs
  named : ∀ path node, path ≠ [] → t.find? path = some node →
    node.kind.name = Name.ofSegments path ∧ segments node.kind.name = path
  distinct : t.KeysDistinct

def Raises (kind : UsageKind) (e : UsageError) (result : Except Failure Unit) : Prop :=
  result = .error (.usage e) ∧ e.kind = kind

/-- What a call does to a tree, told by the nodes that the tree holds under their names. -/
structure ActsOnMap (t : Tree) (k : Kind) (result : Except Failure Unit) (t' : Tree) : Prop where
  succeeds : result = .ok () ↔ t.node? k.name = none ∧ t.HoldsParent k.name
  adds : result = .ok () → ∀ name, t'.node? name = if name = k.name then some k else t.node? name
  /-- The new node is the last among its siblings, and no other key moves. -/
  order : result = .ok () → ∀ path, t'.keysAt? path = if path = segments k.name then some []
    else (t.keysAt? path).map (· ++ if path = (segments k.name).dropLast
      then [Name.leaf k.name] else [])
  missing : ¬ t.HoldsParent k.name →
    Raises .key (.namespaceMissing (parent k.name) k.name) result
  occupied : t.HoldsParent k.name → t.node? k.name ≠ none →
    Raises .value (.nodeExists k.name) result
  unchanged : result ≠ .ok () → t' = t

variable {k : Kind} {cs : List (String × Tree)}

theorem named_empty (r : String) : Named (.empty r) where
  root := ⟨r, [], rfl⟩
  named path node hpath hnode := by
    obtain ⟨key, path, rfl⟩ := List.exists_cons_of_ne_nil hpath
    cases hnode
  distinct := .scope .nil (by simp)

theorem Named.attach (h : Named (.scope r cs)) (hdot : k.name.toList.head? ≠ some '.')
    (hok : (Tree.scope r cs).attach k.name k.bare = .ok t) : Named t := by
  obtain ⟨cs', hcs, rfl⟩ := Tree.attach_ok hok
  refine ⟨⟨r, cs', rfl⟩, ?_,
    Tree.keysDistinct_attachAt h.distinct (Tree.keysDistinct_bare k) hcs⟩
  intro path node hpath hnode
  have hat : (Tree.scope r cs').at? path = some node.kind := by
    rw [Tree.at?, hnode, Option.map_some]
  rw [Tree.at?_attachAt (Tree.isBare_bare k) hcs hpath, parentPath_eq hdot,
    dropLast_append_leaf] at hat
  split at hat
  · rename_i hname
    have hkind : k = node.kind := by simpa using hat
    rw [← hkind, hname, Name.ofSegments_segments]
    exact ⟨rfl, rfl⟩
  · obtain ⟨old, hold, hkind⟩ := Option.map_eq_some_iff.mp hat
    exact hkind ▸ h.named path old hpath hold

theorem actsOnMap_of_missing (h : ¬ t.HoldsParent k.name) :
    ActsOnMap t k (.error (.usage (.namespaceMissing (parent k.name) k.name))) t where
  succeeds := ⟨fun hok => (nomatch hok), fun hok => (h hok.2).elim⟩
  adds hok := nomatch hok
  order hok := nomatch hok
  missing _ := ⟨rfl, rfl⟩
  occupied hheld := (h hheld).elim
  unchanged _ := rfl

theorem actsOnMap_of_taken (hheld : t.HoldsParent k.name) (h : t.node? k.name ≠ none) :
    ActsOnMap t k (.error (.usage (.nodeExists k.name))) t where
  succeeds := ⟨fun hok => (nomatch hok), fun hok => (h hok.1).elim⟩
  adds hok := nomatch hok
  order hok := nomatch hok
  missing hmissing := (hmissing hheld).elim
  occupied _ _ := ⟨rfl, rfl⟩
  unchanged _ := rfl

theorem actsOnMap_of_attached (hdot : k.name.toList.head? ≠ some '.')
    (hheld : (Tree.scope r cs).HoldsParent k.name) (hfree : (Tree.scope r cs).node? k.name = none)
    (hok : (Tree.scope r cs).attach k.name k.bare = .ok t) :
    ActsOnMap (.scope r cs) k (.ok ()) t := by
  obtain ⟨cs', hcs, rfl⟩ := Tree.attach_ok hok
  rw [parentPath_eq hdot] at hcs
  refine ⟨⟨fun _ => ⟨hfree, hheld⟩, fun _ => rfl⟩, fun _ name => ?_, fun _ path => ?_,
    fun h => (h hheld).elim, fun _ h => (h hfree).elim, fun h => (h rfl).elim⟩
  · have hat := Tree.at?_attachAt (r := r) (Tree.isBare_bare k) hcs (Name.segments_ne_nil name)
    simp only [dropLast_append_leaf, Name.segments_inj, Tree.kind_bare] at hat
    exact hat
  · have hkeys := Tree.keysAt?_attachAt (r := r) (q := path) hcs
    rwa [dropLast_append_leaf] at hkeys

theorem actsOnMap_add (hdot : k.name.toList.head? ≠ some '.') :
    ActsOnMap (.scope r cs) k (add k (.scope r cs)).1 (add k (.scope r cs)).2 := by
  rw [add_run, Tree.addNode_eq]
  by_cases hheld : (Tree.scope r cs).HoldsParent k.name
  · cases hnode : (Tree.scope r cs).node? k.name with
    | none =>
      have hok := Tree.attach_held k.bare hdot hheld
      rw [hnode, Option.isSome_none, if_neg Bool.false_ne_true] at hok
      rw [hok]
      exact actsOnMap_of_attached hdot hheld hnode hok
    | some old =>
      rw [Tree.attach_held k.bare hdot hheld, hnode, Option.isSome_some, if_pos rfl]
      exact actsOnMap_of_taken hheld (by simp [hnode])
  · rw [Tree.attach_missing hheld]
    exact actsOnMap_of_missing hheld

theorem Named.add (h : Named t) (hdot : k.name.toList.head? ≠ some '.') :
    Named (add k t).2 := by
  obtain ⟨r, cs, rfl⟩ := h.root
  rw [add_run, Tree.addNode_eq]
  cases hattach : (Tree.scope r cs).attach k.name k.bare with
  | ok t => exact h.attach hdot hattach
  | error e => exact h

theorem Named.addAll (h : Named t) (hcalls : ∀ c ∈ calls, c.name.toList.head? ≠ some '.') :
    Named (addAll calls t) := by
  induction calls generalizing t with
  | nil => exact h
  | cons c calls ih =>
    obtain ⟨hc, hcalls⟩ := List.forall_mem_cons.mp hcalls
    exact ih (h.add hc) hcalls

/-- Whatever calls were made of names that do not begin with a dot, failed ones included, the nodes
of the tree stand where their names say. The next call comes to what the function on trees gives,
and acts on the tree as on a map from names to nodes. -/
theorem calls_act_on_map (r : String) (hcalls : ∀ c ∈ calls, c.name.toList.head? ≠ some '.')
    (hdot : k.name.toList.head? ≠ some '.') :
    let t := addAll calls (.empty r)
    Named t ∧ LiveTree.add k t = outcome t ((·, ()) <$> t.addNode k) ∧
      ActsOnMap t k (LiveTree.add k t).1 (LiveTree.add k t).2 := by
  intro t
  have hnamed : Named t := (named_empty r).addAll hcalls
  obtain ⟨p, cs, ht⟩ := hnamed.root
  refine ⟨hnamed, ?_⟩
  rw [ht]
  exact ⟨add_run, actsOnMap_add hdot⟩

/-- A method stands in the way of a namespace below it, and an empty segment is like any other. -/
theorem calls_act_on_map_of_jobs :
    let calls : List Kind := [.scope "jobs", .method ⟨"jobs.list", [], true, none⟩,
      .scope "jobs.list.all", .scope "jobs.", .scope "jobs"]
    let k : Kind := .method ⟨"jobs..list", ["page"], true, none⟩
    let t := addAll calls (.empty "")
    (∀ c ∈ calls, c.name.toList.head? ≠ some '.') ∧ k.name.toList.head? ≠ some '.' ∧
      Named t ∧ LiveTree.add k t = outcome t ((·, ()) <$> t.addNode k) ∧
        ActsOnMap t k (LiveTree.add k t).1 (LiveTree.add k t).2 := by
  intro calls k t
  have hcalls : ∀ c ∈ calls, c.name.toList.head? ≠ some '.' := by decide +kernel
  have hdot : k.name.toList.head? ≠ some '.' := by decide +kernel
  exact ⟨hcalls, hdot, calls_act_on_map "" hcalls hdot⟩

end LiveTree

end Farcall
