import Farcall.Proofs.ProxyClasses
import Farcall.Proofs.Subscriptions
import Farcall.Proxy.Proxy

/-!
# Calls through a proxy

The methods of a service are found on its proxy under the segments of their names, and calling one
makes one call over the line, in its own name and over the transport selected last. A name that its
literal does not give back is not found.
-/

namespace Farcall

open Name (segments)

-- ---------------------------------------------------------------------------
-- Names that literals give back
-- ---------------------------------------------------------------------------

namespace Python

theorem all_readsBack_segments (name : String) :
    (segments name).all readsBack = readsBack name := by
  rw [Bool.eq_iff_iff, List.all_eq_true, readsBack_iff,
    ← Name.forall_mem_segments (P := fun c => c.toNat < 0x10000) (by decide)]
  simp only [readsBack_iff]

end Python

-- ---------------------------------------------------------------------------
-- Binding the tree
-- ---------------------------------------------------------------------------

namespace ProxyClass

theorem fixedFault?_eq_none (h : key.toList.head? ≠ some '_') : fixedFault? key = none := by
  unfold fixedFault?
  split
  · exact absurd rfl h
  · exact absurd rfl h
  · exact absurd rfl h
  · rfl

theorem membersFault?_eq_none {cs : List (String × Tree)}
    (h : ∀ c ∈ cs, nodeFault? c.2 = none ∧ fixedFault? c.1 = none) : membersFault? cs = none := by
  induction cs with
  | nil => rw [membersFault?]
  | cons c cs ih =>
    obtain ⟨⟨hnode, hkey⟩, hrest⟩ := List.forall_mem_cons.mp h
    rw [membersFault?, hnode, hkey, ih hrest]
    rfl

theorem nodeFault?_eq_none {t : Tree} (hd : t.KeysDistinct)
    (h : ∀ path key, t.at? (path ++ [key]) ≠ none → fixedFault? key = none) :
    nodeFault? t = none := by
  induction hd with
  | method => rw [nodeFault?]
  | @scope cs p hkeys hinner ih =>
    rw [nodeFault?]
    refine membersFault?_eq_none fun c hc => ?_
    have hlookup : cs.lookup c.1 = some c.2 := Tree.lookup_of_mem hkeys hc
    refine ⟨ih c hc fun path key hat => h (c.1 :: path) key ?_, h [] c.1 ?_⟩
    · rw [List.cons_append, Tree.at?_scope_cons, hlookup]
      exact hat
    · rw [List.nil_append, Tree.at?_scope_cons, hlookup]
      simp

theorem bindFault?_eq_none {c : ProxyClass} (hd : c.tree.KeysDistinct)
    (hkeys : ∀ path key, c.tree.at? (path ++ [key]) ≠ none → key.toList.head? ≠ some '_')
    (hroot : ∀ key ∈ c.tree.children.map Prod.fst, key ∉ properties) : c.bindFault? = none := by
  rw [bindFault?]
  cases htree : c.tree with
  | method stub => rfl
  | scope p cs =>
    rw [htree] at hd hkeys hroot
    cases hd with | scope hdistinct hinner => ?_
    rw [Tree.children, List.findSome?_eq_none_iff]
    rintro ⟨key, node⟩ hx
    have hlookup : cs.lookup key = some node := Tree.lookup_of_mem hdistinct hx
    have hnode : nodeFault? node = none := by
      refine nodeFault?_eq_none (hinner _ hx) fun path inner hat => fixedFault?_eq_none ?_
      refine hkeys (key :: path) inner ?_
      rw [List.cons_append, Tree.at?_scope_cons, hlookup]
      exact hat
    have hkey : key.toList.head? ≠ some '_' := by
      refine hkeys [] key ?_
      rw [List.nil_append, Tree.at?_scope_cons, hlookup]
      simp
    have hproperty : key ∉ properties := hroot key (List.mem_map_of_mem hx)
    simp only [hnode, if_neg hproperty, fixedFault?_eq_none hkey, Option.or_none]

end ProxyClass

-- ---------------------------------------------------------------------------
-- The tree of a service as a proxy
-- ---------------------------------------------------------------------------

namespace Tree

variable {s : Service} {t : Tree}

/-- The keys of the tree are segments of the names of methods and events. -/
theorem Lists.key_mem (hlist : t.Lists (entriesOf s)) (hat : t.at? (path ++ [key]) ≠ none) :
    ∃ n ∈ s.memberNames, key ∈ segments n := by
  obtain ⟨k, hk⟩ := Option.ne_none_iff_exists'.mp hat
  rw [hlist.at? _ (by simp)] at hk
  obtain ⟨name, hname, hmem⟩ := mem_of_lookup_byPath hk
  have hkey : key ∈ segments name := by simp [← hname]
  have hlisted : name ∈ s.namespaces ++ s.methodNames := by
    rw [← names_entriesOf]
    exact List.mem_map_of_mem hmem
  rcases List.mem_append.mp hlisted with hspace | hmethod
  · obtain ⟨n, hn, hancestor⟩ := Name.mem_namespacePaths.mp hspace
    have hprefix := (Name.mem_ancestors.mp hancestor).subset hkey
    exact ⟨n, hn, List.dropLast_subset _ hprefix⟩
  · exact ⟨name, List.mem_append_left _ hmethod, hkey⟩

/-- What stands at the root is among the members whose names an emission checks. -/
theorem Lists.root_mem (hlist : t.Lists (entriesOf s)) (hkey : key ∈ t.children.map Prod.fst)
    (className : String) : key ∈ (Emission.mk s className).rootMembers := by
  rw [hlist.keys, names_entriesOf] at hkey
  exact Name.mem_firsts.mpr hkey

theorem Lists.find?_method (hlist : t.Lists (entriesOf s)) (h : s.Reachable) (hm : m ∈ s.methods) :
    t.find? (segments m.name) = some (.method (Python.stub m)) := by
  have hmem : (m.name, Kind.method (Python.stub m)) ∈ entriesOf s :=
    List.mem_append_right _ (List.mem_map_of_mem hm)
  have hat : t.at? (segments m.name) = some (.method (Python.stub m)) := by
    rw [hlist.at? _ (Name.segments_ne_nil m.name), lookup_byPath,
      lookup_of_mem (nodup_names_entriesOf h) hmem]
  obtain ⟨node, hnode, hkind⟩ := find?_of_at? hat
  rwa [kind_eq_method hkind] at hnode

end Tree

-- ---------------------------------------------------------------------------
-- Steps
-- ---------------------------------------------------------------------------

def Recorder.taken (x : Recorder) (r : Request) (callback : Option Value) : Recorder :=
  { x with calls := x.calls ++ [(r, callback)] }

theorem Station.call_recorder {st : Station} (hline : st.line = .recorder x)
    (hrefusal : x.refusal = none) (r : Request) (callback : Option Value) :
    Station.call r callback st =
      (.ok .token, { st with line := .recorder (x.taken r callback) }) := by
  obtain ⟨refusal, calls, closings, waiting⟩ := x
  obtain rfl : refusal = none := hrefusal
  simp only [Station.call, Action.bind_run, Action.get_run, hline]
  rfl

namespace Proxy

inductive Step where
  | use (t : Transport)
  | call (path : List String) (args : List Value)
  | meanwhile (f : Client → Client)

def after (p : Proxy) : Step → Proxy
  | .use t => (p.use t).1
  | .call path args => (p.invoke path args).1
  | .meanwhile f => { p with client := f p.client }

def afterAll (p : Proxy) (steps : List Step) : Proxy :=
  steps.foldl after p

/-- The transport that a step selects. The codec of an enumeration may stand in the place of a
selector, and then nothing is selected. -/
def Step.selection? (c : ProxyClass) : Step → Option Transport
  | .use t => if (c.enums.lookup (selector t)).isSome then none else some t
  | .call _ _ => none
  | .meanwhile _ => none

def selected (c : ProxyClass) (steps : List Step) : Transport :=
  ((steps.filterMap (Step.selection? c)).getLast?).getD .http

variable {p : Proxy}

theorem definition_invoke (p : Proxy) (path : List String) (args : List Value) :
    (p.invoke path args).1.definition = p.definition := by
  unfold invoke
  split <;> rfl

theorem transport_invoke (p : Proxy) (path : List String) (args : List Value) :
    (p.invoke path args).1.transport = p.transport := by
  unfold invoke
  split <;> rfl

theorem selected_concat (c : ProxyClass) (steps : List Step) (st : Step) :
    selected c (steps ++ [st]) = (st.selection? c).getD (selected c steps) := by
  rw [selected, List.filterMap_append]
  cases h : st.selection? c <;> simp [selected, h]

/-- A step leaves the class of a proxy alone, and changes the transport only by selecting one. -/
theorem after_eq (hselector : ∀ t, p.definition.member? [selector t] = none) (st : Step) :
    (p.after st).definition = p.definition ∧
      (p.after st).transport = (st.selection? p.definition).getD p.transport := by
  cases st with
  | use t =>
    simp only [after, use, hselector t, Option.isSome_none, Bool.false_eq_true, if_false,
      Step.selection?]
    split <;> exact ⟨rfl, rfl⟩
  | call path args => exact ⟨definition_invoke p path args, transport_invoke p path args⟩
  | meanwhile f => exact ⟨rfl, rfl⟩

theorem afterAll_eq (hselector : ∀ t, p.definition.member? [selector t] = none)
    (hstart : p.transport = .http) (steps : List Step) :
    (p.afterAll steps).definition = p.definition ∧
      (p.afterAll steps).transport = selected p.definition steps := by
  -- From the end of the run, since the last step that selects a transport is the one that counts.
  induction steps using List.reverseRecOn with
  | nil => exact ⟨rfl, hstart⟩
  | append_singleton steps st ih =>
    obtain ⟨hdefinition, htransport⟩ := ih
    obtain ⟨hdefinition', htransport'⟩ := after_eq (p := p.afterAll steps)
      (fun t => hdefinition ▸ hselector t) st
    have hconcat : p.afterAll (steps ++ [st]) = (p.afterAll steps).after st := by
      simp [afterAll]
    rw [hconcat, hdefinition', htransport', selected_concat, hdefinition, htransport]
    exact ⟨rfl, rfl⟩

-- ---------------------------------------------------------------------------
-- Calls
-- ---------------------------------------------------------------------------

/-- The arguments that are handed on, and the callback among all of them. -/
inductive TrailingCallable : List Value → List Value → Option Value → Prop
  | taken (h : v.callable = true) : TrailingCallable (given ++ [v]) given (some v)
  | none (h : ∀ v, given.getLast? = some v → v.callable = false) :
    TrailingCallable given given .none

theorem splitCallback_spec (args : List Value) :
    TrailingCallable args (splitCallback args).1 (splitCallback args).2 := by
  rcases List.eq_nil_or_concat args with rfl | ⟨given, v, rfl⟩
  · exact .none (by simp)
  · rw [List.concat_eq_append]
    cases hv : v.callable with
    | true =>
      have hsplit : splitCallback (given ++ [v]) = (given, some v) := by
        simp [splitCallback, hv]
      rw [hsplit]
      exact .taken hv
    | false =>
      have hsplit : splitCallback (given ++ [v]) = (given ++ [v], .none) := by
        simp [splitCallback, hv]
      rw [hsplit]
      refine .none fun w hw => ?_
      rw [List.getLast?_concat] at hw
      cases hw
      exact hv

/-- Calling what a path leads to makes one call over the line and does nothing else. -/
structure MakesCall (p : Proxy) (path : List String) (args : List Value) (r : Request)
    (callback : Option Value) : Prop where
  call : p.invoke path args = p.withClient (Hub.outside (Station.call r callback))
  recorded : ∀ x, p.client.around.line = .recorder x → x.refusal = none →
    (p.invoke path args).2 = .ok .token ∧
      (p.invoke path args).1.client.around.line = .recorder (x.taken r callback)

theorem makesCall_of_find (h : p.find path = .ok (.method stub)) (args : List Value) :
    p.MakesCall path args (p.request stub args).1 (p.request stub args).2 := by
  have hcall : p.invoke path args = p.withClient
      (Hub.outside (Station.call (p.request stub args).1 (p.request stub args).2)) := by
    rw [invoke, h]
  refine ⟨hcall, fun x hline hrefusal => ?_⟩
  have hrun := Hub.outside_run (Station.call (p.request stub args).1 (p.request stub args).2)
    p.client
  rw [Station.call_recorder hline hrefusal] at hrun
  rw [hcall, withClient, ExceptT.run, hrun]
  exact ⟨rfl, rfl⟩

-- ---------------------------------------------------------------------------
-- The proxy of a service
-- ---------------------------------------------------------------------------

variable {s : Service} {c : ProxyClass}

/-- A class whose tree is that of a service, as far as its texts can be read. -/
structure Serves (c : ProxyClass) (s : Service) : Prop where
  fromLiterals : c.fromLiterals = true
  lists : c.tree.Lists (Tree.entriesOf s)
  roots : ∀ key ∈ c.tree.children.map Prod.fst, Python.isReserved key = false

theorem serves_ofProgram (h : s.Reachable) (haccepts : Python.Accepts ⟨s, className⟩)
    (hdot : ∀ n ∈ s.memberNames, n.toList.head? ≠ some '.')
    (hc : ProxyClass.ofProgram ⟨s, className⟩ = .ok c) : Serves c s := by
  obtain ⟨-, t, ht, rfl⟩ := (ProxyClass.ofProgram_ok h haccepts).mp hc
  obtain ⟨t', ht', hlist⟩ := Tree.ofService_lists h hdot
  obtain rfl : t = t' := by
    rw [ht] at ht'
    exact Except.ok.inj ht'
  exact ⟨ProxyClass.fromLiterals_defineAll _ _, hlist, fun key hkey =>
    haccepts.members key (hlist.root_mem hkey className)⟩

theorem Serves.new (hserves : Serves c s)
    (hunder : ∀ n ∈ s.memberNames, ∀ seg ∈ segments n, seg.toList.head? ≠ some '_')
    (hurl : Text.trim url ≠ "") (line : String → Line) (hasLoop : Bool) :
    Proxy.new c (.str url) line hasLoop =
      .ok (⟨c, url, .http, false, ⟨.empty, .new (line url) hasLoop⟩⟩, warnings c) := by
  have hbind : c.bindFault? = none := by
    refine ProxyClass.bindFault?_eq_none hserves.lists.distinct ?_ ?_
    · intro path key hat
      obtain ⟨n, hn, hkey⟩ := hserves.lists.key_mem hat
      exact hunder n hn key hkey
    · intro key hkey hproperty
      have hreserved := hserves.roots key hkey
      simp only [ProxyClass.properties, List.mem_cons, List.not_mem_nil, or_false] at hproperty
      rcases hproperty with rfl | rfl | rfl | rfl <;> revert hreserved <;> decide
  have haddress : checkAddress (.str url) = .ok url := by
    rw [checkAddress, if_neg hurl]
  simp only [Proxy.new, haddress, hbind, bind, Except.bind, pure, Except.pure]

theorem Serves.member?_selector (hserves : Serves c s) (t : Transport) :
    c.member? [selector t] = none := by
  have hfree : c.tree.find? [selector t] = none := by
    cases htree : c.tree with
    | method stub => rfl
    | scope p cs =>
      cases hlookup : cs.lookup (selector t) with
      | none => simp [Tree.find?, hlookup]
      | some node =>
        have hmem : selector t ∈ c.tree.children.map Prod.fst := by
          rw [htree]
          exact List.mem_map_of_mem (Tree.mem_of_lookup hlookup)
        have hreserved : Python.isReserved (selector t) = true := by
          cases t <;> decide
        rw [hserves.roots _ hmem] at hreserved
        cases hreserved
  rw [ProxyClass.member?, hfree, ite_self]

theorem Serves.find (hserves : Serves c s) (h : s.Reachable) (hm : m ∈ s.methods)
    (hp : p.definition = c) : p.find (segments m.name) =
      if Python.readsBack m.name then .ok (.method (Python.stub m))
      else .error (.fault .noAttribute) := by
  have hanswers : (segments m.name).all c.answersTo = Python.readsBack m.name := by
    have hreads : c.answersTo = Python.readsBack := by
      funext text
      rw [ProxyClass.answersTo, hserves.fromLiterals]
      rfl
    rw [hreads, Python.all_readsBack_segments]
  rw [Proxy.find, hp, ProxyClass.member?, hanswers, hserves.lists.find?_method h hm]
  cases Python.readsBack m.name <;> rfl

/-- Calling a method makes one call: in its own name, with its arguments but for a callable at their
end and those beyond its parameters, and expecting a response if it returns anything. A method whose
name its literal does not give back is not there. -/
def Answers (p : Proxy) (m : Method) (t : Transport) (args : List Value) : Prop :=
  if Python.readsBack m.name then
    ∃ given callback, TrailingCallable args given callback ∧
      p.MakesCall (segments m.name) args
        ⟨m.name, .list (given.take m.params.length), m.returns.isSome, t⟩ callback
  else p.invoke (segments m.name) args = (p, .error (.fault .noAttribute))

theorem Serves.answers (hserves : Serves c s) (h : s.Reachable) (hm : m ∈ s.methods)
    (hp : p.definition = c) (args : List Value) : p.Answers m p.transport args := by
  have hfind := hserves.find h hm hp
  unfold Answers
  split
  · rename_i hreads
    rw [if_pos hreads] at hfind
    refine ⟨(splitCallback args).1, (splitCallback args).2, splitCallback_spec args, ?_⟩
    have hcall := makesCall_of_find hfind args
    have hrequest : p.request (Python.stub m) args =
        (⟨m.name, .list ((splitCallback args).1.take m.params.length), m.returns.isSome,
          p.transport⟩, (splitCallback args).2) := by
      simp [request, Python.stub, Method.expectsReturn]
    rwa [hrequest] at hcall
  · rename_i hreads
    rw [if_neg hreads] at hfind
    rw [invoke, hfind]

/-- On the proxy of a service, whatever was done with it before, calling a method under the segments
of its name makes one call over the transport selected last. -/
theorem method_makes_one_call (h : s.Reachable)
    (htext : Python.target.compile ⟨s, className⟩ = .ok text)
    (hdot : ∀ n ∈ s.memberNames, n.toList.head? ≠ some '.')
    (hunder : ∀ n ∈ s.memberNames, ∀ seg ∈ segments n, seg.toList.head? ≠ some '_')
    (hc : ProxyClass.ofProgram ⟨s, className⟩ = .ok c) (hurl : Text.trim url ≠ "")
    (line : String → Line) (hasLoop : Bool) :
    ∃ p warnings, Proxy.new c (.str url) line hasLoop = .ok (p, warnings) ∧
      ∀ steps, ∀ m ∈ s.methods, ∀ args,
        (p.afterAll steps).Answers m (selected c steps) args := by
  -- What is needed of the class is kept by every step, so the steps and the call can be told apart.
  have hserves := serves_ofProgram h (Python.compile_ok.mp htext).1 hdot hc
  refine ⟨_, _, hserves.new hunder hurl line hasLoop, ?_⟩
  intro steps m hm args
  obtain ⟨hdefinition, htransport⟩ := afterAll_eq
    (p := ⟨c, url, .http, false, ⟨.empty, .new (line url) hasLoop⟩⟩) hserves.member?_selector rfl
    steps
  have hanswers := hserves.answers h hm hdefinition args
  rwa [htransport] at hanswers

theorem jobs_list_makes_one_call :
    let s := ((Service.empty (.str "1.0") (.str "Jobs")).after (.readMethod [.str "jobs"]
      ⟨"list", [Value.bareParam "state"], some ⟨"any", true⟩, none⟩)).after
      (.readMethod [] ⟨"ping", [], none, none⟩)
    s.Reachable ∧ (∃ text, Python.target.compile ⟨s, "Jobs"⟩ = .ok text) ∧
      s.methodNames = ["jobs.list", "ping"] ∧
      ∃ c, ProxyClass.ofProgram ⟨s, "Jobs"⟩ = .ok c ∧ ∃ p warnings,
        Proxy.new c (.str "http://localhost") (fun _ => .recorder ⟨none, [], 0, []⟩) false =
          .ok (p, warnings) ∧
        ∀ steps, ∀ m ∈ s.methods, ∀ args,
          (p.afterAll steps).Answers m (selected c steps) args := by
  intro s
  have hs : s.Reachable := (Service.Reachable.empty _ _).after _ |>.after _
  have hnames : s.memberNames = ["jobs.list", "ping"] := by
    simp only [s]
    decide +kernel
  have hmethods : s.methodNames = ["jobs.list", "ping"] := by
    simp only [s]
    decide +kernel
  obtain ⟨text, htext⟩ : ∃ text, Python.target.compile ⟨s, "Jobs"⟩ = .ok text := by
    rw [← isOk_eq_true]
    simp only [s]
    decide +kernel
  obtain ⟨c, hc⟩ : ∃ c, ProxyClass.ofProgram ⟨s, "Jobs"⟩ = .ok c := by
    rw [← isOk_eq_true]
    simp only [s]
    decide +kernel
  have hdot : ∀ n ∈ s.memberNames, n.toList.head? ≠ some '.' := by
    rw [hnames]
    decide
  have hunder : ∀ n ∈ s.memberNames, ∀ seg ∈ segments n, seg.toList.head? ≠ some '_' := by
    rw [hnames]
    decide +kernel
  have hurl : Text.trim "http://localhost" ≠ "" := by
    decide +kernel
  exact ⟨hs, ⟨text, htext⟩, hmethods, c, hc,
    method_makes_one_call hs htext hdot hunder hc hurl _ false⟩

/-- The name of a method beyond the sixteen-bit range is written as two escapes, which are read as
two characters: the method is not found under its name. -/
theorem emoji_method_not_found :
    let s := (Service.empty .null .null).after (.readMethod [] ⟨"😀", [], none, none⟩)
    s.Reachable ∧ (∃ text, Python.target.compile ⟨s, "Proxy"⟩ = .ok text) ∧
      s.memberNames = ["😀"] ∧ segments "😀" = ["😀"] ∧
      ∃ c, ProxyClass.ofProgram ⟨s, "Proxy"⟩ = .ok c ∧ ∃ p warnings,
        Proxy.new c (.str "http://localhost") (fun _ => .recorder ⟨none, [], 0, []⟩) false =
          .ok (p, warnings) ∧
        p.invoke ["😀"] [] = (p, .error (.fault .noAttribute)) := by
  intro s
  have hs : s.Reachable := (Service.Reachable.empty _ _).after _
  have hnames : s.memberNames = ["😀"] := by
    simp only [s]
    decide +kernel
  have hsegments : segments "😀" = ["😀"] := by
    decide +kernel
  obtain ⟨text, htext⟩ : ∃ text, Python.target.compile ⟨s, "Proxy"⟩ = .ok text := by
    rw [← isOk_eq_true]
    simp only [s]
    decide +kernel
  obtain ⟨c, hc⟩ : ∃ c, ProxyClass.ofProgram ⟨s, "Proxy"⟩ = .ok c := by
    rw [← isOk_eq_true]
    simp only [s]
    decide +kernel
  have hdot : ∀ n ∈ s.memberNames, n.toList.head? ≠ some '.' := by
    rw [hnames]
    decide
  have hunder : ∀ n ∈ s.memberNames, ∀ seg ∈ segments n, seg.toList.head? ≠ some '_' := by
    rw [hnames]
    decide +kernel
  have hurl : Text.trim "http://localhost" ≠ "" := by
    decide +kernel
  have hserves := serves_ofProgram hs (Python.compile_ok.mp htext).1 hdot hc
  refine ⟨hs, ⟨text, htext⟩, hnames, hsegments, c, hc, _, _, hserves.new hunder hurl _ false, ?_⟩
  obtain ⟨m, hm, hname⟩ : ∃ m ∈ s.methods, m.name = "😀" := by
    simp only [s]
    decide +kernel
  have hfind := hserves.find (p := ⟨c, "http://localhost", .http, false,
    ⟨.empty, .new (.recorder ⟨none, [], 0, []⟩) false⟩⟩) hs hm rfl
  have hunread : Python.readsBack "😀" = false := by
    decide +kernel
  rw [hname, hsegments, hunread] at hfind
  rw [invoke, hfind]
  rfl

end Proxy

end Farcall
