import Farcall.Proofs.Alphabets
import Farcall.Proofs.Emissions
import Farcall.Proofs.StatementCodes
import Farcall.Proofs.TreeReplay

/-!
# What the text of a proxy determines

The text of a proxy tells the name of its class and, in sixteen-bit units, all that the proxy needs of
the service. Only texts that hold halves can be other texts of the same units, so services without
halves are told apart. The text begins with the title and the name of the class, and what is left is
statements with empty lines between them; from the statements each part of the service can be selected.
-/

namespace Farcall.Python

variable {e e' : Emission} {s s' : Service}

-- ---------------------------------------------------------------------------
-- Sections
-- ---------------------------------------------------------------------------

theorem ended_eq (l : String) (ls : List String) :
    l.toList ++ ls.flatMap (fun a => ['\n'] ++ a.toList) ++ ['\n'] = ended (l :: ls) := by
  induction ls generalizing l with
  | nil => simp [ended]
  | cons l' ls ih =>
    have htail := ih l'
    simp only [ended, List.flatMap_cons, List.append_assoc] at htail ⊢
    rw [htail]

theorem toList_intercalate (hne : ls ≠ []) : ("\n".intercalate ls ++ "\n").toList = ended ls := by
  obtain ⟨l, ls, rfl⟩ := List.exists_cons_of_ne_nil hne
  rw [← ended_eq, ← Delimits.intercalate_map_cons]
  simp

theorem ended_linesOf [Alphabet] (e : Emission) (ss : List Statement) :
    ended (linesOf e ss) = (ss.map some).flatMap (pieceCode e.className) := by
  rw [linesOf, ended, List.flatMap_assoc, List.flatMap_map]
  rfl

/-- Statements with an empty line before them, unless there are none. -/
def setOff (ps : List (Option Statement)) : List (Option Statement) :=
  if ps.isEmpty then [] else none :: ps

@[simp] theorem filterMap_setOff (ps : List (Option Statement)) :
    (setOff ps).filterMap id = ps.filterMap id := by
  cases ps <;> rfl

theorem setOff_code [Alphabet] (h : ended ls = ps.flatMap (pieceCode className)) :
    (setOff ps).flatMap (pieceCode className) = if ls.isEmpty then [] else '\n' :: ended ls := by
  cases ps with
  | nil =>
    cases ls with
    | nil => rfl
    | cons l ls => simp [ended] at h
  | cons p ps =>
    cases ls with
    | nil => exact absurd h.symm (pieceCode_append_ne_nil className p _)
    | cons l ls => simp [setOff, pieceCode, h]

theorem ended_sections [Alphabet]
    (h : List.Forall₂ (fun ls ps => ended ls = ps.flatMap (pieceCode className)) cs pss) :
    ended ((cs.filter (!·.isEmpty)).flatMap ([""] ++ ·)) =
      (pss.flatMap setOff).flatMap (pieceCode className) := by
  induction h with
  | nil => rfl
  | @cons ls ps cs pss hls _ ih =>
    -- A section without lines is dropped together with the empty line before it.
    rw [List.flatMap_cons, List.flatMap_append, setOff_code hls, ← ih]
    cases ls with
    | nil => simp
    | cons l ls => simp [ended]

-- ---------------------------------------------------------------------------
-- The whole text
-- ---------------------------------------------------------------------------

def chunks (e : Emission) : List (List (Option Statement)) :=
  [((inside e.service).map Statement.ofInside).map some,
    (Statement.tree :: e.service.namespaces.map .addNamespace).map some,
    (e.service.methods.map methodStatement).map some,
    (eventStatements e.service.events).map some,
    setOff (((outside e.service).map Statement.ofOutside).map some)]

def pieces (e : Emission) : List (Option Statement) :=
  (chunks e).flatMap setOff

theorem filterMap_pieces (e : Emission) : (pieces e).filterMap id = statements e.service := by
  have hsome (ss : List Statement) : (ss.map some).filterMap id = ss := by
    simp
  simp only [pieces, chunks, List.flatMap_cons, List.flatMap_nil, List.filterMap_append,
    filterMap_setOff, hsome, List.append_nil, statements_eq, List.append_assoc,
    List.cons_append, List.nil_append]

theorem ended_closing [Alphabet] (e : Emission) : ended (closing e) =
    (setOff (((outside e.service).map Statement.ofOutside).map some)).flatMap
      (pieceCode e.className) := by
  rw [closing_eq, setOff_code (ended_linesOf e _)]
  cases outside e.service with
  | nil => rfl
  | cons x xs => simp [linesOf, ended, Statement.ofOutside, Statement.lines]

theorem toList_text [Alphabet] (h : target.compile e = .ok text) :
    text.toList = ended (header e) ++ (pieces e).flatMap (pieceCode e.className) := by
  obtain ⟨-, -, rfl⟩ := compile_ok.mp h
  have hheader : header e ≠ [] := List.cons_ne_nil _ _
  have hsections : List.Forall₂
      (fun ls ps => ended ls = ps.flatMap (pieceCode e.className)) (sectionsOf e).tail (chunks e) :=
    .cons (ended_linesOf e _) <| .cons (ended_linesOf e _) <| .cons (ended_linesOf e _) <|
      .cons (ended_linesOf e _) <| .cons (ended_closing e) .nil
  have hjoin : Target.joinChunks true (sectionsOf e) = header e ++ _ :=
    Target.joinChunks_cons hheader
  rw [hjoin, toList_intercalate (List.append_ne_nil_of_left_ne_nil hheader _), ended,
    List.flatMap_append]
  exact congrArg (ended (header e) ++ ·) (ended_sections hsections)

-- ---------------------------------------------------------------------------
-- Names and titles
-- ---------------------------------------------------------------------------

theorem not_mem_of_isName (hname : isName name = true)
    (hstart : Text.identifierStart.contains c = false)
    (hcontinue : Text.identifierContinue.contains c = false) : c ∉ name.toList := by
  intro hc
  have hid : Text.isIdentifier name = true := (Bool.and_eq_true_iff.mp hname).1
  unfold Text.isIdentifier at hid
  split at hid
  · cases hid
  · rename_i d ds hname
    obtain ⟨hd, hds⟩ := Bool.and_eq_true_iff.mp hid
    rw [hname] at hc
    cases hc with
    | head => exact absurd hd (by simp [hstart])
    | tail _ hc => exact absurd (List.all_eq_true.mp hds c hc) (by simp [hcontinue])

theorem ne_empty_of_isName (hname : isName name = true) : name ≠ "" := by
  rintro rfl
  cases hname

def mark : List Char :=
  ".".toList ++ '\n' :: ended ["", "Generated by jsonws. Do not edit."]

theorem mark_ne_nil : mark ≠ [] := by
  decide +kernel

theorem mark_plain (hc : c ∈ mark) : c ≠ '\\' ∧ c ≠ '\"' := by
  have hall : mark.all (fun c => c != '\\' && c != '\"') = true := by
    decide +kernel
  simpa using List.all_eq_true.mp hall c hc

def imports : List Char :=
  '\n' :: ended
    ["", "from jsonws.runtime import EnumCodec, MethodStub, NamespaceNode, ProxyBase", "", ""] ++
    "class ".toList

theorem ended_header (e : Emission) (r : List Char) : ended (header e) ++ r =
    ended ["\"\"\""] ++ ("Client proxy for ".toList ++
      ((docChars e.title.toList ++ (mark ++ "\"\"\"".toList)) ++ (imports ++ (e.className.toList ++
        ("(ProxyBase):".toList ++ '\n' :: (Statement.indent.toList ++ ("\"\"\"".toList ++
          (docChars e.title.toList ++ (" proxy.\"\"\"".toList ++ '\n' :: r))))))))) := by
  simp only [ended, header, docText, mark, imports, List.flatMap_cons, List.flatMap_nil,
    String.toList_append, String.toList_ofList, List.append_assoc, List.cons_append,
    List.nil_append]

/-- The header tells its title, the name of the class and where it ends. -/
theorem header_inj (hname : isName e.className = true) (hname' : isName e'.className = true)
    (h : ended (header e) ++ r = ended (header e') ++ r') :
    e.title = e'.title ∧ e.className = e'.className ∧ r = r' := by
  have hparen (q : List Char) : BeginsOutside (· != '(') ("(ProxyBase):".toList ++ q) := by
    simp [BeginsOutside]
  have hchars : Text.identifierStart.contains '(' = false ∧
      Text.identifierContinue.contains '(' = false := by
    decide +kernel
  have hfree {name : String} (h : isName name = true) : '(' ∉ name.toList :=
    not_mem_of_isName h hchars.1 hchars.2
  -- The texts agree on where the class begins only once their titles are known to be the same.
  simp only [ended_header, List.append_cancel_left_eq] at h
  obtain ⟨htitle, hclass⟩ := delimits_docChars mark_ne_nil (fun _ => mark_plain) trivial trivial h
  simp only [List.append_cancel_left_eq] at hclass
  obtain ⟨hsame, hrest⟩ := delimits_until '(' (a := ⟨_, hfree hname⟩) (b := ⟨_, hfree hname'⟩)
    (hparen _) (hparen _) hclass
  simp only [htitle, List.append_cancel_left_eq, List.cons.injEq, true_and] at hrest
  exact ⟨String.toList_inj.mp htitle, congrArg Subtype.val hsame, hrest⟩

-- ---------------------------------------------------------------------------
-- Parts of a service
-- ---------------------------------------------------------------------------

namespace Statement

def assigned : Statement → List (String × List (String × Int))
  | .enum name members => [(name, members)]
  | _ => []

def namespaces : Statement → List String
  | .addNamespace path => [path]
  | _ => []

def stubs : Statement → List Stub
  | .addMethod name params expectReturn doc => [⟨name, params, expectReturn, doc⟩]
  | _ => []

def eventNames : Statement → List String
  | .events names => names
  | _ => []

def attached : Statement → List (String × List (String × Int))
  | .attach name members => [(name, members)]
  | _ => []

end Statement

/-- What the statements of a proxy hold, part by part; no events are as good as none written. -/
theorem flatMap_statements {f : Statement → List α} (hnone : f (.events []) = []) (s : Service) :
    (statements s).flatMap f = (inside s).flatMap (f <| .ofInside ·) ++ f .tree ++
      s.namespaces.flatMap (f <| .addNamespace ·) ++ s.methods.flatMap (f <| methodStatement ·) ++
      f (.events s.eventNames) ++ (outside s).flatMap (f <| .ofOutside ·) := by
  have hevents : (eventStatements s.events).flatMap f = f (.events s.eventNames) := by
    unfold eventStatements Service.eventNames
    cases s.events with
    | nil => exact hnone.symm
    | cons event events => simp
  simp only [statements_eq, List.flatMap_append, List.flatMap_map, hevents, List.flatMap_singleton]

theorem flatMap_nothing (xs : List α) : xs.flatMap (fun _ => ([] : List β)) = [] :=
  List.flatMap_eq_nil_iff.mpr fun _ _ => rfl

theorem flatMap_assigned (s : Service) : (statements s).flatMap Statement.assigned = inside s := by
  rw [flatMap_statements rfl]
  simp [Statement.assigned, Statement.ofInside, Statement.ofOutside, methodStatement,
    flatMap_nothing]

theorem flatMap_namespaces (s : Service) :
    (statements s).flatMap Statement.namespaces = s.namespaces := by
  rw [flatMap_statements rfl]
  simp [Statement.namespaces, Statement.ofInside, Statement.ofOutside, methodStatement,
    flatMap_nothing]

theorem flatMap_stubs (s : Service) :
    (statements s).flatMap Statement.stubs = s.methods.map stub := by
  rw [flatMap_statements rfl, List.map_eq_flatMap]
  simp [Statement.stubs, Statement.ofInside, Statement.ofOutside, methodStatement, stub,
    flatMap_nothing]

theorem flatMap_eventNames (s : Service) :
    (statements s).flatMap Statement.eventNames = s.eventNames := by
  rw [flatMap_statements rfl]
  simp [Statement.eventNames, Statement.ofInside, Statement.ofOutside, methodStatement,
    flatMap_nothing]

theorem flatMap_attached (s : Service) :
    (statements s).flatMap Statement.attached = outside s := by
  rw [flatMap_statements rfl]
  simp [Statement.attached, Statement.ofInside, Statement.ofOutside, methodStatement,
    flatMap_nothing]

theorem enum_mem_statements (h : .enum name members ∈ statements s) :
    (name, members) ∈ inside s := by
  rw [← flatMap_assigned]
  exact List.mem_flatMap.mpr ⟨_, h, List.mem_singleton_self _⟩

theorem Accepts.plain (h : Accepts e) (hst : st ∈ statements e.service) : st.Plain := by
  cases st with
  | enum name members =>
    obtain ⟨henum, hname⟩ := mem_inside.mp (enum_mem_statements hst)
    obtain ⟨s, hs, hfree, -⟩ := (h.enums _ henum).text
    cases hs
    have hblank : Text.identifierStart.contains ' ' = false ∧
        Text.identifierContinue.contains ' ' = false := by
      decide +kernel
    refine ⟨not_mem_of_isName hname hblank.1 hblank.2, ne_empty_of_isName hname, ?_⟩
    intro hhead
    simp [isReserved, hhead] at hfree
  | _ => trivial

theorem Accepts.plain_pieces (h : Accepts e) (hst : some st ∈ pieces e) : st.Plain := by
  refine h.plain ?_
  rw [← filterMap_pieces]
  exact List.mem_filterMap.mpr ⟨some st, hst, rfl⟩

-- ---------------------------------------------------------------------------
-- Recovery
-- ---------------------------------------------------------------------------

def stubUnits [Alphabet] (m : Stub) : List Nat × List (List Nat) × Bool × Option (List Nat) :=
  (Text.units m.name, m.params.map Text.units, m.expectReturn, m.doc.map Text.units)

/-- Services that agree, in units, in what their proxies need. Names that are assigned inside the class
are written as they are. -/
structure SameUnits [Alphabet] (s s' : Service) : Prop where
  namespaces : s.namespaces.map Text.units = s'.namespaces.map Text.units
  methods : (s.methods.map stub).map stubUnits = (s'.methods.map stub).map stubUnits
  events : s.eventNames.map Text.units = s'.eventNames.map Text.units
  assigned : (inside s).map (Prod.map id (List.map Literal.memberUnits)) =
    (inside s').map (Prod.map id (List.map Literal.memberUnits))
  attached : (outside s).map Statement.codecUnits = (outside s').map Statement.codecUnits

theorem flatMap_alike [Alphabet] {f : Statement → List α} {g : α → β} {ss ss' : List Statement}
    (hf : ∀ ⦃st st'⦄, Statement.Alike st st' → (f st).map g = (f st').map g)
    (h : List.Forall₂ Statement.Alike ss ss') : (ss.flatMap f).map g = (ss'.flatMap f).map g := by
  induction h with
  | nil => rfl
  | cons hst _ ih =>
    rw [List.flatMap_cons, List.flatMap_cons, List.map_append, List.map_append, hf hst, ih]

theorem statements_alike [Alphabet] (h : target.compile e = .ok text)
    (h' : target.compile e' = .ok text) :
    e.className = e'.className ∧
      List.Forall₂ Statement.Alike (statements e.service) (statements e'.service) := by
  obtain ⟨hacc, -⟩ := compile_ok.mp h
  obtain ⟨hacc', -⟩ := compile_ok.mp h'
  obtain ⟨-, hclass, hpieces⟩ := header_inj hacc.className hacc'.className
    ((toList_text h).symm.trans (toList_text h'))
  rw [← hclass] at hpieces
  have halike := pieces_alike (fun _ => hacc.plain_pieces) (fun _ => hacc'.plain_pieces) hpieces
  refine ⟨hclass, ?_⟩
  rw [← filterMap_pieces, ← filterMap_pieces]
  exact List.rel_filterMap (fun _ _ hpiece => hpiece) halike

theorem sameUnits_of_alike [Alphabet]
    (h : List.Forall₂ Statement.Alike (statements s) (statements s')) : SameUnits s s' where
  namespaces := by
    rw [← flatMap_namespaces, ← flatMap_namespaces]
    refine flatMap_alike (fun st st' hst => ?_) h
    cases hst <;> simp_all [Statement.namespaces]
  methods := by
    rw [← flatMap_stubs, ← flatMap_stubs]
    refine flatMap_alike (fun st st' hst => ?_) h
    cases hst <;> simp_all [Statement.stubs, stubUnits]
  events := by
    rw [← flatMap_eventNames, ← flatMap_eventNames]
    refine flatMap_alike (fun st st' hst => ?_) h
    cases hst <;> simp_all [Statement.eventNames]
  assigned := by
    rw [← flatMap_assigned, ← flatMap_assigned]
    refine flatMap_alike (fun st st' hst => ?_) h
    cases hst <;> simp_all [Statement.assigned]
  attached := by
    rw [← flatMap_attached, ← flatMap_attached]
    refine flatMap_alike (fun st st' hst => ?_) h
    cases hst <;> simp_all [Statement.attached, Statement.codecUnits]

-- ---------------------------------------------------------------------------
-- Texts without halves
-- ---------------------------------------------------------------------------

def isAssigned (x : Value × List (String × Int)) : Bool :=
  match x.1 with
  | .str name => isName name
  | _ => false

/-- Services that agree in what their proxies need. The order of the enumerations is compared among
those that are assigned inside the class, and among the others. -/
structure SameDeclarations (s s' : Service) : Prop where
  namespaces : s.namespaces = s'.namespaces
  /-- Names, names of parameters, whether something is returned, and documentation. -/
  methods : s.methods.map stub = s'.methods.map stub
  events : s.eventNames = s'.eventNames
  assigned : s.enums.filter isAssigned = s'.enums.filter isAssigned
  attached : s.enums.filter (!isAssigned ·) = s'.enums.filter (!isAssigned ·)

def stubTexts (m : Stub) : List String :=
  m.name :: (m.params ++ m.doc.toList)

def enumTexts (x : String × List (String × Int)) : List String :=
  x.1 :: x.2.map Prod.fst

/-- The texts that the literals of a proxy are written for. -/
def literalTexts (s : Service) : List String :=
  s.namespaces ++ (s.methods.map stub).flatMap stubTexts ++ s.eventNames ++
    (inside s).flatMap enumTexts ++ (outside s).flatMap enumTexts

def Encodable [Alphabet] (ts : List String) : Prop :=
  ∀ t ∈ ts, Text.Encodable t

@[simp] theorem encodable_append [Alphabet] {ts ts' : List String} :
    Encodable (ts ++ ts') ↔ Encodable ts ∧ Encodable ts' :=
  List.forall_mem_append

@[simp] theorem encodable_cons [Alphabet] {ts : List String} :
    Encodable (t :: ts) ↔ Text.Encodable t ∧ Encodable ts :=
  List.forall_mem_cons

@[simp] theorem encodable_flatMap [Alphabet] {f : α → List String} {xs : List α} :
    Encodable (xs.flatMap f) ↔ ∀ x ∈ xs, Encodable (f x) :=
  List.forall_mem_flatMap

theorem map_inj_on {f : α → β} {xs ys : List α}
    (hf : ∀ ⦃x⦄, x ∈ xs → ∀ ⦃y⦄, y ∈ ys → f x = f y → x = y) (h : xs.map f = ys.map f) : xs = ys := by
  induction xs generalizing ys with
  | nil => exact (List.map_eq_nil_iff.mp h.symm).symm
  | cons x xs ih =>
    cases ys with
    | nil => cases h
    | cons y ys =>
      obtain ⟨hhead, htail⟩ := List.cons.inj h
      have hrest : xs = ys := ih (fun _ hx _ hy => hf (.tail _ hx) (.tail _ hy)) htail
      rw [hf List.mem_cons_self List.mem_cons_self hhead, hrest]

theorem units_inj_on [Alphabet] {ts ts' : List String} (ht : Encodable ts) (ht' : Encodable ts')
    (h : ts.map Text.units = ts'.map Text.units) : ts = ts' :=
  map_inj_on (fun t hmem t' hmem' => (Text.units_inj (ht t hmem) (ht' t' hmem')).mp) h

theorem stubUnits_inj [Alphabet] {m m' : Stub} (hm : Encodable (stubTexts m))
    (hm' : Encodable (stubTexts m')) (h : stubUnits m = stubUnits m') : m = m' := by
  obtain ⟨name, params, expectReturn, doc⟩ := m
  obtain ⟨name', params', expectReturn', doc'⟩ := m'
  simp only [stubTexts, encodable_cons, encodable_append] at hm hm'
  obtain ⟨hname, hparams, hdoc⟩ := hm
  obtain ⟨hname', hparams', hdoc'⟩ := hm'
  simp only [stubUnits, Prod.mk.injEq] at h
  obtain ⟨hsame, hsameParams, rfl, hsameDoc⟩ := h
  obtain rfl := (Text.units_inj hname hname').mp hsame
  obtain rfl := units_inj_on hparams hparams' hsameParams
  have hdocs : doc.toList = doc'.toList := units_inj_on hdoc hdoc' (by
    rw [← Option.toList_map, hsameDoc, Option.toList_map])
  have hsameText : doc = doc' := by
    cases doc <;> cases doc' <;> simp_all
  rw [hsameText]

theorem membersUnits_inj [Alphabet] {ms ms' : List (String × Int)}
    (hms : Encodable (ms.map Prod.fst)) (hms' : Encodable (ms'.map Prod.fst))
    (h : ms.map Literal.memberUnits = ms'.map Literal.memberUnits) : ms = ms' := by
  refine map_inj_on (fun m hm m' hm' hsame => ?_) h
  obtain ⟨hlabel, hvalue⟩ := Prod.mk.inj hsame
  have hfirst : m.1 = m'.1 := (Text.units_inj (hms _ (List.mem_map_of_mem hm))
    (hms' _ (List.mem_map_of_mem hm'))).mp hlabel
  exact Prod.ext hfirst hvalue

theorem inside_inj [Alphabet] {xs ys : List (String × List (String × Int))}
    (hxs : ∀ x ∈ xs, Encodable (enumTexts x)) (hys : ∀ y ∈ ys, Encodable (enumTexts y))
    (h : xs.map (Prod.map id (List.map Literal.memberUnits)) =
      ys.map (Prod.map id (List.map Literal.memberUnits))) : xs = ys := by
  refine map_inj_on (fun x hx y hy hsame => ?_) h
  obtain ⟨hname, hmembers⟩ := Prod.mk.inj hsame
  exact Prod.ext hname
    (membersUnits_inj (encodable_cons.mp (hxs x hx)).2 (encodable_cons.mp (hys y hy)).2 hmembers)

theorem outside_inj [Alphabet] {xs ys : List (String × List (String × Int))}
    (hxs : ∀ x ∈ xs, Encodable (enumTexts x)) (hys : ∀ y ∈ ys, Encodable (enumTexts y))
    (h : xs.map Statement.codecUnits = ys.map Statement.codecUnits) : xs = ys := by
  refine map_inj_on (fun x hx y hy hsame => ?_) h
  obtain ⟨hname, hmembers⟩ := Prod.mk.inj hsame
  obtain ⟨hxname, hxlabels⟩ := encodable_cons.mp (hxs x hx)
  obtain ⟨hyname, hylabels⟩ := encodable_cons.mp (hys y hy)
  exact Prod.ext ((Text.units_inj hxname hyname).mp hname)
    (membersUnits_inj hxlabels hylabels hmembers)

def asEnum (x : String × List (String × Int)) : Value × List (String × Int) := (.str x.1, x.2)

theorem map_inside (s : Service) : (inside s).map asEnum = s.enums.filter isAssigned := by
  rw [inside, List.map_filterMap, ← List.filterMap_eq_filter]
  refine List.filterMap_congr fun x _ => ?_
  obtain ⟨v, members⟩ := x
  cases v with
  | str name =>
    by_cases hname : isName name = true <;> simp [isAssigned, asEnum, Option.guard, hname]
  | _ => rfl

theorem Accepts.map_outside (h : Accepts ⟨s, name⟩) :
    (outside s).map asEnum = s.enums.filter (!isAssigned ·) := by
  rw [outside, List.map_filterMap, ← List.filterMap_eq_filter]
  refine List.filterMap_congr fun x hx => ?_
  obtain ⟨v, members⟩ := x
  obtain ⟨name, rfl, -⟩ := (h.enums _ hx).text
  by_cases hname : isName name = true <;> simp [isAssigned, asEnum, Option.guard, hname]

theorem SameUnits.declarations [Alphabet] (h : SameUnits s s') (hs : Accepts ⟨s, className⟩)
    (hs' : Accepts ⟨s', className'⟩) (ht : Encodable (literalTexts s))
    (ht' : Encodable (literalTexts s')) : SameDeclarations s s' := by
  simp only [literalTexts, encodable_append, encodable_flatMap] at ht ht'
  obtain ⟨⟨⟨⟨hnamespaces, hmethods⟩, hevents⟩, hinside⟩, houtside⟩ := ht
  obtain ⟨⟨⟨⟨hnamespaces', hmethods'⟩, hevents'⟩, hinside'⟩, houtside'⟩ := ht'
  refine ⟨units_inj_on hnamespaces hnamespaces' h.namespaces, ?_,
    units_inj_on hevents hevents' h.events, ?_, ?_⟩
  · exact map_inj_on (fun m hm m' hm' => stubUnits_inj (hmethods m hm) (hmethods' m' hm')) h.methods
  · rw [← map_inside, inside_inj hinside hinside' h.assigned, map_inside]
  · rw [← hs.map_outside, outside_inj houtside houtside' h.attached, hs'.map_outside]

-- ---------------------------------------------------------------------------
-- Recovery
-- ---------------------------------------------------------------------------

/-- The text of a proxy determines the name of its class and, in units, all it declares; and where no
text holds a half, all it declares. -/
theorem text_determines_declarations [Alphabet] (h : target.compile ⟨s, className⟩ = .ok text)
    (h' : target.compile ⟨s', className'⟩ = .ok text) :
    className = className' ∧ SameUnits s s' ∧
      (Encodable (literalTexts s) → Encodable (literalTexts s') → SameDeclarations s s') := by
  obtain ⟨hclass, halike⟩ := statements_alike h h'
  have hunits : SameUnits s s' := sameUnits_of_alike halike
  exact ⟨hclass, hunits, hunits.declarations (compile_ok.mp h).1 (compile_ok.mp h').1⟩

theorem text_of_traded_enums :
    let color := Registration.definition (.str "Color") (.enum [("Red", 0), ("Blue", 2)])
    let state := Registration.definition (.str "job-state") (.enum [("Open", 1)])
    let list := Registration.readMethod [.str "jobs"] ⟨"list", [], none, none⟩
    let fresh := Service.empty (.str "1.0") (.str "Jobs")
    let s := ((fresh.after color).after state).after list
    let s' := ((fresh.after state).after color).after list
    s.enums.map Prod.snd ≠ s'.enums.map Prod.snd ∧ ∃ text, target.compile ⟨s, "Jobs"⟩ = .ok text ∧
      target.compile ⟨s', "Jobs"⟩ = .ok text ∧ SameDeclarations s s' := by
  intro color state list fresh s s'
  obtain ⟨text, htext⟩ : ∃ text, target.compile ⟨s, "Jobs"⟩ = .ok text := by
    rw [← isOk_eq_true]
    simp only [s, fresh, color, state, list]
    decide +kernel
  obtain ⟨text', htext'⟩ : ∃ text, target.compile ⟨s', "Jobs"⟩ = .ok text := by
    rw [← isOk_eq_true]
    simp only [s', fresh, color, state, list]
    decide +kernel
  have hsections : sectionsOf ⟨s, "Jobs"⟩ = sectionsOf ⟨s', "Jobs"⟩ := by
    simp only [s, s', fresh, color, state, list]
    decide +kernel
  have hsame : text' = text := by
    rw [(compile_ok.mp htext).2.2, (compile_ok.mp htext').2.2, hsections]
  rw [hsame] at htext'
  have hencodable (s : Service) : Encodable (literalTexts s) := fun t _ => Text.encodable_plain t
  obtain ⟨-, -, hsame⟩ := text_determines_declarations htext htext'
  refine ⟨?_, text, htext, htext', hsame (hencodable _) (hencodable _)⟩
  simp only [s, s', fresh, color, state, list]
  decide +kernel

/-- A character beyond the sixteen-bit range and its two halves are two names, written as one text. -/
theorem halves_written_alike :
    let halves := String.ofList [@Alphabet.half .withHalves 0xD83D, @Alphabet.half .withHalves 0xDE00]
    let named (name : String) : Emission :=
      ⟨(Service.empty .null .null).after (.readMethod [] ⟨name, [], none, none⟩), "Proxy"⟩
    (named "😀").service.Reachable ∧ (named halves).service.Reachable ∧
      (named "😀").service.methodNames = ["😀"] ∧ (named halves).service.methodNames = [halves] ∧
      @Text.codes .withHalves "😀" = [0x1F600] ∧ @Text.codes .withHalves halves = [0xD83D, 0xDE00] ∧
      ∃ text, (@target .withHalves).compile (named "😀") = .ok text ∧
        (@target .withHalves).compile (named halves) = .ok text := by
  intro halves named
  have hreachable (name : String) : (named name).service.Reachable :=
    (Service.Reachable.empty _ _).after _
  obtain ⟨text, htext⟩ : ∃ text, (@target .withHalves).compile (named "😀") = .ok text := by
    rw [← isOk_eq_true]
    simp only [named]
    decide +kernel
  have hsame : ((@target .withHalves).compile (named "😀")).toOption =
      ((@target .withHalves).compile (named halves)).toOption := by
    simp only [named, halves]
    decide +kernel
  refine ⟨hreachable _, hreachable _, ?_, ?_, ?_, ?_, text, htext, ?_⟩
  · simp only [named]
    decide +kernel
  · simp only [named, halves]
    decide +kernel
  · decide +kernel
  · decide +kernel
  · rw [← toOption_eq_some, ← hsame, toOption_eq_some, htext]

end Farcall.Python
