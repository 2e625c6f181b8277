import Farcall.Proofs.Alphabets
import Farcall.Proofs.Emissions

/-!
# Statements tell where they end

A statement of a generated class is told by its first characters, and its parts end by themselves:
titles at the first closing quotes, names at a blank, literals at their own quotes. So the text of a
class can be taken apart from its beginning, statement by statement. Of the texts in literals it tells
the sixteen-bit units.
-/

namespace Farcall.Python

-- ---------------------------------------------------------------------------
-- Texts between triple quotes
-- ---------------------------------------------------------------------------

def readDoc : List Char → List Char × List Char
  | '\\' :: c :: rest => (c :: (readDoc rest).1, (readDoc rest).2)
  | '\"' :: '\"' :: '\"' :: rest => ([], rest)
  | c :: rest => (c :: (readDoc rest).1, (readDoc rest).2)
  | [] => ([], [])

theorem readDoc_plain (hslash : c ≠ '\\')
    (hquotes : ∀ more, c :: rest ≠ '\"' :: '\"' :: '\"' :: more) :
    readDoc (c :: rest) = (c :: (readDoc rest).1, (readDoc rest).2) := by
  rw [readDoc]
  · intro d more h
    exact absurd h hslash
  · rintro more rfl rfl
    exact hquotes more rfl

theorem docChars_append_head (hrest : rest.head? ≠ some '\"')
    (h : docChars t ++ rest = '\"' :: more) :
    ∃ t', t = '\"' :: t' ∧ docChars t' ++ rest = more := by
  fun_cases docChars t with
  | case1 t =>
    rw [docChars] at h
    cases h
  | case2 t =>
    rw [docChars] at h
    cases h
  | case3 c t hquotes hslash =>
    rw [docChars] at h
    · obtain ⟨rfl, hmore⟩ := List.cons.inj h
      exact ⟨t, rfl, hmore⟩
    · exact hquotes
    · exact hslash
  | case4 =>
    rw [docChars, List.nil_append] at h
    exact absurd (by rw [h]; rfl) hrest

/-- Reading undoes the escapes, as long as no quote stands right after the text. -/
theorem readDoc_docChars (t : List Char) (hrest : rest.head? ≠ some '\"') :
    readDoc (docChars t ++ rest) = (t ++ (readDoc rest).1, (readDoc rest).2) := by
  fun_induction docChars t with
  | case1 t ih => simp [readDoc, ih]
  | case2 t ih => simp [readDoc, ih]
  | case3 c t hquotes hslash ih =>
    -- Three quotes here would be three quotes of the text itself, which are escaped together.
    have hplain : ∀ more, c :: (docChars t ++ rest) ≠ '\"' :: '\"' :: '\"' :: more := by
      intro more h
      obtain ⟨hc, hfirst⟩ := List.cons.inj h
      obtain ⟨t', rfl, hsecond⟩ := docChars_append_head hrest hfirst
      obtain ⟨t'', rfl, -⟩ := docChars_append_head hrest hsecond
      exact hquotes t'' hc rfl
    rw [List.cons_append, readDoc_plain hslash hplain, ih]
    rfl
  | case4 => rfl

theorem readDoc_append (hx : ∀ c ∈ x, c ≠ '\\' ∧ c ≠ '\"') (rest : List Char) :
    readDoc (x ++ rest) = (x ++ (readDoc rest).1, (readDoc rest).2) := by
  induction x with
  | nil => rfl
  | cons c x ih =>
    obtain ⟨⟨hslash, hquote⟩, hx⟩ := List.forall_mem_cons.mp hx
    have hplain : ∀ more, c :: (x ++ rest) ≠ '\"' :: '\"' :: '\"' :: more :=
      fun more h => hquote (List.cons.inj h).1
    rw [List.cons_append, readDoc_plain hslash hplain, ih hx]
    rfl

/-- An escaped text with something plain after it ends at the triple quotes that close it. -/
theorem delimits_docChars (hne : x ≠ []) (hx : ∀ c ∈ x, c ≠ '\\' ∧ c ≠ '\"') :
    Delimits (fun _ => True) fun t => docChars t ++ (x ++ ['\"', '\"', '\"']) := by
  have hread (t r : List Char) :
      readDoc (docChars t ++ (x ++ ['\"', '\"', '\"']) ++ r) = (t ++ x, r) := by
    have hhead : (x ++ '\"' :: '\"' :: '\"' :: r).head? ≠ some '\"' := by
      obtain ⟨c, x, rfl⟩ := List.exists_cons_of_ne_nil hne
      simpa using (hx c (by simp)).2
    have hdoc := readDoc_docChars t hhead
    rw [readDoc_append hx, readDoc] at hdoc
    simpa using hdoc
  intro t t' r r' _ _ h
  have hboth := (hread t r).symm.trans (h ▸ hread t' r')
  obtain ⟨htitle, hrest⟩ := Prod.mk.inj hboth
  exact ⟨List.append_cancel_right htitle, hrest⟩

-- ---------------------------------------------------------------------------
-- Statements
-- ---------------------------------------------------------------------------

def ended (ls : List String) : List Char :=
  ls.flatMap fun l => l.toList ++ ['\n']

namespace Statement

theorem delimits_truth : Delimits (fun _ => True) fun b : Bool => (truth b).toList := by
  intro b b' r r' _ _ h
  cases b <;> cases b' <;> simp_all [truth]

variable [Alphabet] {st st' : Statement}

def code (className : String) (st : Statement) : List Char :=
  ended (st.lines className)

/-- Statements whose literals have the same units. -/
inductive Alike : Statement → Statement → Prop
  | enum (hmembers : members.map Literal.memberUnits = members'.map Literal.memberUnits) :
    Alike (.enum name members) (.enum name members')
  | tree : Alike .tree .tree
  | addNamespace (hpath : Text.units path = Text.units path') :
    Alike (.addNamespace path) (.addNamespace path')
  | addMethod (hname : Text.units name = Text.units name')
    (hparams : params.map Text.units = params'.map Text.units)
    (hdoc : doc.map Text.units = doc'.map Text.units) :
    Alike (.addMethod name params expectReturn doc) (.addMethod name' params' expectReturn doc')
  | events (hnames : names.map Text.units = names'.map Text.units) :
    Alike (.events names) (.events names')
  | attach (hname : Text.units name = Text.units name')
    (hmembers : members.map Literal.memberUnits = members'.map Literal.memberUnits) :
    Alike (.attach name members) (.attach name' members')

/-- A statement whose name, if it assigns one, is plain enough to tell its end and its kind. -/
def Plain : Statement → Prop
  | .enum name _ => ' ' ∉ name.toList ∧ name ≠ "" ∧ name.toList.head? ≠ some '_'
  | _ => True

inductive Kind where
  | enum
  | tree
  | addNamespace
  | addMethod
  | events
  | attach

def kind : Statement → Kind
  | .enum _ _ => .enum
  | .tree => .tree
  | .addNamespace _ => .addNamespace
  | .addMethod _ _ _ _ => .addMethod
  | .events _ => .events
  | .attach _ _ => .attach

def kindOf (cs : List Char) : Kind :=
  -- All but the last kind are indented, and all but the first of these assign to an underscore.
  if cs[0]? = some 's' then .attach
  else if cs[4]? ≠ some '_' then .enum
  else if cs[5]? = some 'd' then .events
  else if cs[9]? = some ' ' then .tree
  else if cs[14]? = some 'n' then .addNamespace
  else .addMethod

theorem kindOf_code (hst : st.Plain) (className : String) (r : List Char) :
    kindOf (st.code className ++ r) = st.kind := by
  cases st with
  | enum name members =>
    obtain ⟨-, hne, hhead⟩ := hst
    obtain ⟨c, cs, hname⟩ := List.exists_cons_of_ne_nil (mt String.toList_eq_nil_iff.mp hne)
    have hc : c ≠ '_' := by simpa [hname] using hhead
    simp [code, ended, lines, indent, kindOf, kind, hname, hc]
  | tree => simp [code, ended, lines, indent, kindOf, kind]
  | addNamespace path => simp [code, ended, lines, indent, kindOf, kind]
  | addMethod name params expectReturn doc => simp [code, ended, lines, indent, kindOf, kind]
  | events names => simp [code, ended, lines, indent, kindOf, kind]
  | attach name members => simp [code, ended, lines, kindOf, kind]

def codecUnits : String × List (String × Int) → List Nat × List (List Nat × Int) :=
  Prod.map Text.units (List.map Literal.memberUnits)

theorem tells_codec : Tells (fun _ => True) codecUnits fun x => (codec x.1 x.2).toList := by
  have hname : Tells (fun _ => True) Text.units fun s =>
      "EnumCodec(".toList ++ (Literal.text s).toList ++ ", ".toList :=
    (Literal.tells_text.cons_append "EnumCodec(".toList).append ", ".toList fun _ _ => trivial
  have hmembers : Tells (fun _ => True) (List.map Literal.memberUnits) fun ms =>
      (Literal.members ms).toList ++ ")".toList :=
    Literal.tells_members.append ")".toList fun _ _ => trivial
  have hpair := hname.pair hmembers fun _ _ _ => trivial
  simpa only [codecUnits, codec, String.toList_append, List.append_assoc] using hpair

/-- A tuple that is not of one member, whose only comma would be a trailing one. -/
theorem toList_tuple {xs : List String} (h : ∀ x, xs ≠ [x]) : (tuple (xs.map Literal.text)).toList =
    ['('] ++ ([',', ' '].intercalate (xs.map fun x => (Literal.text x).toList) ++ [')']) := by
  have hmap : ∀ x, xs.map Literal.text ≠ [x] := by
    intro x hx
    obtain ⟨y, rfl, -⟩ := List.map_eq_singleton_iff.mp hx
    exact h y rfl
  rw [tuple]
  · simp [Function.comp_def]
  · exact hmap

theorem toList_tuple_singleton (x : String) :
    (tuple ([x].map Literal.text)).toList = '(' :: ((Literal.text x).toList ++ [',', ')']) := by
  simp [tuple]

theorem tuple_singleton_ne {ys : List String} (h : ∀ y, ys ≠ [y]) (r r' : List Char) :
    (tuple ([x].map Literal.text)).toList ++ r ≠ (tuple (ys.map Literal.text)).toList ++ r' := by
  rw [toList_tuple_singleton, toList_tuple h]
  intro heq
  cases ys with
  | nil =>
    have hhead := Literal.head?_text x ([',', ')'] ++ r)
    simp only [List.cons_append, List.append_assoc, List.map_nil, List.intercalate_nil,
      List.nil_append, List.cons.injEq, true_and] at heq
    rw [← List.append_assoc] at hhead
    simp [heq] at hhead
  | cons y ys =>
    have hmore : ys ≠ [] := fun hnil => h y (by rw [hnil])
    obtain ⟨z, ys, rfl⟩ := List.exists_cons_of_ne_nil hmore
    rw [Delimits.intercalate_map_cons] at heq
    simp only [List.cons_append, List.append_assoc, List.nil_append, List.cons.injEq, true_and,
      List.flatMap_cons] at heq
    obtain ⟨-, hcomma⟩ := Literal.tells_text trivial trivial heq
    simp at hcomma

theorem tells_tuple : Tells (fun _ => True) (List.map Text.units) fun xs =>
    (tuple (xs.map Literal.text)).toList := by
  have hbegin (x : String) (r r' : List Char) : (Literal.text x).toList ++ r ≠ [')'] ++ r' := by
    intro h
    have hhead := Literal.head?_text x r
    rw [h] at hhead
    cases hhead
  have hnext (r r' : List Char) : [',', ' '] ++ r ≠ [')'] ++ r' := by
    simp
  have hitems := Literal.tells_text.separated (fun _ => trivial) (fun _ => trivial) hbegin hnext
  intro xs ys r r' hr hr' h
  dsimp only at h
  by_cases hxs : ∃ x, xs = [x]
  · obtain ⟨x, rfl⟩ := hxs
    by_cases hys : ∃ y, ys = [y]
    · obtain ⟨y, rfl⟩ := hys
      rw [toList_tuple_singleton, toList_tuple_singleton] at h
      simp only [List.cons_append, List.append_assoc, List.cons.injEq, true_and] at h
      obtain ⟨hsame, hrest⟩ := Literal.tells_text trivial trivial h
      exact ⟨by rw [List.map_singleton, List.map_singleton, hsame], by simpa using hrest⟩
    · exact absurd h (tuple_singleton_ne (not_exists.mp hys) r r')
  · by_cases hys : ∃ y, ys = [y]
    · obtain ⟨y, rfl⟩ := hys
      exact absurd h.symm (tuple_singleton_ne (not_exists.mp hxs) r' r)
    · rw [toList_tuple (not_exists.mp hxs), toList_tuple (not_exists.mp hys)] at h
      exact (hitems.cons_append ['(']) hr hr' h

/-- What follows the first indentation after the marks of a method: its documentation, if there is
one, and the closing line. -/
def docRest (doc : Option String) : List Char :=
  match doc with
  | some d => indent.toList ++ ("doc=".toList ++ ((Literal.text d).toList ++ (",".toList ++ '\n' ::
      (indent.toList ++ ("))".toList ++ ['\n'])))))
  | none => "))".toList ++ ['\n']

theorem tells_docRest : Tells (fun _ => True) (Option.map Text.units) docRest := by
  intro d d' r r' _ _ h
  cases d with
  | none =>
    cases d' with
    | none => exact ⟨rfl, List.append_cancel_left h⟩
    | some d' => simp [docRest, indent] at h
  | some d =>
    cases d' with
    | none => simp [docRest, indent] at h
    | some d' =>
      simp only [docRest, List.append_assoc, List.append_cancel_left_eq] at h
      obtain ⟨hsame, hrest⟩ := Literal.tells_text trivial trivial h
      simp only [List.cons_append, List.append_assoc, List.append_cancel_left_eq, List.cons.injEq,
        true_and] at hrest
      exact ⟨congrArg some hsame, hrest⟩

theorem code_addMethod (className name : String) (params : List String) (expectReturn : Bool)
    (doc : Option String) (r : List Char) :
    (Statement.addMethod name params expectReturn doc).code className ++ r =
      indent.toList ++ ("_tree.add_method(MethodStub(".toList ++ '\n' ::
        (indent.toList ++ (indent.toList ++ ((Literal.text name).toList ++ (",".toList ++ '\n' ::
          (indent.toList ++ (indent.toList ++ ((tuple (params.map Literal.text)).toList ++
            (",".toList ++ '\n' :: (indent.toList ++ (indent.toList ++ ("expect_return=".toList ++
              ((truth expectReturn).toList ++ (",".toList ++ '\n' :: (indent.toList ++
                (docRest doc ++ r)))))))))))))))) := by
  cases doc <;> simp only [code, ended, lines, docRest, List.cons_append, List.nil_append,
    List.flatMap_cons, List.flatMap_nil, String.toList_append, List.append_assoc]

theorem addMethod_alike
    (h : (Statement.addMethod name params expectReturn doc).code className ++ r =
      (Statement.addMethod name' params' expectReturn' doc').code className ++ r') :
    Alike (.addMethod name params expectReturn doc) (.addMethod name' params' expectReturn' doc') ∧
      r = r' := by
  simp only [code_addMethod, List.append_cancel_left_eq, List.cons.injEq, true_and] at h
  obtain ⟨hname, hafter⟩ := Literal.tells_text trivial trivial h
  simp only [List.append_cancel_left_eq, List.cons.injEq, true_and] at hafter
  obtain ⟨hparams, hafter⟩ := tells_tuple trivial trivial hafter
  simp only [List.append_cancel_left_eq, List.cons.injEq, true_and] at hafter
  obtain ⟨rfl, hafter⟩ := delimits_truth trivial trivial hafter
  simp only [List.append_cancel_left_eq, List.cons.injEq, true_and] at hafter
  obtain ⟨hdoc, hrest⟩ := tells_docRest trivial trivial hafter
  exact ⟨.addMethod hname hparams hdoc, hrest⟩

def eventRest (name : String) : List Char :=
  indent.toList ++ ((Literal.text name).toList ++ (",".toList ++ ['\n']))

theorem code_events (className : String) (names : List String) (r : List Char) :
    (Statement.events names).code className ++ r =
      indent.toList ++ ("_declared_events = (".toList ++ '\n' ::
        ((names.flatMap fun n => indent.toList ++ eventRest n) ++
          (indent.toList ++ (")".toList ++ '\n' :: r)))) := by
  simp only [code, ended, lines, eventRest, List.cons_append, List.nil_append, List.flatMap_cons,
    List.flatMap_nil, List.flatMap_append, List.flatMap_map, String.toList_append,
    List.append_assoc]

theorem events_alike (h : (Statement.events names).code className ++ r =
      (Statement.events names').code className ++ r') :
    Alike (.events names) (.events names') ∧ r = r' := by
  have hline : Tells (fun _ => True) Text.units fun n => indent.toList ++ eventRest n := by
    intro n n' r r' _ _ h
    simp only [eventRest, List.append_assoc, List.append_cancel_left_eq] at h
    obtain ⟨hsame, hrest⟩ := Literal.tells_text trivial trivial h
    simp only [List.append_cancel_left_eq] at hrest
    exact ⟨hsame, by simpa using hrest⟩
  have hbegin (n : String) (r r' : List Char) :
      indent.toList ++ eventRest n ++ r ≠ indent.toList ++ (")".toList ++ ['\n']) ++ r' := by
    simp [eventRest, indent]
  have hlines := hline.many (fun _ => trivial) (fun _ _ => trivial) hbegin
  simp only [code_events, List.append_cancel_left_eq, List.cons.injEq, true_and] at h
  have hcode : (names.flatMap fun n => indent.toList ++ eventRest n) ++
      (indent.toList ++ (")".toList ++ ['\n'])) ++ r =
      (names'.flatMap fun n => indent.toList ++ eventRest n) ++
        (indent.toList ++ (")".toList ++ ['\n'])) ++ r' := by
    simpa only [List.append_assoc, List.cons_append, List.nil_append] using h
  obtain ⟨hnames, hrest⟩ := hlines trivial trivial hcode
  exact ⟨.events hnames, hrest⟩

theorem enum_alike (hname : (Statement.enum name members).Plain)
    (hname' : (Statement.enum name' members').Plain)
    (h : (Statement.enum name members).code className ++ r =
      (Statement.enum name' members').code className ++ r') :
    Alike (.enum name members) (.enum name' members') ∧ r = r' := by
  simp only [code, ended, lines, List.flatMap_cons, List.flatMap_nil, String.toList_append,
    List.append_assoc, List.append_cancel_left_eq, List.nil_append] at h
  have hblank (cs : List Char) : BeginsOutside (· != ' ') (" = ".toList ++ cs) := by
    simp [BeginsOutside]
  obtain ⟨hsame, hcodec⟩ := delimits_until ' ' (a := ⟨name, hname.1⟩) (b := ⟨name', hname'.1⟩)
    (hblank _) (hblank _) h
  cases hsame
  simp only [List.append_cancel_left_eq] at hcodec
  obtain ⟨hparts, hrest⟩ := tells_codec (a := (name, members)) (b := (name, members'))
    trivial trivial hcodec
  simp only [List.cons_append, List.nil_append, List.cons.injEq, true_and] at hrest
  exact ⟨.enum (congrArg Prod.snd hparts), hrest⟩

theorem addNamespace_alike (h : (Statement.addNamespace path).code className ++ r =
      (Statement.addNamespace path').code className ++ r') :
    Alike (.addNamespace path) (.addNamespace path') ∧ r = r' := by
  simp only [code, ended, lines, List.flatMap_cons, List.flatMap_nil, String.toList_append,
    List.append_assoc, List.append_cancel_left_eq, List.nil_append] at h
  obtain ⟨hpath, hrest⟩ := Literal.tells_text trivial trivial h
  simp only [List.append_cancel_left_eq] at hrest
  exact ⟨.addNamespace hpath, by simpa using hrest⟩

theorem attach_alike (h : (Statement.attach name members).code className ++ r =
      (Statement.attach name' members').code className ++ r') :
    Alike (.attach name members) (.attach name' members') ∧ r = r' := by
  simp only [code, ended, lines, List.flatMap_cons, List.flatMap_nil, String.toList_append,
    List.append_assoc, List.append_cancel_left_eq, List.nil_append] at h
  obtain ⟨hname, hcodec⟩ := Literal.tells_text trivial trivial h
  simp only [List.append_cancel_left_eq] at hcodec
  obtain ⟨hparts, hrest⟩ := tells_codec (a := (name, members)) (b := (name', members'))
    trivial trivial hcodec
  simp only [List.append_cancel_left_eq] at hrest
  exact ⟨.attach hname (congrArg Prod.snd hparts), by simpa using hrest⟩

theorem code_alike (hst : st.Plain) (hst' : st'.Plain)
    (h : st.code className ++ r = st'.code className ++ r') : Alike st st' ∧ r = r' := by
  have hkind : st.kind = st'.kind := by
    rw [← kindOf_code hst className r, h, kindOf_code hst']
  cases st with
  | enum name members =>
    cases st' with
    | enum name' members' => exact enum_alike hst hst' h
    | _ => cases hkind
  | tree =>
    cases st' with
    | tree => exact ⟨.tree, List.append_cancel_left h⟩
    | _ => cases hkind
  | addNamespace path =>
    cases st' with
    | addNamespace path' => exact addNamespace_alike h
    | _ => cases hkind
  | addMethod name params expectReturn doc =>
    cases st' with
    | addMethod name' params' expectReturn' doc' => exact addMethod_alike h
    | _ => cases hkind
  | events names =>
    cases st' with
    | events names' => exact events_alike h
    | _ => cases hkind
  | attach name members =>
    cases st' with
    | attach name' members' => exact attach_alike h
    | _ => cases hkind

theorem head?_code (st : Statement) (className : String) (r : List Char) :
    (st.code className ++ r).head? ≠ some '\n' := by
  cases st <;> simp [code, ended, lines, indent]

end Statement

-- ---------------------------------------------------------------------------
-- Statements between empty lines
-- ---------------------------------------------------------------------------

variable [Alphabet]

def pieceCode (className : String) : Option Statement → List Char
  | some st => st.code className
  | none => ['\n']

theorem pieceCode_append_ne_nil (className : String) (p : Option Statement) (r : List Char) :
    pieceCode className p ++ r ≠ [] := by
  cases p with
  | none => simp [pieceCode]
  | some st => cases st <;> simp [pieceCode, Statement.code, ended, Statement.lines]

theorem pieces_alike {ps qs : List (Option Statement)} (hps : ∀ st, some st ∈ ps → st.Plain)
    (hqs : ∀ st, some st ∈ qs → st.Plain)
    (h : ps.flatMap (pieceCode className) = qs.flatMap (pieceCode className)) :
    List.Forall₂ (Option.Rel Statement.Alike) ps qs := by
  induction ps generalizing qs with
  | nil =>
    cases qs with
    | nil => exact .nil
    | cons q qs => exact absurd h.symm (pieceCode_append_ne_nil _ q _)
  | cons p ps ih =>
    cases qs with
    | nil => exact absurd h (pieceCode_append_ne_nil _ p _)
    | cons q qs =>
      rw [List.flatMap_cons, List.flatMap_cons] at h
      have hrest : ps.flatMap (pieceCode className) = qs.flatMap (pieceCode className) →
          List.Forall₂ (Option.Rel Statement.Alike) ps qs :=
        ih (fun st hst => hps st (List.mem_cons_of_mem _ hst))
          (fun st hst => hqs st (List.mem_cons_of_mem _ hst))
      cases p with
      | none =>
        cases q with
        | none => exact .cons .none (hrest (List.append_cancel_left h))
        | some st => exact absurd (congrArg List.head? h.symm) (st.head?_code className _)
      | some st =>
        cases q with
        | none => exact absurd (congrArg List.head? h) (st.head?_code className _)
        | some st' =>
          obtain ⟨hst, hcodes⟩ := Statement.code_alike (hps st (by simp)) (hqs st' (by simp)) h
          exact .cons (.some hst) (hrest hcodes)

end Farcall.Python
