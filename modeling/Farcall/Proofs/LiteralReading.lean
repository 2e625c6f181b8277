import Farcall.Proofs.ProxyCalls
import Farcall.Proofs.Recovery

/-!
# Literals as Python reads them

The literals of a generated class are JSON texts, in which a character beyond the sixteen-bit range
is two escapes. JSON reads such a pair as one character, Python reads two code points. So the names
and labels of a service, as far as they are made of Unicode scalar values, survive exactly if their
characters lie within the sixteen-bit range.
-/

namespace Farcall.Python

-- ---------------------------------------------------------------------------
-- One literal
-- ---------------------------------------------------------------------------

def shortEscapes : List (Char × Nat) := [
  ('\\', 0x5C), ('\'', 0x27), ('\"', 0x22), ('a', 7), ('b', 8), ('f', 12), ('n', 10), ('r', 13),
  ('t', 9), ('v', 11)]

def isOctal (c : Char) : Bool :=
  '0' ≤ c && c ≤ '7'

def octalValue (cs : List Char) : Nat :=
  cs.foldl (fun n c => n * 8 + (c.toNat - '0'.toNat)) 0

/-- What an escape denotes and how many characters after the backslash belong to it. A line feed is
taken out, and a backslash that begins no escape stands for itself. Characters by name are left
out. -/
def readEscape : List Char → Option (List Nat × Nat)
  | [] => none
  | '\n' :: _ => some ([], 1)
  | 'N' :: _ => none
  | 'x' :: rest =>
    match rest with
    | a :: b :: _ => do
      let a ← Json.hexValue? a
      let b ← Json.hexValue? b
      return ([a * 16 + b], 3)
    | _ => none
  | 'u' :: rest => do
    let (n, _) ← Json.fourDigits? rest
    return ([n], 5)
  | 'U' :: rest => do
    let (high, rest) ← Json.fourDigits? rest
    let (low, _) ← Json.fourDigits? rest
    if high * 0x10000 + low < 0x110000 then some ([high * 0x10000 + low], 9) else none
  | c :: rest =>
    match shortEscapes.lookup c with
    | some n => some ([n], 1)
    | none =>
      let digits := ((c :: rest).take 3).takeWhile isOctal
      if digits.isEmpty then some (['\\'.toNat], 0) else some ([octalValue digits], digits.length)

/-- The code points that a literal denotes, from the character after its opening quote on, and what
follows the closing one. -/
def readText : List Char → Option (List Nat × List Char)
  | [] => none
  | c :: rest =>
    if c = '\"' then some ([], rest)
    else if c = '\n' ∨ c = '\r' then none
    else if c = '\\' then do
      let (codes, taken) ← readEscape rest
      let (more, rest) ← readText (rest.drop taken)
      return (codes ++ more, rest)
    else do
      let (more, rest) ← readText rest
      return (c.toNat :: more, rest)
termination_by cs => cs.length
decreasing_by
  · simp only [List.length_cons, List.length_drop]
    omega
  · simp

theorem readText_quote (rest : List Char) : readText ('\"' :: rest) = some ([], rest) := by
  rw [readText, if_pos rfl]

theorem readText_plain (hquote : c ≠ '\"') (hline : ¬ (c = '\n' ∨ c = '\r')) (hslash : c ≠ '\\')
    (h : readText rest = some (codes, rest')) :
    readText (c :: rest) = some (c.toNat :: codes, rest') := by
  rw [readText, if_neg hquote, if_neg hline, if_neg hslash, h]
  rfl

theorem readText_escape (he : readEscape rest = some (codes, taken))
    (h : readText (rest.drop taken) = some (more, rest')) :
    readText ('\\' :: rest) = some (codes ++ more, rest') := by
  rw [readText, if_neg (by decide), if_neg (by decide), if_pos rfl, he]
  simp only [Option.bind_eq_bind, Option.bind_some, h]
  rfl

theorem readText_unitEscape (hn : n < 0x10000) (h : readText rest = some (codes, rest')) :
    readText (Json.unitEscape n ++ rest) = some (n :: codes, rest') := by
  have hlength : (Text.hex 4 n).length = 4 := rfl
  have he : readEscape ('u' :: (Text.hex 4 n ++ rest)) = some ([n], 5) := by
    rw [readEscape, Json.fourDigits?_hex hn]
    rfl
  refine readText_escape he ?_
  rwa [List.drop_succ_cons, List.drop_left' hlength]

theorem readText_codeEscape (hn : n < 0x110000) (h : readText rest = some (codes, rest')) :
    readText (Json.codeEscape n ++ rest) = some ((if n < 0x10000 then [n] else
      [0xD800 + (n - 0x10000) / 0x400, 0xDC00 + (n - 0x10000) % 0x400]) ++ codes, rest') := by
  unfold Json.codeEscape
  split
  · exact readText_unitEscape ‹_› h
  · rw [List.append_assoc]
    exact readText_unitEscape (by omega) (readText_unitEscape (by omega) h)

theorem readText_escapeChar (c : Char) (h : readText rest = some (codes, rest')) :
    readText (Json.escapeChar true c ++ rest) = some (readChar c ++ codes, rest') := by
  have hvalid := Json.valid_toNat c
  unfold Json.escapeChar
  rw [Alphabet.code_plain]
  -- Seven characters have an escape of one letter.
  iterate 7
    split
    · subst_vars
      exact readText_escape rfl h
  split
  · rw [readChar, if_pos (by omega)]
    exact readText_unitEscape (by omega) h
  · split
    · exact readText_codeEscape (by omega) h
    · rename_i hascii
      have hsmall : c.toNat ≤ 0x7e := by simpa using hascii
      rw [readChar, if_pos (by omega)]
      exact readText_plain ‹_› (not_or.mpr ⟨‹_›, ‹_›⟩) ‹_› h

/-- A literal denotes the code points of its characters, those beyond the sixteen-bit range in
halves. -/
theorem readText_literal (cs : List Char) (rest : List Char) :
    readText (cs.flatMap (Json.escapeChar true) ++ '\"' :: rest) =
      some (cs.flatMap readChar, rest) := by
  induction cs with
  | nil => exact readText_quote rest
  | cons c cs ih =>
    rw [List.flatMap_cons, List.flatMap_cons, List.append_assoc]
    exact readText_escapeChar c ih

-- ---------------------------------------------------------------------------
-- Literals in code
-- ---------------------------------------------------------------------------

def Bare (c : Char) : Prop :=
  c ≠ '\"' ∧ c ≠ '\'' ∧ c ≠ '#'

instance : DecidablePred Bare :=
  fun _ => inferInstanceAs (Decidable (_ ∧ _ ∧ _))

/-- Code without comments, with literals that denote the given code points. A quote right after a
name would begin a literal of another kind, and three quotes a text over many lines. -/
inductive Reads : List Char → List (List Nat) → Prop where
  | nil : Reads [] []
  | code (hc : Bare c)
    (hname : Text.identifierContinue.contains c = true → rest.head? ≠ some '\"')
    (h : Reads rest ts) : Reads (c :: rest) ts
  | text (hone : ∀ more, rest ≠ '\"' :: '\"' :: more) (ht : readText rest = some (t, rest'))
    (h : Reads rest' ts) : Reads ('\"' :: rest) (t :: ts)

theorem Reads.unique (h : Reads cs ts) (h' : Reads cs ts') : ts = ts' := by
  induction h generalizing ts' with
  | nil =>
    cases h'
    rfl
  | code hc hname _ ih =>
    cases h' with
    | code _ _ h' => exact ih h'
    | text => exact absurd rfl hc.1
  | text hone ht _ ih =>
    cases h' with
    | code hc => exact absurd rfl hc.1
    | text _ ht' h' =>
      obtain ⟨rfl, rfl⟩ := Prod.mk.inj (Option.some.inj (ht.symm.trans ht'))
      rw [ih h']

/-- Code whose literals denote the same before all code that does not begin with a quote. -/
def Denotes (cs : List Char) (ts : List (List Nat)) : Prop :=
  ∀ ⦃r us⦄, r.head? ≠ some '\"' → Reads r us → Reads (cs ++ r) (ts ++ us)

structure Writes (cs : List Char) (ts : List (List Nat)) : Prop where
  denotes : Denotes cs ts
  head : cs.head? ≠ some '\"'

theorem Writes.reads (h : Writes cs ts) : Reads cs ts := by
  simpa using h.denotes (by simp) Reads.nil

theorem head?_append_ne {cs r : List Char} (hcs : cs.head? ≠ some '\"')
    (hr : r.head? ≠ some '\"') : (cs ++ r).head? ≠ some '\"' := by
  cases cs with
  | nil => exact hr
  | cons c cs => exact hcs

theorem Denotes.append (h : Denotes cs ts) (h' : Writes cs' ts') :
    Denotes (cs ++ cs') (ts ++ ts') := by
  intro r us hr hus
  rw [List.append_assoc, List.append_assoc]
  exact h (head?_append_ne h'.head hr) (h'.denotes hr hus)

theorem Writes.append (h : Writes cs ts) (h' : Writes cs' ts') :
    Writes (cs ++ cs') (ts ++ ts') :=
  ⟨h.denotes.append h', head?_append_ne h.head h'.head⟩

theorem writes_nil : Writes [] [] :=
  ⟨fun _ _ _ h => h, by simp⟩

theorem writes_flatMap {xs : List α} {f : α → List Char} {g : α → List (List Nat)}
    (h : ∀ x ∈ xs, Writes (f x) (g x)) : Writes (xs.flatMap f) (xs.flatMap g) := by
  induction xs with
  | nil => exact writes_nil
  | cons x xs ih =>
    obtain ⟨hx, hxs⟩ := List.forall_mem_cons.mp h
    exact hx.append (ih hxs)

theorem head?_ne_of_bare {p : List Char} (hp : ∀ c ∈ p, Bare c) : p.head? ≠ some '\"' := by
  cases p with
  | nil => simp
  | cons c p => simpa using (hp c (by simp)).1

theorem writes_code (hp : ∀ c ∈ p, Bare c) : Writes p [] := by
  refine ⟨?_, head?_ne_of_bare hp⟩
  induction p with
  | nil => exact writes_nil.denotes
  | cons c p ih =>
    obtain ⟨hc, hp⟩ := List.forall_mem_cons.mp hp
    intro r us hr hus
    exact .code hc (fun _ => head?_append_ne (head?_ne_of_bare hp) hr) (ih hp hr hus)

theorem writes_plain {p : List Char} (h : p.all (Bare ·) = true) : Writes p [] :=
  writes_code fun c hc => of_decide_eq_true (List.all_eq_true.mp h c hc)

def openers : List Char := ['(', ' ', '\x7b', '=']

theorem openers_end_names : openers.all (!Text.identifierContinue.contains ·) = true := by
  decide +kernel

theorem bare_openers : ∀ c ∈ openers, Bare c := by
  simp [openers, Bare]

/-- What stands before a literal, up to a character that ends all names. -/
theorem Denotes.after (h : Denotes cs ts) (hp : p.all (Bare ·) = true) (hc : c ∈ openers) :
    Writes (p ++ [c] ++ cs) ts := by
  have hbare := bare_openers c hc
  have hopen : Writes ([c] ++ cs) ts := by
    refine ⟨fun r us hr hus => .code hbare (fun hname => ?_) (h hr hus), by simpa using hbare.1⟩
    have hend := List.all_eq_true.mp openers_end_names c hc
    rw [hname] at hend
    cases hend
  simpa using (writes_plain hp).append hopen

theorem escapeChar_ne_quote (c : Char) (r r' : List Char) :
    Json.escapeChar true c ++ r ≠ '\"' :: r' := by
  intro h
  unfold Json.escapeChar at h
  iterate 7
    split at h
    · exact absurd (List.cons.inj h).1 (by decide)
  split at h
  · exact absurd (List.cons.inj h).1 (by decide)
  · split at h
    · unfold Json.codeEscape at h
      split at h <;> exact absurd (List.cons.inj h).1 (by decide)
    · exact absurd (List.cons.inj h).1 ‹_›

theorem denotes_literal (s : String) : Denotes (Literal.text s).toList [readLiteral s] := by
  intro r us hr hus
  have hcode : (Literal.text s).toList ++ r =
      '\"' :: (s.toList.flatMap (Json.escapeChar true) ++ '\"' :: r) := by
    simp [Literal.text, Json.quote, Json.quoteChars]
  rw [hcode]
  refine .text (fun more h => ?_) (readText_literal s.toList r) hus
  -- Only an empty text has a second quote right away, and then no third one follows.
  cases hs : s.toList with
  | nil =>
    rw [hs] at h
    exact hr (by rw [(List.cons.inj h).2]; rfl)
  | cons c cs =>
    rw [hs, List.flatMap_cons, List.append_assoc] at h
    exact escapeChar_ne_quote c _ _ h

-- ---------------------------------------------------------------------------
-- The parts of statements
-- ---------------------------------------------------------------------------

theorem bare_integer (n : Int) : ∀ c ∈ (toString n).toList, Bare c := by
  intro c hc
  have hof := Literal.ofInteger_of_mem n c hc
  refine ⟨?_, ?_, ?_⟩ <;> rintro rfl <;> revert hof <;> decide

theorem bare_name (hname : isName name = true) : ∀ c ∈ name.toList, Bare c := by
  have hchars : ['\"', '\'', '#'].all (fun c => !Text.identifierStart.contains c &&
      !Text.identifierContinue.contains c) = true := by
    decide +kernel
  have hfree (c : Char) (hc : c ∈ ['\"', '\'', '#']) : c ∉ name.toList := by
    have hout := List.all_eq_true.mp hchars c hc
    simp only [Bool.and_eq_true, Bool.not_eq_true'] at hout
    exact not_mem_of_isName hname hout.1 hout.2
  intro c hc
  refine ⟨?_, ?_, ?_⟩ <;> rintro rfl
  · exact hfree '\"' (by simp) hc
  · exact hfree '\'' (by simp) hc
  · exact hfree '#' (by simp) hc

theorem writes_separated {f : α → List Char} {t : α → List Nat} (h : ∀ x, Denotes (f x) [t x])
    (hopen : c ∈ openers) (hclose : Bare d) (xs : List α) :
    Writes ([c] ++ ([',', ' '].intercalate (xs.map f) ++ [d])) (xs.map t) := by
  have hend : Writes [d] [] := writes_code (by simpa using hclose)
  cases xs with
  | nil =>
    have hbegin : Writes [c] [] := writes_code (by simpa using bare_openers c hopen)
    exact hbegin.append hend
  | cons x xs =>
    have hnext (y : α) : Writes ([',', ' '] ++ f y) [t y] :=
      (h y).after (p := [',']) (by decide) (by decide)
    have hmore : Writes (xs.flatMap fun y => [',', ' '] ++ f y) (xs.flatMap fun y => [t y]) :=
      writes_flatMap fun y _ => hnext y
    have hall := ((h x).append (hmore.append hend)).after (p := []) (by simp) hopen
    rw [Delimits.intercalate_map_cons]
    simpa [List.map_eq_flatMap] using hall

theorem denotes_entry (m : String × Int) : Denotes (Literal.entry m) [readLiteral m.1] := by
  have hcolon : Writes [':', ' '] [] := writes_plain (by decide)
  simpa [Literal.entry] using
    (denotes_literal m.1).append (hcolon.append (writes_code (bare_integer m.2)))

theorem writes_members (ms : List (String × Int)) :
    Writes (Literal.members ms).toList (ms.map fun m => readLiteral m.1) := by
  rw [Literal.toList_members]
  exact writes_separated denotes_entry (by decide) (by decide) ms

theorem writes_tuple (xs : List String) :
    Writes (Statement.tuple (xs.map Literal.text)).toList (xs.map readLiteral) := by
  by_cases hone : ∃ x, xs = [x]
  · obtain ⟨x, rfl⟩ := hone
    have hcomma : Writes [',', ')'] [] := writes_plain (by decide)
    rw [Statement.toList_tuple_singleton]
    simpa using ((denotes_literal x).append hcomma).after (p := []) (c := '(') rfl (by decide)
  · rw [Statement.toList_tuple (not_exists.mp hone)]
    exact writes_separated denotes_literal (by decide) (by decide) xs

theorem writes_codec (name : String) (ms : List (String × Int)) :
    Writes (Statement.codec name ms).toList
      (readLiteral name :: ms.map fun m => readLiteral m.1) := by
  have hcomma : Writes ", ".toList [] := writes_plain (by decide)
  have hend : Writes ")".toList [] := writes_plain (by decide)
  have hmembers := hcomma.append ((writes_members ms).append hend)
  have hcall := ((denotes_literal name).append hmembers).after (p := "EnumCodec".toList)
    (by decide) (c := '(') (by decide)
  simpa [Statement.codec] using hcall

theorem writes_quoted (s : String) {p q : String} (hp : p.toList.all (Bare ·) = true)
    (hlast : ∃ c ∈ openers, p.toList.getLast? = some c) (hq : q.toList.all (Bare ·) = true) :
    Writes (p ++ Literal.text s ++ q).toList [readLiteral s] := by
  obtain ⟨c, hc, hlast⟩ := hlast
  obtain ⟨before, hbefore⟩ := List.getLast?_eq_some_iff.mp hlast
  rw [hbefore, List.all_append, Bool.and_eq_true] at hp
  have hline := ((denotes_literal s).append (writes_plain hq)).after hp.1 hc
  simpa [String.toList_append, hbefore] using hline

-- ---------------------------------------------------------------------------
-- Statements
-- ---------------------------------------------------------------------------

namespace Statement

/-- The texts that a statement has literals of, in the order of the literals. -/
def texts : Statement → List String
  | .enum name members => name :: members.map Prod.fst
  | .tree => []
  | .addNamespace path => [path]
  | .addMethod name params _ doc => name :: (params ++ doc.toList)
  | .events names => names
  | .attach name members => name :: name :: members.map Prod.fst

end Statement

def WritesLines (ls : List String) (tss : List (List (List Nat))) : Prop :=
  List.Forall₂ (fun l ts => Writes l.toList ts) ls tss

theorem WritesLines.ended (h : WritesLines ls tss) : Writes (ended ls) tss.flatten := by
  have hline : Writes ['\n'] [] := writes_plain (by decide)
  induction h with
  | nil => exact writes_nil
  | cons hl _ ih => simpa [Python.ended] using hl.append (hline.append ih)

theorem WritesLines.append (h : WritesLines ls tss) (h' : WritesLines ls' tss') :
    WritesLines (ls ++ ls') (tss ++ tss') :=
  List.rel_append (R := fun (l : String) ts => Writes l.toList ts) h h'

theorem flatten_singletons (f : α → β) (xs : List α) :
    (xs.map fun x => [f x]).flatten = xs.map f := by
  rw [← List.flatMap_def, List.map_eq_flatMap]

theorem writesLines_addMethod (className name : String) (params : List String)
    (expectReturn : Bool) (doc : Option String) :
    WritesLines ((Statement.addMethod name params expectReturn doc).lines className)
      ([[], [readLiteral name], params.map readLiteral, []] ++
        doc.toList.map (fun d => [readLiteral d]) ++ [[]]) := by
  have hopen : Writes (Statement.indent ++ "_tree.add_method(MethodStub(").toList [] :=
    writes_plain (by decide)
  have hname : Writes (Statement.indent ++ Statement.indent ++ Literal.text name ++ ",").toList
      [readLiteral name] := writes_quoted name (by decide)
    ⟨' ', by decide, by decide⟩ (by decide)
  have hparams : Writes (Statement.indent ++ Statement.indent ++
      Statement.tuple (params.map Literal.text) ++ ",").toList (params.map readLiteral) := by
    have hblanks : Writes (Statement.indent ++ Statement.indent).toList [] :=
      writes_plain (by decide)
    have hcomma : Writes ",".toList [] := writes_plain (by decide)
    simpa using hblanks.append ((writes_tuple params).append hcomma)
  have hexpect : Writes (Statement.indent ++ Statement.indent ++ "expect_return=" ++
      Statement.truth expectReturn ++ ",").toList [] :=
    writes_plain (by cases expectReturn <;> decide)
  have hdoc (d : String) : Writes (Statement.indent ++ Statement.indent ++ "doc=" ++
      Literal.text d ++ ",").toList [readLiteral d] :=
    writes_quoted d (by decide) ⟨'=', by decide, by decide⟩ (by decide)
  have hclose : Writes (Statement.indent ++ "))").toList [] :=
    writes_plain (by decide)
  have hfirst : WritesLines _ [[], [readLiteral name], params.map readLiteral, []] :=
    .cons hopen (.cons hname (.cons hparams (.cons hexpect .nil)))
  unfold Statement.lines
  cases doc with
  | none => exact hfirst.append (.cons hclose .nil)
  | some d => exact hfirst.append (.cons (hdoc d) (.cons hclose .nil))

theorem writesLines_events (className : String) (names : List String) :
    WritesLines ((Statement.events names).lines className)
      ([[]] ++ names.map (fun n => [readLiteral n]) ++ [[]]) := by
  have hopen : Writes (Statement.indent ++ "_declared_events = (").toList [] :=
    writes_plain (by decide)
  have hnames : WritesLines
      (names.map fun n => Statement.indent ++ Statement.indent ++ Literal.text n ++ ",")
      (names.map fun n => [readLiteral n]) := by
    rw [WritesLines, List.forall₂_map_left_iff, List.forall₂_map_right_iff, List.forall₂_same]
    exact fun n _ => writes_quoted n (by decide)
      ⟨' ', by decide, by decide⟩ (by decide)
  have hclose : Writes (Statement.indent ++ ")").toList [] :=
    writes_plain (by decide)
  have hfirst : WritesLines _ [[]] := .cons hopen .nil
  exact (hfirst.append hnames).append (.cons hclose .nil)

theorem writes_statement {st : Statement} (hclass : isName className = true)
    (henum : ∀ name members, st = .enum name members → isName name = true) :
    Writes (st.code className) (st.texts.map readLiteral) := by
  cases st with
  | enum name members =>
    have hblanks : Writes Statement.indent.toList [] :=
      writes_plain (by decide)
    have hequals : Writes " = ".toList [] := writes_plain (by decide)
    have hname : Writes name.toList [] := writes_code (bare_name (henum name members rfl))
    have hline := ((hblanks.append hname).append hequals).append (writes_codec name members)
    have hcode : WritesLines ((Statement.enum name members).lines className)
        [(name :: members.map Prod.fst).map readLiteral] :=
      .cons (by simpa [Function.comp_def] using hline) .nil
    simpa [Statement.code, Statement.texts] using hcode.ended
  | tree =>
    have hcode : WritesLines (Statement.tree.lines className) [[]] :=
      .cons (writes_plain (by decide)) .nil
    exact hcode.ended
  | addNamespace path =>
    have hcode : WritesLines ((Statement.addNamespace path).lines className) [[readLiteral path]] :=
      .cons (writes_quoted path (by decide)
        ⟨'(', by decide, by decide⟩ (by decide)) .nil
    exact hcode.ended
  | addMethod name params expectReturn doc =>
    simpa [Statement.code, Statement.texts, flatten_singletons] using
      (writesLines_addMethod className name params expectReturn doc).ended
  | events names =>
    simpa [Statement.code, Statement.texts, flatten_singletons] using
      (writesLines_events className names).ended
  | attach name members =>
    have hcall : Writes "setattr(".toList [] := writes_plain (by decide)
    have hname : Writes (", " ++ Literal.text name ++ ", ").toList [readLiteral name] :=
      writes_quoted name (by decide) ⟨' ', by decide, rfl⟩ (by decide)
    have hend : Writes ")".toList [] := writes_plain (by decide)
    have hline := (hcall.append (writes_code (bare_name hclass))).append
      (hname.append ((writes_codec name members).append hend))
    have hcode : WritesLines ((Statement.attach name members).lines className)
        [(name :: name :: members.map Prod.fst).map readLiteral] :=
      .cons (by simpa [Function.comp_def] using hline) .nil
    simpa [Statement.code, Statement.texts] using hcode.ended

-- ---------------------------------------------------------------------------
-- Names of a service
-- ---------------------------------------------------------------------------

def texts (s : Service) : List String :=
  (statements s).flatMap Statement.texts

inductive Names (s : Service) : String → Prop where
  | method (h : m ∈ s.methods) : Names s m.name
  | param (h : m ∈ s.methods) (hp : p ∈ m.params) : Names s p.name
  | namespace (h : path ∈ s.namespaces) : Names s path
  | event (h : name ∈ s.eventNames) : Names s name
  | enum (h : (Value.str name, members) ∈ s.enums) : Names s name
  | label (h : (enum, members) ∈ s.enums) (hm : m ∈ members) : Names s m.1

theorem texts_eq (s : Service) : texts s =
    (inside s).flatMap (fun x => x.1 :: x.2.map Prod.fst) ++ s.namespaces ++
      s.methods.flatMap (fun m => m.name :: (m.params.map Param.name ++ (methodDoc m).toList)) ++
      s.eventNames ++ (outside s).flatMap (fun x => x.1 :: x.1 :: x.2.map Prod.fst) := by
  rw [texts, flatMap_statements rfl]
  simp [Statement.texts, Statement.ofInside, Statement.ofOutside, methodStatement]

theorem mem_texts_of_enum (h : (Value.str name, members) ∈ s.enums)
    (hx : x ∈ name :: members.map Prod.fst) : x ∈ texts s := by
  simp only [texts_eq, List.mem_append, List.mem_flatMap]
  cases hname : isName name with
  | true => exact .inl (.inl (.inl (.inl ⟨(name, members), mem_inside.mpr ⟨h, hname⟩, hx⟩)))
  | false =>
    exact .inr ⟨(name, members), mem_outside.mpr ⟨h, hname⟩, List.mem_cons_of_mem _ hx⟩

theorem Accepts.mem_texts (haccepts : Accepts e) (h : Names e.service x) : x ∈ texts e.service := by
  cases h with
  | method h =>
    simp only [texts_eq, List.mem_append, List.mem_flatMap]
    exact .inl (.inl (.inr ⟨_, h, List.mem_cons_self⟩))
  | param h hp =>
    simp only [texts_eq, List.mem_append, List.mem_flatMap]
    exact .inl (.inl (.inr ⟨_, h, List.mem_cons_of_mem _
      (List.mem_append_left _ (List.mem_map_of_mem hp))⟩))
  | «namespace» h =>
    simp only [texts_eq, List.mem_append]
    exact .inl (.inl (.inl (.inr h)))
  | event h =>
    simp only [texts_eq, List.mem_append]
    exact .inl (.inr h)
  | enum h => exact mem_texts_of_enum h List.mem_cons_self
  | label h hm =>
    obtain ⟨name, rfl, -⟩ := (haccepts.enums _ h).text
    exact mem_texts_of_enum h (List.mem_cons_of_mem _ (List.mem_map_of_mem hm))

-- ---------------------------------------------------------------------------
-- Whole proxies
-- ---------------------------------------------------------------------------

theorem Accepts.writes_pieces (haccepts : Accepts e) :
    Writes ((pieces e).flatMap (pieceCode e.className)) ((texts e.service).map readLiteral) := by
  have htexts : (texts e.service).map readLiteral =
      (pieces e).flatMap fun p => p.toList.flatMap fun st => st.texts.map readLiteral := by
    rw [texts, ← filterMap_pieces, List.filterMap_eq_flatMap_toList, List.map_flatMap,
      List.flatMap_assoc]
    rfl
  rw [htexts]
  refine writes_flatMap fun p hp => ?_
  cases p with
  | none => exact writes_code (by simp [pieceCode, Bare])
  | some st =>
    have hst : st ∈ statements e.service := by
      rw [← filterMap_pieces]
      exact List.mem_filterMap.mpr ⟨some st, hp, rfl⟩
    have hwrites : Writes (st.code e.className) (st.texts.map readLiteral) := by
      refine writes_statement haccepts.className ?_
      rintro name members rfl
      exact (mem_inside.mp (enum_mem_statements hst)).2
    simpa [pieceCode] using hwrites

/-- After its header, a proxy is code whose literals denote its texts and nothing else. -/
theorem reads_text (h : target.compile e = .ok text) :
    ∃ body, text.toList = ended (header e) ++ body ∧
      ∀ ts, Reads body ts ↔ ts = (texts e.service).map readLiteral := by
  have hreads := (compile_ok.mp h).1.writes_pieces.reads
  refine ⟨_, toList_text h, fun ts => ⟨fun hts => hts.unique hreads, ?_⟩⟩
  rintro rfl
  exact hreads

/-- Each name in a service has a literal in its proxy, and what these literals denote is the name
exactly as long as its characters are within the sixteen-bit range. -/
theorem literals_denote_names (htext : target.compile ⟨s, className⟩ = .ok text) :
    ∃ body, text.toList = ended (header ⟨s, className⟩) ++ body ∧
      (∀ ts, Reads body ts ↔ ts = (texts s).map readLiteral) ∧
      ∀ x, Names s x → x ∈ texts s ∧
        (readLiteral x = x.toList.map Char.toNat ↔ ∀ c ∈ x.toList, c.toNat < 0x10000) := by
  obtain ⟨body, hbody, hreads⟩ := reads_text htext
  refine ⟨body, hbody, hreads, fun x hx => ⟨(compile_ok.mp htext).1.mem_texts hx, ?_⟩⟩
  rw [← readsBack_iff, readsBack, beq_iff_eq]

theorem quoted_names_denoted :
    let s := ((Service.empty (.str "1.0") (.str "Jobs")).after
      (.definition (.str "say \"hi\"") (.enum [("C:\\", 0), ("\t", 1)]))).after
      (.readMethod [.str "jobs"] ⟨"list\n", [Value.bareParam "'"], none, none⟩)
    ∃ text, target.compile ⟨s, "Jobs"⟩ = .ok text ∧
      ∃ body, text.toList = ended (header ⟨s, "Jobs"⟩) ++ body ∧
        (∀ ts, Reads body ts ↔ ts = (texts s).map readLiteral) ∧
        ∀ x, Names s x → x ∈ texts s ∧
          (readLiteral x = x.toList.map Char.toNat ↔ ∀ c ∈ x.toList, c.toNat < 0x10000) := by
  intro s
  obtain ⟨text, htext⟩ : ∃ text, target.compile ⟨s, "Jobs"⟩ = .ok text := by
    rw [← isOk_eq_true]
    simp only [s]
    decide +kernel
  exact ⟨text, htext, literals_denote_names htext⟩

/-- A label beyond the sixteen-bit range is written as two escapes, which are two code points. -/
theorem emoji_label_not_denoted :
    let s := (Service.empty .null .null).after
      (.definition (.str "Mode") (.enum [("😀", 0)]))
    s.Reachable ∧ Names s "😀" ∧ "😀".toList.map Char.toNat = [0x1F600] ∧
      ∃ text, target.compile ⟨s, "Proxy"⟩ = .ok text ∧
        ∃ body, text.toList = ended (header ⟨s, "Proxy"⟩) ++ body ∧
          ∀ ts, Reads body ts ↔ ts = [[0x4D, 0x6F, 0x64, 0x65], [0xD83D, 0xDE00]] := by
  intro s
  have hs : s.Reachable := (Service.Reachable.empty _ _).after _
  obtain ⟨x, hx, hlabel⟩ : ∃ x ∈ s.enums, ("😀", 0) ∈ x.2 := by
    simp only [s]
    decide +kernel
  obtain ⟨text, htext⟩ : ∃ text, target.compile ⟨s, "Proxy"⟩ = .ok text := by
    rw [← isOk_eq_true]
    simp only [s]
    decide +kernel
  have htexts : (texts s).map readLiteral = [[0x4D, 0x6F, 0x64, 0x65], [0xD83D, 0xDE00]] := by
    simp only [s]
    decide +kernel
  obtain ⟨body, hbody, hreads⟩ := reads_text htext
  refine ⟨hs, .label hx hlabel, by decide, text, htext, body, hbody, ?_⟩
  rw [← htexts]
  exact hreads

end Farcall.Python
