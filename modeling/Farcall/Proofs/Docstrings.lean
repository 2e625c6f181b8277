import Farcall.Proofs.LiteralReading

/-!
# Docstrings close where they should

The title of a proxy stands in the docstrings of its module and of its class. It may hold quotes and
backslashes, but no title closes a docstring early, and undoing its escapes gives the title back.
-/

namespace Farcall.Python

-- ---------------------------------------------------------------------------
-- Replacements
-- ---------------------------------------------------------------------------

/-- Each occurrence of `old` from left to right by `new`; none begins within another one. -/
def replaced (old new : List Char) (cs : List Char) : List Char :=
  match cs with
  | [] => []
  | c :: rest =>
    if old.isPrefixOf (c :: rest) then new ++ replaced old new (rest.drop (old.length - 1))
    else c :: replaced old new rest
termination_by cs.length
decreasing_by
  · simp only [List.length_cons, List.length_drop]
    omega
  · simp

def tripleQuotes : List Char := ['\"', '\"', '\"']

def doubled (cs : List Char) : List Char :=
  cs.flatMap fun c => if c = '\\' then ['\\', '\\'] else [c]

theorem replaced_slash (cs : List Char) : replaced ['\\'] ['\\', '\\'] cs = doubled cs := by
  induction cs with
  | nil =>
    rw [replaced]
    rfl
  | cons c cs ih =>
    rw [replaced, doubled, List.flatMap_cons, ← doubled, ← ih]
    by_cases hc : c = '\\'
    · simp [hc]
    · simp [hc, Ne.symm hc]

theorem replaced_plain (h : ¬ old <+: c :: rest) :
    replaced old new (c :: rest) = c :: replaced old new rest := by
  rw [replaced, if_neg]
  rwa [List.isPrefixOf_iff_prefix]

theorem doubled_plain (hslash : c ≠ '\\') (cs : List Char) :
    doubled (c :: cs) = c :: doubled cs := by
  simp [doubled, hslash]

/-- Where the text with its backslashes doubled begins with a quote, the text itself does. -/
theorem doubled_head (h : '\"' :: more = doubled cs) :
    ∃ rest, cs = '\"' :: rest ∧ more = doubled rest := by
  cases cs with
  | nil => cases h
  | cons c cs =>
    by_cases hc : c = '\\'
    · simp [doubled, hc] at h
    · rw [doubled_plain hc] at h
      obtain ⟨rfl, hmore⟩ := List.cons.inj h
      exact ⟨cs, rfl, hmore⟩

/-- A text is escaped by two replacements: first of its backslashes, then of triple quotes. -/
theorem docChars_eq_replaced (cs : List Char) : docChars cs =
    replaced tripleQuotes ['\\', '\"', '\\', '\"', '\\', '\"']
      (replaced ['\\'] ['\\', '\\'] cs) := by
  rw [replaced_slash]
  fun_induction docChars cs with
  | case1 rest ih => simp [doubled_plain, replaced, tripleQuotes, ih]
  | case2 rest ih =>
    have hdoubled : doubled ('\\' :: rest) = '\\' :: '\\' :: doubled rest := rfl
    rw [hdoubled, replaced_plain (by simp [tripleQuotes]), replaced_plain (by simp [tripleQuotes]),
      ih]
  | case3 c rest hquotes hslash ih =>
    -- Three quotes here would be three quotes of the text itself.
    have hplain : ¬ tripleQuotes <+: c :: doubled rest := by
      rintro ⟨more, h⟩
      obtain ⟨rfl, hfirst⟩ := List.cons.inj h
      obtain ⟨rest, rfl, hsecond⟩ := doubled_head hfirst
      obtain ⟨rest, rfl, -⟩ := doubled_head hsecond
      exact hquotes rest rfl rfl
    rw [doubled_plain hslash, replaced_plain hplain, ih]
  | case4 =>
    rw [doubled, List.flatMap_nil, replaced]

-- ---------------------------------------------------------------------------
-- Escapes undone
-- ---------------------------------------------------------------------------

/-- Undoes escapes of backslashes and quotes; there are no others. -/
def unescape : List Char → Option (List Char)
  | '\\' :: c :: rest => if c = '\\' ∨ c = '\"' then (unescape rest).map (c :: ·) else none
  | ['\\'] => none
  | c :: rest => (unescape rest).map (c :: ·)
  | [] => some []

theorem unescape_plain (hslash : c ≠ '\\') :
    unescape (c :: rest) = (unescape rest).map (c :: ·) := by
  rw [unescape]
  · intro d more h
    exact absurd h hslash
  · intro h
    exact absurd h hslash

theorem unescape_docChars (t : List Char) : unescape (docChars t) = some t := by
  fun_induction docChars t with
  | case1 t ih => simp [unescape, ih]
  | case2 t ih => simp [unescape, ih]
  | case3 c t _ hslash ih =>
    rw [unescape_plain hslash, ih]
    rfl
  | case4 => rfl

-- ---------------------------------------------------------------------------
-- Docstrings
-- ---------------------------------------------------------------------------

def moduleDoc (title : String) : List Char :=
  '\n' :: "Client proxy for ".toList ++ (docText title).toList ++ mark

def classDoc (title : String) : List Char :=
  (docText title).toList ++ " proxy.".toList

theorem unescaped_of_all {cs : List Char} (h : cs.all (fun c => c != '\\' && c != '\"') = true) :
    ∀ c ∈ cs, c ≠ '\\' ∧ c ≠ '\"' := by
  simpa using h

/-- A docstring ends at its own quotes, whatever title stands in it. -/
theorem readDoc_around (t : List Char) (hx : ∀ c ∈ x, c ≠ '\\' ∧ c ≠ '\"')
    (hy : ∀ c ∈ y, c ≠ '\\' ∧ c ≠ '\"') (hne : y ≠ []) (rest : List Char) :
    readDoc (x ++ docChars t ++ y ++ tripleQuotes ++ rest) = (x ++ t ++ y, rest) := by
  have hhead : (y ++ (tripleQuotes ++ rest)).head? ≠ some '\"' := by
    obtain ⟨c, y, rfl⟩ := List.exists_cons_of_ne_nil hne
    simpa using (hy c List.mem_cons_self).2
  have hquotes : readDoc (tripleQuotes ++ rest) = ([], rest) := rfl
  simp only [List.append_assoc, readDoc_append hx, readDoc_docChars t hhead, readDoc_append hy,
    hquotes, List.append_nil]

def betweenDocs (className : String) : List Char :=
  imports ++ className.toList ++ "(ProxyBase):\n".toList ++ Statement.indent.toList

theorem bare_betweenDocs (hname : isName className = true) :
    ∀ c ∈ betweenDocs className, Bare c := by
  have himports : imports.all (Bare ·) = true := by
    decide +kernel
  have hbase : ("(ProxyBase):\n".toList ++ Statement.indent.toList).all (Bare ·) = true := by
    decide +kernel
  simp only [List.all_eq_true, decide_eq_true_eq] at himports hbase
  intro c hc
  rw [betweenDocs, List.append_assoc, List.mem_append, List.mem_append] at hc
  rcases hc with (hc | hc) | hc
  · exact himports c hc
  · exact bare_name hname c hc
  · exact hbase c hc

theorem ended_header_docs (e : Emission) (r : List Char) : ended (header e) ++ r =
    tripleQuotes ++ moduleDoc e.title ++ tripleQuotes ++ betweenDocs e.className ++
      tripleQuotes ++ classDoc e.title ++ tripleQuotes ++ '\n' :: r := by
  rw [ended_header]
  simp [moduleDoc, classDoc, betweenDocs, tripleQuotes, docText, ended]

/-- Each docstring of a proxy ends at its own closing quotes, whatever its title is, and the escapes
of the title are undone to the title. No other text or comment begins before both have ended. -/
theorem docstrings_close :
    (∀ t : String,
      (docText t).toList = replaced tripleQuotes ['\\', '\"', '\\', '\"', '\\', '\"']
        (replaced ['\\'] ['\\', '\\'] t.toList) ∧
      unescape (docText t).toList = some t.toList ∧
      ∀ rest,
        readDoc (moduleDoc t ++ tripleQuotes ++ rest) =
          ('\n' :: "Client proxy for ".toList ++ t.toList ++ mark, rest) ∧
        readDoc (classDoc t ++ tripleQuotes ++ rest) = (t.toList ++ " proxy.".toList, rest)) ∧
    ∀ e text, target.compile e = .ok text → ∃ between body, (∀ c ∈ between, Bare c) ∧
      text.toList = tripleQuotes ++ moduleDoc e.title ++ tripleQuotes ++ between ++
        tripleQuotes ++ classDoc e.title ++ tripleQuotes ++ body := by
  refine ⟨fun t => ?_, fun e text h => ?_⟩
  · have hdoc : (docText t).toList = docChars t.toList := String.toList_ofList
    refine ⟨hdoc ▸ docChars_eq_replaced t.toList, hdoc ▸ unescape_docChars t.toList, fun rest => ?_⟩
    constructor
    · have hbegin : ∀ c ∈ '\n' :: "Client proxy for ".toList, c ≠ '\\' ∧ c ≠ '\"' :=
        unescaped_of_all (by decide +kernel)
      rw [moduleDoc, hdoc]
      exact readDoc_around t.toList hbegin (fun _ => mark_plain) mark_ne_nil rest
    · have hend : ∀ c ∈ " proxy.".toList, c ≠ '\\' ∧ c ≠ '\"' :=
        unescaped_of_all (by decide +kernel)
      rw [classDoc, hdoc]
      exact readDoc_around (x := []) t.toList (by simp) hend (by simp) rest
  · obtain ⟨haccepts, -⟩ := compile_ok.mp h
    exact ⟨_, _, bare_betweenDocs haccepts.className,
      (toList_text h).trans (ended_header_docs e _)⟩

/-- A title that is quotes at both ends, with backslashes before them. -/
theorem quoted_title_closed :
    let e : Emission := ⟨Service.empty (.str "1.0\\\"\"") (.str "\"\"\"Jobs\\\"\"\""), "Jobs"⟩
    e.title = "\"\"\"Jobs\\\"\"\" 1.0\\\"\"" ∧ ∃ text, target.compile e = .ok text ∧
      ∃ between body, (∀ c ∈ between, Bare c) ∧
        text.toList = tripleQuotes ++ moduleDoc e.title ++ tripleQuotes ++ between ++
          tripleQuotes ++ classDoc e.title ++ tripleQuotes ++ body := by
  intro e
  obtain ⟨text, htext⟩ : ∃ text, target.compile e = .ok text := by
    rw [← isOk_eq_true]
    decide +kernel
  exact ⟨by decide +kernel, text, htext, docstrings_close.2 e text htext⟩

end Farcall.Python
