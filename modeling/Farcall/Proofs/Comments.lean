import Farcall.Proofs.Emissions
import Farcall.Proofs.Literals
import Farcall.Proofs.Registration
import Farcall.Target.JavaScript
import Mathlib.Data.List.TakeWhile

/-!
# Where comments end

A comment of a JavaScript proxy ends at the first `*/` after its opening. The texts of a service
stand in comments as they are, and what is written around them neither ends a comment nor makes an
end out of their pieces. So a comment ends where it is meant to exactly as long as none of these
texts has `*/` in it.
-/

namespace Farcall.JavaScript

-- ---------------------------------------------------------------------------
-- The end of a comment
-- ---------------------------------------------------------------------------

def afterComment : List Char → Option (List Char)
  | '*' :: '/' :: rest => some rest
  | _ :: rest => afterComment rest
  | [] => none

def closes (cs : List Char) : Bool :=
  (afterComment cs).isSome

theorem afterComment_cons (h : c = '*' → cs.head? ≠ some '/') :
    afterComment (c :: cs) = afterComment cs := by
  rw [afterComment]
  rintro rest rfl rfl
  exact h rfl rfl

theorem closes_iff : closes cs = true ↔ "*/".toList <:+: cs := by
  unfold closes
  fun_induction afterComment cs with
  | case1 rest => exact iff_of_true rfl ⟨[], rest, rfl⟩
  | case2 c rest hopen ih =>
    rw [ih, List.infix_cons_iff]
    refine ⟨.inr, fun h => h.resolve_left ?_⟩
    rintro ⟨more, hmore⟩
    obtain ⟨rfl, hrest⟩ := List.cons.inj hmore
    exact hopen more rfl hrest.symm
  | case3 => simp

/-- A comment that does not end within a text is read on after it, unless the end stands across. -/
theorem afterComment_append (hb : b.head? ≠ some '/') :
    afterComment (a ++ b) = ((afterComment a).map (· ++ b)).or (afterComment b) := by
  fun_induction afterComment a with
  | case1 rest => rfl
  | case2 c rest hopen ih =>
    -- What is read first stays the same: a star at the end of `a` meets no slash.
    rw [List.cons_append, afterComment_cons, ih]
    rintro rfl
    cases rest with
    | nil => exact hb
    | cons d rest => simpa using fun h => hopen rest rfl (by rw [h])
  | case3 => rfl

theorem closes_append (hb : b.head? ≠ some '/') : closes (a ++ b) = (closes a || closes b) := by
  rw [closes, afterComment_append hb, closes, closes]
  cases afterComment a <;> rfl

@[simp] theorem closes_nil : closes [] = false := rfl

@[simp] theorem closes_star : closes ['*'] = false := rfl

@[simp] theorem closes_cons (h : c ≠ '*') : closes (c :: cs) = closes cs := by
  rw [closes, afterComment_cons (absurd · h), closes]

@[simp] theorem closes_star_cons (h : c ≠ '/') : closes ('*' :: c :: cs) = closes (c :: cs) := by
  rw [closes, afterComment_cons (by simp [h]), closes]

@[simp] theorem closes_append_cons (h : c ≠ '/') :
    closes (a ++ c :: cs) = (closes a || closes (c :: cs)) :=
  closes_append (by simpa using h)

-- ---------------------------------------------------------------------------
-- Blanks and line boundaries
-- ---------------------------------------------------------------------------

def Inert (c : Char) : Prop :=
  c ≠ '*' ∧ c ≠ '/'

theorem inert_of_isBlank (h : Text.isBlank c = true) : Inert c := by
  constructor <;> rintro rfl <;> revert h <;> decide

theorem inert_of_endsLine (h : Text.endsLine c = true) : Inert c := by
  constructor <;> rintro rfl <;> revert h <;> decide

theorem closes_of_inert (h : ∀ c ∈ cs, Inert c) : closes cs = false := by
  induction cs with
  | nil => rfl
  | cons c cs ih =>
    obtain ⟨hc, hcs⟩ := List.forall_mem_cons.mp h
    rw [closes_cons hc.1, ih hcs]

theorem head?_ne_of_inert {cs : List Char} (h : ∀ c ∈ cs, Inert c) : cs.head? ≠ some '/' := by
  cases cs with
  | nil => simp
  | cons c cs => simpa using (h c (by simp)).2

theorem closes_append_inert (h : ∀ c ∈ b, Inert c) : closes (a ++ b) = closes a := by
  rw [closes_append (head?_ne_of_inert h), closes_of_inert h, Bool.or_false]

theorem closes_inert_append (h : ∀ c ∈ a, Inert c) : closes (a ++ b) = closes b := by
  induction a with
  | nil => rfl
  | cons c a ih =>
    obtain ⟨hc, ha⟩ := List.forall_mem_cons.mp h
    rw [List.cons_append, closes_cons hc.1, ih ha]

theorem closes_trimEndChars (cs : List Char) : closes (Text.trimEndChars cs) = closes cs := by
  have hblanks : ∀ c ∈ (cs.reverse.takeWhile Text.isBlank).reverse, Inert c := by
    intro c hc
    exact inert_of_isBlank (List.mem_takeWhile_imp (List.mem_reverse.mp hc))
  have hsplit : cs = Text.trimEndChars cs ++ (cs.reverse.takeWhile Text.isBlank).reverse := by
    rw [Text.trimEndChars, ← List.reverse_append, List.takeWhile_append_dropWhile,
      List.reverse_reverse]
  conv_rhs => rw [hsplit]
  rw [closes_append_inert hblanks]

theorem closes_trim (s : String) : closes (Text.trim s).toList = closes s.toList := by
  have hblanks : ∀ c ∈ s.toList.takeWhile Text.isBlank, Inert c :=
    fun c hc => inert_of_isBlank (List.mem_takeWhile_imp hc)
  rw [Text.trim, String.toList_ofList, closes_trimEndChars]
  conv_rhs => rw [← List.takeWhile_append_dropWhile (p := Text.isBlank) (l := s.toList)]
  rw [closes_inert_append hblanks]

theorem any_closes_linesFrom (current cs : List Char) :
    (Text.linesFrom current cs).any closes = closes (current.reverse ++ cs) := by
  fun_induction Text.linesFrom current cs with
  | case1 current hempty => simp_all
  | case2 current hmore => simp
  | case3 current rest ih => simp [ih]
  | case4 current c rest hcrlf hends ih =>
    have hc := inert_of_endsLine hends
    simp [ih, hc.1, hc.2]
  | case5 current c rest hcrlf hends ih => simp [ih]

theorem any_closes_lines (s : String) :
    (Text.lines s).any (fun l => closes l.toList) = closes s.toList := by
  have hlines := any_closes_linesFrom [] s.toList
  rw [Text.lines, List.any_map]
  simpa [Function.comp_def] using hlines

-- ---------------------------------------------------------------------------
-- Comments over several lines
-- ---------------------------------------------------------------------------

/-- Whether the comment that some lines begin with ends at their end. -/
def EndsLast (ls : List String) : Prop :=
  ∃ inner, ("\n".intercalate ls).toList = "/**".toList ++ inner ∧ afterComment inner = some []

theorem closes_flatMap_lines (ls : List String) :
    closes (ls.flatMap fun l => '\n' :: l.toList) = ls.any fun l => closes l.toList := by
  induction ls with
  | nil => rfl
  | cons l ls ih =>
    have hrest : (ls.flatMap fun l => '\n' :: l.toList).head? ≠ some '/' := by
      cases ls <;> simp
    rw [List.flatMap_cons, List.cons_append, closes_cons (by decide), closes_append hrest, ih]
    rfl

/-- What stands between the first and the last line must not end the comment. -/
theorem endsLast_iff (middle : List String) :
    EndsLast (["/**"] ++ middle ++ [" */"]) ↔ ∀ l ∈ middle, closes l.toList = false := by
  have htext : ("\n".intercalate (["/**"] ++ middle ++ [" */"])).toList = "/**".toList ++
      ((middle.flatMap fun l => '\n' :: l.toList) ++ ['\n', ' ', '*', '/']) := by
    have hlines := Delimits.intercalate_map_cons ['\n'] String.toList "/**" (middle ++ [" */"])
    simpa using hlines
  have hend : afterComment ((middle.flatMap fun l => '\n' :: l.toList) ++ ['\n', ' ', '*', '/']) =
      some [] ↔ closes (middle.flatMap fun l => '\n' :: l.toList) = false := by
    rw [afterComment_append (by simp), closes]
    cases afterComment (middle.flatMap fun l => '\n' :: l.toList) with
    | none => simp [afterComment]
    | some rest => simp
  rw [closes_flatMap_lines, List.any_eq_false] at hend
  simp only [EndsLast, htext, List.append_cancel_left_eq, exists_eq_left', hend,
    Bool.not_eq_true]

theorem closes_type (r : TypeRef) : closes r.text.toList = closes r.name.toList := by
  unfold TypeRef.text
  split <;> simp

theorem closes_paramDoc (p : Param) : closes (paramDoc p).toList =
    (closes p.type.name.toList || closes p.name.toList ||
      closes (p.description.getD "").toList) := by
  have hname : closes (if p.optional then "[" ++ p.name ++ "]" else p.name).toList =
      closes p.name.toList := by
    split <;> simp
  unfold paramDoc
  rw [← hname, ← closes_type]
  cases hd : p.description with
  | none => simp
  | some d =>
    by_cases hempty : d = ""
    · simp [hempty]
    · simp [Bool.or_assoc]

theorem closes_description (m : Method) :
    ((Text.lines (m.description.getD "")).map fun l => Text.trimEnd (" * " ++ l)).any
      (fun l => closes l.toList) = closes (m.description.getD "").toList := by
  rw [← any_closes_lines, List.any_map]
  refine List.any_congr rfl fun l => ?_
  simp [Text.trimEnd, closes_trimEndChars]

-- ---------------------------------------------------------------------------
-- The comments of a proxy
-- ---------------------------------------------------------------------------

def Harmless (s : String) : Prop :=
  ¬ "*/".toList <:+: s.toList

theorem closes_eq_false {s : String} : closes s.toList = false ↔ Harmless s := by
  rw [Harmless, ← closes_iff, Bool.not_eq_true]

theorem closes_getD {x : Option String} :
    closes (x.getD "").toList = false ↔ ∀ d ∈ x, Harmless d := by
  cases x <;> simp [closes_eq_false]

/-- A method whose texts are harmless, as far as they stand in the comment in front of it. -/
structure HarmlessMethod (m : Method) : Prop where
  description : ∀ d ∈ m.description, Harmless d
  params : ∀ p ∈ m.params, (Harmless p.type.name ∧ Harmless p.name) ∧
    ∀ d ∈ p.description, Harmless d
  returns : ∀ r ∈ m.returns, Harmless r.name

theorem endsLast_methodDoc (m : Method) : EndsLast (methodDoc m) ↔ HarmlessMethod m := by
  have hdescription : (∀ l ∈ (Text.lines (m.description.getD "")).map
      (fun l => Text.trimEnd (" * " ++ l)), closes l.toList = false) ↔
        ∀ d ∈ m.description, Harmless d := by
    simp only [← closes_getD, ← closes_description, List.any_eq_false, Bool.not_eq_true]
  have hparams : (∀ l ∈ m.params.map paramDoc, closes l.toList = false) ↔
      ∀ p ∈ m.params, (Harmless p.type.name ∧ Harmless p.name) ∧
        ∀ d ∈ p.description, Harmless d := by
    simp only [List.forall_mem_map, closes_paramDoc, Bool.or_eq_false_iff, closes_getD]
    simp only [closes_eq_false]
  have hcallback : closes " * @param \x7bfunction\x7d [callback]".toList = false := by
    decide
  have hreturns : (∀ l ∈ m.returns.toList.map (fun r => " * @returns \x7b" ++ r.text ++ "\x7d"),
      closes l.toList = false) ↔ ∀ r ∈ m.returns, Harmless r.name := by
    simp only [← closes_eq_false, ← closes_type]
    cases m.returns <;> simp
  have hdoc : methodDoc m = ["/**"] ++ ((Text.lines (m.description.getD "")).map
      (fun l => Text.trimEnd (" * " ++ l)) ++ m.params.map paramDoc ++
        [" * @param \x7bfunction\x7d [callback]"] ++
        m.returns.toList.map fun r => " * @returns \x7b" ++ r.text ++ "\x7d") ++ [" */"] := by
    unfold methodDoc
    cases m.returns <;> simp
  rw [hdoc, endsLast_iff]
  simp only [List.forall_mem_append, hdescription, hparams, hreturns, List.forall_mem_singleton,
    hcallback, and_true]
  exact ⟨fun ⟨⟨hd, hp⟩, hr⟩ => ⟨hd, hp, hr⟩, fun h => ⟨⟨h.description, h.params⟩, h.returns⟩⟩

def banner (e : Emission) : List String :=
  (preamble e).take 5

theorem prefix_intercalate {between : List α} : x <+: between.intercalate (x :: xs) := by
  cases xs with
  | nil => simp
  | cons y ys =>
    rw [List.intercalate_cons_of_ne_nil (List.cons_ne_nil y ys), List.append_assoc]
    exact List.prefix_append x _

theorem infix_intercalate {between : List α} (h : x ∈ xs) : x <:+: between.intercalate xs := by
  induction xs with
  | nil => cases h
  | cons y ys ih =>
    rcases List.mem_cons.mp h with rfl | hx
    · exact prefix_intercalate.isInfix
    · rw [List.intercalate_cons_of_ne_nil (List.ne_nil_of_mem hx)]
      exact (ih hx).trans (List.suffix_append _ _).isInfix

theorem infix_joinChunks {chunk : List String} (h : chunk ∈ chunks) :
    chunk <:+: Target.joinChunks separate chunks := by
  by_cases hchunk : chunk = []
  · exact hchunk ▸ List.nil_infix
  · exact infix_intercalate (List.mem_filter.mpr ⟨h, by simp [hchunk]⟩)

/-- The comments stand in a proxy as they are written: one at its beginning, and one for each of its
methods. -/
theorem comments_of_lines (h : target.lines e = .ok ls) :
    banner e <+: ls ∧ ∀ m ∈ e.service.methods, methodDoc m <:+: ls := by
  obtain ⟨parts, hparts, hls⟩ := bind_ok.mp h
  obtain rfl := pure_ok.mp hls
  simp only [Target.sections, target, Target.each_ok, bind_ok, pure_ok, Except.ok.injEq,
    exists_eq_left'] at hparts
  obtain ⟨enums, -, rfl⟩ := hparts
  constructor
  · -- The first section is never empty, so it begins the lines.
    exact (List.prefix_append (banner e) _).trans prefix_intercalate
  · intro m hm
    have hdoc : methodDoc m <:+: methodLines e.className m :=
      (List.prefix_append _ _).isInfix
    have hlines : methodLines e.className m <:+:
        Target.joinChunks true (e.service.methods.map (methodLines e.className)) :=
      infix_joinChunks (List.mem_map_of_mem hm)
    refine (hdoc.trans hlines).trans (infix_joinChunks ?_)
    simp

theorem endsLast_banner (e : Emission) : EndsLast (banner e) ↔
    Harmless (if e.service.friendlyName.truthy then e.service.friendlyName.plain else e.className) ∧
      Harmless e.service.version.plain := by
  have hbanner : banner e = ["/**"] ++ [" * Client proxy for " ++ e.title ++ ".", " *",
      " * Generated by jsonws. Do not edit."] ++ [" */"] := rfl
  have htitle : closes e.title.toList = false ↔
      Harmless (if e.service.friendlyName.truthy then e.service.friendlyName.plain
        else e.className) ∧ Harmless e.service.version.plain := by
    rw [Emission.title, closes_trim, ← closes_eq_false, ← closes_eq_false]
    simp
  rw [hbanner, endsLast_iff, ← htitle]
  simp

/-- The comments of a proxy end with their last lines exactly as long as no text that stands in them
has an end of a comment in it: neither a title nor a description, and neither a name nor a type of a
parameter. -/
theorem comments_end_last_iff (e : Emission) (m : Method) :
    (EndsLast (banner e) ↔
      Harmless (if e.service.friendlyName.truthy then e.service.friendlyName.plain
        else e.className) ∧ Harmless e.service.version.plain) ∧
      (EndsLast (methodDoc m) ↔ HarmlessMethod m) :=
  ⟨endsLast_banner e, endsLast_methodDoc m⟩

/-- The end of a comment in a description is taken for the end of the comment it stands in, and what
comes after it for code. -/
theorem description_ends_comment :
    let s := (Service.empty .null .null).after (.readMethod [] ⟨"m", [], none, some "*/ x"⟩)
    s.Reachable ∧ (∃ text, target.compile ⟨s, "Proxy"⟩ = .ok text) ∧
      ∃ m ∈ s.methods, ¬ EndsLast (methodDoc m) ∧
        afterComment (("\n".intercalate (methodDoc m)).toList.drop 3) =
          some " x\n * @param \x7bfunction\x7d [callback]\n */".toList := by
  intro s
  have hs : s.Reachable := (Service.Reachable.empty _ _).after _
  obtain ⟨text, htext⟩ : ∃ text, target.compile ⟨s, "Proxy"⟩ = .ok text := by
    rw [← isOk_eq_true]
    simp only [s]
    decide +kernel
  obtain ⟨m, hm, hdescription, hafter⟩ : ∃ m ∈ s.methods, m.description = some "*/ x" ∧
      afterComment (("\n".intercalate (methodDoc m)).toList.drop 3) =
        some " x\n * @param \x7bfunction\x7d [callback]\n */".toList := by
    simp only [s]
    decide +kernel
  refine ⟨hs, ⟨text, htext⟩, m, hm, ?_, hafter⟩
  rw [endsLast_methodDoc]
  intro hharmless
  exact hharmless.description _ hdescription ⟨[], " x".toList, rfl⟩

end Farcall.JavaScript
