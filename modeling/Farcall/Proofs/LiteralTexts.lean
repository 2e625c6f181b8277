import Farcall.Proofs.Literals
import Mathlib.Algebra.BigOperators.Group.List.Basic
import Mathlib.Algebra.Ring.Parity

/-!
# Literals of any text

The literal of a text of Unicode scalar values is printable ASCII whatever the text is, its only
unescaped quotes are the two around it, and reading it as JSON gives the text back. So code that is put
together from literals holds no text that reaches beyond its own quotes.
-/

namespace Farcall.Literal

-- ---------------------------------------------------------------------------
-- Escaped texts
-- ---------------------------------------------------------------------------

def Printable (c : Char) : Prop :=
  0x20 ≤ c.toNat ∧ c.toNat ≤ 0x7e

instance : DecidablePred Printable :=
  fun _ => inferInstanceAs (Decidable (_ ∧ _))

/-- Printable texts whose quotes and backslashes stand in pairs with a backslash before them. -/
inductive Escaped : List Char → Prop where
  | nil : Escaped []
  | plain (hc : Printable c) (hquote : c ≠ '\"') (hslash : c ≠ '\\') (h : Escaped cs) :
    Escaped (c :: cs)
  | pair (hc : Printable c) (h : Escaped cs) : Escaped ('\\' :: c :: cs)

theorem Escaped.append (h : Escaped cs) (h' : Escaped cs') : Escaped (cs ++ cs') := by
  induction h with
  | nil => exact h'
  | plain hc hquote hslash _ ih => exact .plain hc hquote hslash ih
  | pair hc _ ih => exact .pair hc ih

theorem Escaped.printable (h : Escaped cs) : ∀ c ∈ cs, Printable c := by
  induction h with
  | nil => simp
  | plain hc _ _ _ ih => exact List.forall_mem_cons.mpr ⟨hc, ih⟩
  | pair hc _ ih => exact List.forall_mem_cons.mpr ⟨by decide, List.forall_mem_cons.mpr ⟨hc, ih⟩⟩

theorem hexDigit_plain : ∀ n < 16, Printable (Text.hexDigit n) ∧ Text.hexDigit n ≠ '\"' ∧
    Text.hexDigit n ≠ '\\' := by
  decide

theorem escaped_hex (width n : Nat) : Escaped (Text.hex width n) := by
  induction width generalizing n with
  | zero => exact .nil
  | succ w ih =>
    obtain ⟨hprintable, hquote, hslash⟩ := hexDigit_plain (n % 16) (Nat.mod_lt _ (by decide))
    exact (ih _).append (.plain hprintable hquote hslash .nil)

theorem escaped_unitEscape (n : Nat) : Escaped (Json.unitEscape n) :=
  .pair (by decide) (escaped_hex 4 n)

theorem escaped_escapeChar (c : Char) : Escaped (Json.escapeChar true c) := by
  unfold Json.escapeChar
  -- Seven characters have an escape of one letter.
  iterate 7
    split
    · exact .pair (by decide) .nil
  split
  · exact escaped_unitEscape _
  · split
    · unfold Json.codeEscape
      split
      · exact escaped_unitEscape _
      · exact (escaped_unitEscape _).append (escaped_unitEscape _)
    · rename_i hascii
      have hsmall : c.toNat ≤ 0x7e := by simpa using hascii
      exact .plain ⟨by omega, hsmall⟩ ‹_› ‹_› .nil

theorem escaped_body (cs : List Char) : Escaped (cs.flatMap (Json.escapeChar true)) := by
  induction cs with
  | nil => exact .nil
  | cons c cs ih => exact (escaped_escapeChar c).append ih

-- ---------------------------------------------------------------------------
-- Backslashes before quotes
-- ---------------------------------------------------------------------------

def backslashes (cs : List Char) : Nat :=
  (cs.reverse.takeWhile (· == '\\')).length

theorem backslashes_concat_slash (cs : List Char) :
    backslashes (cs ++ ['\\']) = backslashes cs + 1 := by
  simp [backslashes]

theorem backslashes_concat (h : c ≠ '\\') (cs : List Char) : backslashes (cs ++ [c]) = 0 := by
  simp [backslashes, h]

theorem even_backslashes_pair (h : Even (backslashes before)) (c : Char) :
    Even (backslashes (before ++ ['\\', c])) := by
  have hsplit : before ++ ['\\', c] = before ++ ['\\'] ++ [c] := by simp
  by_cases hc : c = '\\'
  · rw [hsplit, hc, backslashes_concat_slash, backslashes_concat_slash]
    exact h.add_one.add_one
  · rw [hsplit, backslashes_concat hc]
    exact .zero

theorem Escaped.even_backslashes (h : Escaped cs) (hbefore : Even (backslashes before)) :
    Even (backslashes (before ++ cs)) := by
  induction h generalizing before with
  | nil => simpa using hbefore
  | @plain c cs _ _ hslash _ ih =>
    have hc : Even (backslashes (before ++ [c])) := by simp [backslashes_concat hslash]
    simpa using ih hc
  | @pair c cs _ _ ih => simpa using ih (even_backslashes_pair hbefore c)

theorem Escaped.odd_backslashes (h : Escaped body) (hbody : body = cs ++ '\"' :: rest)
    (hbefore : Even (backslashes before)) : Odd (backslashes (before ++ cs)) := by
  induction h generalizing before cs with
  | nil => simp at hbody
  | @plain c body _ hquote hslash _ ih =>
    cases cs with
    | nil => exact absurd (List.cons.inj hbody).1 hquote
    | cons d cs =>
      obtain ⟨rfl, htail⟩ := List.cons.inj hbody
      have hc : Even (backslashes (before ++ [c])) := by simp [backslashes_concat hslash]
      simpa using ih htail hc
  | @pair c body _ _ ih =>
    cases cs with
    | nil => simp at hbody
    | cons d cs =>
      obtain ⟨rfl, hpair⟩ := List.cons.inj hbody
      cases cs with
      | nil =>
        rw [backslashes_concat_slash]
        exact hbefore.add_one
      | cons e cs =>
        obtain ⟨rfl, htail⟩ := List.cons.inj hpair
        simpa using ih htail (even_backslashes_pair hbefore c)

-- ---------------------------------------------------------------------------
-- Whole literals
-- ---------------------------------------------------------------------------

theorem toList_text (s : String) :
    (text s).toList = '\"' :: s.toList.flatMap (Json.escapeChar true) ++ ['\"'] := by
  simp [text, Json.quote, Json.quoteChars]

theorem printable_text (s : String) : ∀ c ∈ (text s).toList, Printable c := by
  have hquote : Printable '\"' := by decide
  have hbody := (escaped_body s.toList).printable
  simpa [toList_text, or_imp, forall_and, hquote] using hbody

/-- A quote in a literal is escaped unless it is the first or the last character. -/
theorem even_backslashes_iff (h : (text s).toList = before ++ '\"' :: after) :
    Even (backslashes before) ↔ before = [] ∨ after = [] := by
  have hbody := escaped_body s.toList
  have hfirst : Even (backslashes ['\"']) := by decide
  rw [toList_text] at h
  cases before with
  | nil => simp [backslashes]
  | cons c before =>
    obtain ⟨rfl, hrest⟩ := List.cons.inj h
    rcases List.eq_nil_or_concat after with rfl | ⟨after, last, rfl⟩
    · obtain ⟨rfl, -⟩ := List.append_inj' hrest rfl
      simpa using hbody.even_backslashes hfirst
    · have hends : s.toList.flatMap (Json.escapeChar true) ++ ['\"'] =
          before ++ '\"' :: after ++ [last] := by
        simpa using hrest
      have hinner := (List.append_inj' hends rfl).1
      have hodd : Odd (backslashes ('\"' :: before)) := hbody.odd_backslashes hinner hfirst
      simpa using hodd

theorem escapeChar_ne_nil (ascii : Bool) (c : Char) : Json.escapeChar ascii c ≠ [] := by
  unfold Json.escapeChar
  iterate 8
    split
    · exact List.cons_ne_nil _ _
  split
  · unfold Json.codeEscape
    split
    · exact List.cons_ne_nil _ _
    · exact List.append_ne_nil_of_left_ne_nil (List.cons_ne_nil _ _) _
  · exact List.cons_ne_nil _ _

theorem length_le_body (cs : List Char) :
    cs.length ≤ (cs.flatMap (Json.escapeChar true)).length := by
  rw [List.length_flatMap]
  have hone : ∀ n ∈ cs.map fun c => (Json.escapeChar true c).length, 1 ≤ n := by
    simp [Nat.one_le_iff_ne_zero, escapeChar_ne_nil]
  simpa using List.length_le_sum_of_one_le _ hone

theorem readName?_quote (rest : List Char) : Json.readName? ('\"' :: rest) = none := by
  simp [Json.readName?, Json.names]

theorem readValue_text (room : Nat) (s : String) (hfuel : s.toList.length ≤ fuel)
    (rest : List Char) :
    Json.readValue room (fuel + 1) ((text s).toList ++ rest) = .ok (.str s, rest) := by
  have hstring : Json.readString (fuel + 1) []
      (s.toList.flatMap (Json.escapeChar true) ++ '\"' :: rest) = .ok (s, rest) := by
    rw [Json.readString_quoteChars true s.toList (Nat.lt_succ_of_le hfuel), List.reverse_nil,
      List.nil_append, String.ofList_toList]
  have hcode : (text s).toList ++ rest =
      '\"' :: (s.toList.flatMap (Json.escapeChar true) ++ '\"' :: rest) := by
    simp [toList_text]
  rw [hcode, Json.readValue, readName?_quote]
  simp only [hstring]
  rfl

theorem read_text (room : Nat) (s : String) : Json.read room (text s) = .ok (.str s) := by
  have hskip : Json.skipSpace (text s).toList = (text s).toList := by
    rw [toList_text]
    rfl
  have hfuel : s.toList.length ≤ 2 * (text s).toList.length + 1 := by
    have hlength := length_le_body s.toList
    rw [toList_text, List.length_append, List.length_cons]
    omega
  have hvalue := readValue_text room s hfuel []
  rw [List.append_nil] at hvalue
  simp only [Json.read, hskip, hvalue]
  rfl

theorem append_inj {s t x y : String} : text s ++ x = text t ++ y ↔ s = t ∧ x = y := by
  constructor
  · intro h
    have hchars : (text s).toList ++ x.toList = (text t).toList ++ y.toList := by
      rw [← String.toList_append, h, String.toList_append]
    obtain ⟨rfl, hrest⟩ := delimits_text trivial trivial hchars
    exact ⟨rfl, String.toList_inj.mp hrest⟩
  · rintro ⟨rfl, rfl⟩
    rfl

/-- The literal of any text is printable ASCII between quotes, and all other quotes in it are escaped.
It is read as that text, and it tells where it ends, whatever follows. -/
theorem text_self_contained (s : String) :
    (∃ body, (text s).toList = '\"' :: body ++ ['\"']) ∧
      (∀ c ∈ (text s).toList, 0x20 ≤ c.toNat ∧ c.toNat ≤ 0x7e) ∧
      (∀ before after, (text s).toList = before ++ '\"' :: after →
        (Odd (backslashes before) ↔ before ≠ [] ∧ after ≠ [])) ∧
      (∀ room, Json.read room (text s) = .ok (.str s)) ∧
      (∀ t, text s = text t ↔ s = t) ∧
      ∀ t x y, text s ++ x = text t ++ y ↔ s = t ∧ x = y := by
  refine ⟨⟨_, toList_text s⟩, printable_text s, fun before after h => ?_,
    fun room => read_text room s,
    fun t => ?_, fun _ _ _ => append_inj⟩
  · rw [← Nat.not_even_iff_odd, even_backslashes_iff h, not_or]
  · simpa using append_inj (s := s) (t := t) (x := "") (y := "")

/-- A backslash before a quote, a character beyond the sixteen-bit range, and a quote at the end. -/
theorem escaped_quote_self_contained :
    let s := "\\\"😀\""
    let before := "\"\\\\\\\"\\ud83d\\ude00\\".toList
    '0' ∈ (text s).toList ∧ 0x20 ≤ '0'.toNat ∧ '0'.toNat ≤ 0x7e ∧
      (text s).toList = before ++ '\"' :: ['\"'] ∧ Odd (backslashes before) := by
  intro s before
  have hdigit : '0' ∈ (text s).toList := by decide +kernel
  have htext : (text s).toList = before ++ '\"' :: ['\"'] := by decide +kernel
  obtain ⟨-, hascii, hquotes, -⟩ := text_self_contained s
  exact ⟨hdigit, (hascii _ hdigit).1, (hascii _ hdigit).2, htext,
    (hquotes _ _ htext).mpr ⟨by simp [before], by simp⟩⟩

end Farcall.Literal
