import Farcall.Proofs.Literals

/-!
# Texts in alphabets

An alphabet spells each text of code points in one way. In sixteen-bit units a character beyond the
range is the same as its two halves, so texts that hold halves may be the same text there, and no
others may. The literal of a text says its units and no more.
-/

namespace Farcall

-- ---------------------------------------------------------------------------
-- Code points
-- ---------------------------------------------------------------------------

/-- The code points of characters. -/
def IsScalar (n : Nat) : Prop :=
  n < 0xD800 ∨ 0xDFFF < n ∧ n < 0x110000

theorem toNat_ofNat (h : n.isValidChar) : (Char.ofNat n).toNat = n := by
  rw [Char.ofNat, dif_pos h]
  rfl

variable {ms ns : List Nat}

namespace Alphabet

@[reducible] def withHalves : Alphabet := ⟨some 0⟩

theorem code_of_lt [a : Alphabet] (h : c.toNat < 0xF0000) : code c = c.toNat := by
  unfold code
  split
  · rfl
  · rw [if_neg (by unfold first; omega)]

theorem le_code [a : Alphabet] (h : 0x80 ≤ c.toNat) : 0x80 ≤ code c := by
  unfold code
  split
  · exact h
  · split <;> omega

theorem code_lt [a : Alphabet] (c : Char) : code c < 0x110000 := by
  have hvalid := Json.valid_toNat c
  unfold code
  split
  · omega
  · split <;> omega

theorem code_injective [a : Alphabet] {c d : Char} (h : code c = code d) : c = d := by
  have hc := Json.valid_toNat c
  have hd := Json.valid_toNat d
  unfold code at h
  cases hblock : a.block? with
  | none =>
    simp only [hblock] at h
    exact Char.toNat_inj.mp h
  | some b =>
    simp only [hblock] at h
    refine Char.toNat_inj.mp ?_
    split at h <;> split at h <;> omega

theorem isScalar_code_iff [Alphabet] {c : Char} : IsScalar (code c) ↔ isHalf c = false := by
  have hmax := code_lt c
  rw [isHalf, Bool.and_eq_false_iff, decide_eq_false_iff_not, decide_eq_false_iff_not, IsScalar]
  omega

theorem code_half (b : Fin 64) (h : 0xD800 ≤ n ∧ n < 0xE000) :
    @code ⟨some b⟩ (@half ⟨some b⟩ n) = n := by
  have hb := b.isLt
  have hvalid : (first b + (n - 0xD800)).isValidChar := .inr (by unfold first; omega)
  simp only [code, half, toNat_ofNat hvalid]
  rw [if_pos (by omega)]
  omega

theorem exists_map_code (b : Fin 64) (hn : ∀ n ∈ ns, n < 0x110000)
    (hfree : ∀ n ∈ ns, n < first b ∨ first b + 0x800 ≤ n) :
    ∃ cs : List Char, cs.map (@code ⟨some b⟩) = ns := by
  induction ns with
  | nil => exact ⟨[], rfl⟩
  | cons n ns ih =>
    obtain ⟨hbound, hns⟩ := List.forall_mem_cons.mp hn
    obtain ⟨hclear, hfrees⟩ := List.forall_mem_cons.mp hfree
    obtain ⟨cs, rfl⟩ := ih hns hfrees
    by_cases hhalf : 0xD800 ≤ n ∧ n < 0xE000
    · exact ⟨@half ⟨some b⟩ n :: cs, by rw [List.map_cons, code_half b hhalf]⟩
    · have hvalid : n.isValidChar := by
        unfold Nat.isValidChar
        omega
      have houtside : ¬ (first b ≤ n ∧ n < first b + 0x800) := by omega
      refine ⟨Char.ofNat n :: cs, ?_⟩
      simp only [List.map_cons, code, toNat_ofNat hvalid, if_neg houtside]

/-- Every list of code points is spelled in the alphabet that avoids it, as long as there is a block
that none of them is in. -/
theorem exists_codes_avoiding (hn : ∀ n ∈ ns, n < 0x110000)
    (hroom : (avoiding ns).block?.isSome = true) : ∃ s, @Text.codes (avoiding ns) s = ns := by
  obtain ⟨b, hb⟩ := Option.isSome_iff_exists.mp hroom
  have hfree := List.find?_some hb
  simp only [List.all_eq_true, Bool.or_eq_true, decide_eq_true_eq] at hfree
  have halphabet : avoiding ns = ⟨some b⟩ := congrArg Alphabet.mk hb
  obtain ⟨cs, hcs⟩ := exists_map_code b hn hfree
  rw [halphabet]
  exact ⟨String.ofList cs, by simp only [Text.codes, String.toList_ofList, hcs]⟩

end Alphabet

-- ---------------------------------------------------------------------------
-- Sixteen-bit units
-- ---------------------------------------------------------------------------

namespace Text

/-- Texts without halves. -/
def Encodable [Alphabet] (s : String) : Prop :=
  ∀ n ∈ codes s, IsScalar n

theorem isEncodable_iff [Alphabet] {s : String} : isEncodable s = true ↔ Encodable s := by
  simp [isEncodable, Encodable, codes, Alphabet.isScalar_code_iff]

theorem encodable_plain (s : String) : Encodable s := by
  intro n hn
  obtain ⟨c, -, rfl⟩ := List.mem_map.mp hn
  exact Json.valid_toNat c

theorem Encodable.left [Alphabet] {s t : String} (h : Encodable (s ++ t)) : Encodable s := by
  simp only [Encodable, codes, String.toList_append, List.map_append, List.forall_mem_append] at h
  exact h.1

theorem codes_inj [Alphabet] {s t : String} : codes s = codes t ↔ s = t := by
  constructor
  · intro h
    exact String.toList_inj.mp ((List.map_inj_right fun _ _ => Alphabet.code_injective).mp h)
  · exact congrArg codes

theorem units_lt [Alphabet] {s : String} (h : u ∈ units s) : u < 0x10000 := by
  obtain ⟨n, hn, hu⟩ := List.mem_flatMap.mp h
  obtain ⟨c, -, rfl⟩ := List.mem_map.mp hn
  have hmax := Alphabet.code_lt c
  unfold codeUnits at hu
  split at hu
  · simp_all
  · simp only [List.mem_cons, List.not_mem_nil, or_false] at hu
    omega

theorem codeUnits_append_inj (hm : IsScalar m) (hn : IsScalar n)
    (h : codeUnits m ++ r = codeUnits n ++ r') : m = n ∧ r = r' := by
  unfold IsScalar at hm hn
  unfold codeUnits at h
  split at h <;> split at h <;>
    simp only [List.cons_append, List.nil_append, List.cons.injEq] at h
  · exact h
  · omega
  · omega
  · obtain ⟨hhigh, hlow, hrest⟩ := h
    exact ⟨by omega, hrest⟩

theorem codeUnits_ne_nil (n : Nat) : codeUnits n ≠ [] := by
  unfold codeUnits
  split <;> simp

theorem flatMap_codeUnits_inj (hm : ∀ m ∈ ms, IsScalar m) (hn : ∀ n ∈ ns, IsScalar n)
    (h : ms.flatMap codeUnits = ns.flatMap codeUnits) : ms = ns := by
  induction ms generalizing ns with
  | nil =>
    cases ns with
    | nil => rfl
    | cons n ns => simp [codeUnits_ne_nil] at h
  | cons m ms ih =>
    cases ns with
    | nil => simp [codeUnits_ne_nil] at h
    | cons n ns =>
      obtain ⟨hm, hms⟩ := List.forall_mem_cons.mp hm
      obtain ⟨hn, hns⟩ := List.forall_mem_cons.mp hn
      obtain ⟨rfl, hrest⟩ := codeUnits_append_inj hm hn h
      rw [ih hms hns hrest]

theorem units_inj [Alphabet] {s t : String} (hs : Encodable s) (ht : Encodable t) :
    units s = units t ↔ s = t := by
  constructor
  · exact fun h => codes_inj.mp (flatMap_codeUnits_inj hs ht h)
  · exact congrArg units

end Text

-- ---------------------------------------------------------------------------
-- Literals
-- ---------------------------------------------------------------------------

namespace Literal

def unitChars (u : Nat) : List Char :=
  if u < 0x80 then Json.escapeChar true (Char.ofNat u) else Json.unitEscape u

theorem escapeChar_of_lt [Alphabet] (h : c.toNat < 0x80) :
    Json.escapeChar true c = @Json.escapeChar Alphabet.plain true c := by
  have hcode : Alphabet.code c = c.toNat := Alphabet.code_of_lt (by omega)
  unfold Json.escapeChar
  rw [hcode, Alphabet.code_plain]

theorem escapeChar_of_le [Alphabet] (h : 0x80 ≤ c.toNat) :
    Json.escapeChar true c = Json.codeEscape (Alphabet.code c) := by
  have hne {d : Char} (hd : d.toNat < 0x80) : c ≠ d := by
    rintro rfl
    omega
  unfold Json.escapeChar
  iterate 7 rw [if_neg (hne (by decide))]
  rw [if_neg (by omega), if_pos (by simp; omega)]

theorem escapeChar_eq [Alphabet] (c : Char) :
    Json.escapeChar true c = (Text.codeUnits (Alphabet.code c)).flatMap unitChars := by
  by_cases hascii : c.toNat < 0x80
  · have hcode : Alphabet.code c = c.toNat := Alphabet.code_of_lt (by omega)
    rw [escapeChar_of_lt hascii, hcode, Text.codeUnits, if_pos (by omega), List.flatMap_singleton,
      unitChars, if_pos hascii, Char.ofNat_toNat]
  · have hcode : 0x80 ≤ Alphabet.code c := Alphabet.le_code (by omega)
    rw [escapeChar_of_le (by omega), Json.codeEscape, Text.codeUnits]
    split
    · rw [List.flatMap_singleton, unitChars, if_neg (by omega)]
    · simp only [List.flatMap_cons, List.flatMap_nil, List.append_nil, unitChars]
      rw [if_neg (by omega), if_neg (by omega)]

def readUnit? : List Char → Option (Nat × List Char)
  | '\\' :: 'u' :: rest => Json.fourDigits? rest
  | '\\' :: e :: rest => (Json.shortEscape? e).map fun c => (c.toNat, rest)
  | c :: rest => some (c.toNat, rest)
  | [] => none

theorem readUnit?_unitChars (hu : u < 0x10000) (rest : List Char) :
    readUnit? (unitChars u ++ rest) = some (u, rest) := by
  have hescape : readUnit? (Json.unitEscape u ++ rest) = some (u, rest) := Json.fourDigits?_hex hu rest
  unfold unitChars
  split
  · rename_i hascii
    have hchar : (Char.ofNat u).toNat = u := toNat_ofNat (.inl (by omega))
    generalize Char.ofNat u = c at hchar
    subst hchar
    unfold Json.escapeChar
    iterate 7
      split
      · subst_vars
        rfl
    split
    · exact hescape
    · split
      · rw [Alphabet.code_plain, Json.codeEscape, if_pos hu]
        exact hescape
      · simp_all [readUnit?]
  · exact hescape

theorem unitChars_append_inj (hu : u < 0x10000) (hv : v < 0x10000)
    (h : unitChars u ++ r = unitChars v ++ r') : u = v ∧ r = r' := by
  have hread := congrArg readUnit? h
  rw [readUnit?_unitChars hu, readUnit?_unitChars hv] at hread
  exact Prod.mk.inj (Option.some.inj hread)

theorem unitChars_ne_quote (hu : u < 0x10000) : unitChars u ++ r ≠ '\"' :: r' := by
  intro h
  have hread := congrArg readUnit? h
  rw [readUnit?_unitChars hu] at hread
  obtain ⟨rfl, -⟩ := Prod.mk.inj (Option.some.inj hread)
  cases h

theorem flatMap_unitChars_inj {us vs : List Nat} (hu : ∀ u ∈ us, u < 0x10000)
    (hv : ∀ v ∈ vs, v < 0x10000)
    (h : us.flatMap unitChars ++ '\"' :: r = vs.flatMap unitChars ++ '\"' :: r') :
    us = vs ∧ r = r' := by
  induction us generalizing vs with
  | nil =>
    cases vs with
    | nil => exact ⟨rfl, (List.cons.inj h).2⟩
    | cons v vs =>
      rw [List.flatMap_cons, List.append_assoc] at h
      exact absurd h.symm (unitChars_ne_quote (hv v List.mem_cons_self))
  | cons u us ih =>
    cases vs with
    | nil =>
      rw [List.flatMap_cons, List.append_assoc] at h
      exact absurd h (unitChars_ne_quote (hu u List.mem_cons_self))
    | cons v vs =>
      obtain ⟨hu, hus⟩ := List.forall_mem_cons.mp hu
      obtain ⟨hv, hvs⟩ := List.forall_mem_cons.mp hv
      simp only [List.flatMap_cons, List.append_assoc] at h
      obtain ⟨rfl, hrest⟩ := unitChars_append_inj hu hv h
      obtain ⟨rfl, hend⟩ := ih hus hvs hrest
      exact ⟨rfl, hend⟩

theorem text_eq_units [Alphabet] (s : String) :
    (text s).toList = '\"' :: ((Text.units s).flatMap unitChars ++ ['\"']) := by
  have hbody : s.toList.flatMap (Json.escapeChar true) = (Text.units s).flatMap unitChars := by
    rw [Text.units, Text.codes, List.flatMap_assoc, List.flatMap_map]
    exact congrArg (s.toList.flatMap ·) (funext escapeChar_eq)
  rw [text, Json.quote, Json.quoteChars, String.toList_ofList, hbody, List.cons_append]

/-- A literal tells where it ends and which units the text has, and no more. -/
theorem text_append_inj [Alphabet] {s t : String} :
    (text s).toList ++ r = (text t).toList ++ r' ↔ Text.units s = Text.units t ∧ r = r' := by
  simp only [text_eq_units, List.cons_append, List.append_assoc, List.nil_append, List.cons.injEq,
    true_and]
  constructor
  · exact flatMap_unitChars_inj (fun _ => Text.units_lt) fun _ => Text.units_lt
  · rintro ⟨hunits, rfl⟩
    rw [hunits]

theorem tells_text [Alphabet] : Tells (fun _ => True) Text.units fun s => (text s).toList :=
  fun _ _ _ _ _ _ h => text_append_inj.mp h

def memberUnits [Alphabet] : String × Int → List Nat × Int :=
  Prod.map Text.units id

theorem tells_entry [Alphabet] : Tells (BeginsOutside ofInteger) memberUnits entry := by
  have hlabel : Tells (fun _ => True) Text.units fun s => (text s).toList ++ [':', ' '] :=
    tells_text.append [':', ' '] fun _ _ => trivial
  have hpair := hlabel.pair (delimits_integer.tells id) fun _ _ _ => trivial
  unfold entry memberUnits
  exact hpair

theorem tells_members [Alphabet] : Tells (fun _ => True) (List.map memberUnits)
    fun ms => (members ms).toList := by
  have hlast (r : List Char) : BeginsOutside ofInteger (['\x7d'] ++ r) := by
    simp [BeginsOutside, ofInteger]
  have hbetween (r : List Char) : BeginsOutside ofInteger ([',', ' '] ++ r) := by
    simp [BeginsOutside, ofInteger]
  have hbegin (m : String × Int) (r r' : List Char) : entry m ++ r ≠ ['\x7d'] ++ r' := by
    intro h
    have hhead := congrArg List.head? h
    rw [entry, List.append_assoc, List.append_assoc, head?_text] at hhead
    cases hhead
  have hnext (r r' : List Char) : [',', ' '] ++ r ≠ ['\x7d'] ++ r' := by
    simp
  have hentries := (tells_entry.separated hlast hbetween hbegin hnext).cons_append ['\x7b']
  simpa only [toList_members] using hentries

end Literal

end Farcall
