import Farcall.Emission.Literal
import Farcall.Json.Reader
import Farcall.Proofs.Success

/-!
# Literals end by themselves

A text between quotes is read back as what it was, up to its closing quote. So no literal of a text
begins the literal of another one, and the same holds of what is put together from literals. Texts are
made of characters here; what holds of them in an alphabet with halves is shown in `Alphabets`.
-/

namespace Farcall

-- ---------------------------------------------------------------------------
-- Escapes
-- ---------------------------------------------------------------------------

namespace Json

theorem hexValue?_hexDigit : ∀ n < 16, hexValue? (Text.hexDigit n) = some n := by
  decide

theorem fourDigits?_hex (h : n < 0x10000) (rest : List Char) :
    fourDigits? (Text.hex 4 n ++ rest) = some (n, rest) := by
  have hdigit (k : Nat) : hexValue? (Text.hexDigit (k % 16)) = some (k % 16) :=
    hexValue?_hexDigit _ (Nat.mod_lt _ (by decide))
  simp only [Text.hex, List.nil_append, List.cons_append, fourDigits?, hdigit, Option.bind_eq_bind,
    Option.bind_some, Option.pure_def, Option.some.injEq, Prod.mk.injEq, and_true]
  omega

/-- A code point outside the range that is set aside for halves is read as it is. -/
theorem readString_unitEscape (hn : n < 0x10000) (hhalf : n < 0xD800 ∨ 0xDFFF < n) (fuel : Nat)
    (acc rest : List Char) : readString (fuel + 1) acc (unitEscape n ++ rest) =
      readString fuel (Char.ofNat n :: acc) rest := by
  have hhigh : ¬ (0xD800 ≤ n ∧ n < 0xDC00) := by omega
  have hlow : ¬ (0xDC00 ≤ n ∧ n < 0xE000) := by omega
  rw [unitEscape, List.cons_append, List.cons_append, readString]
  simp only [fourDigits?_hex hn, if_neg hhigh, if_neg hlow]
  rfl

theorem readString_codeEscape (hn : 0x10000 ≤ n) (hmax : n < 0x110000) (fuel : Nat)
    (acc rest : List Char) : readString (fuel + 1) acc (codeEscape n ++ rest) =
      readString fuel (Char.ofNat n :: acc) rest := by
  obtain ⟨u, hu⟩ : ∃ u, u = 0xD800 + (n - 0x10000) / 0x400 := ⟨_, rfl⟩
  obtain ⟨v, hv⟩ : ∃ v, v = 0xDC00 + (n - 0x10000) % 0x400 := ⟨_, rfl⟩
  have hhigh : 0xD800 ≤ u ∧ u < 0xDC00 := by omega
  have hlow : 0xDC00 ≤ v ∧ v < 0xE000 := by omega
  have hvalue : 0x10000 + (u - 0xD800) * 0x400 + (v - 0xDC00) = n := by omega
  have hfirst := fourDigits?_hex (show u < 0x10000 by omega)
  have hsecond := fourDigits?_hex (show v < 0x10000 by omega)
  rw [codeEscape, if_neg (by omega), ← hu, ← hv, unitEscape, unitEscape, List.append_assoc,
    List.cons_append, List.cons_append, readString]
  simp only [List.cons_append, hfirst, hsecond, if_pos hhigh, if_pos hlow, hvalue]
  rfl

theorem valid_toNat (c : Char) : c.toNat < 0xD800 ∨ 0xDFFF < c.toNat ∧ c.toNat < 0x110000 :=
  c.valid

theorem readString_plain (hquote : c ≠ '\"') (hslash : c ≠ '\\') (hcontrol : 0x20 ≤ c.toNat)
    (fuel : Nat) (acc rest : List Char) :
    readString (fuel + 1) acc (c :: rest) = readString fuel (c :: acc) rest := by
  have hcontrol : ¬ c.toNat < 0x20 := by omega
  rw [readString.eq_def]
  simp [hquote, hslash, hcontrol]

theorem readString_escapeChar (ascii : Bool) (c : Char) (fuel : Nat) (acc rest : List Char) :
    readString (fuel + 1) acc (escapeChar ascii c ++ rest) = readString fuel (c :: acc) rest := by
  have hvalid := valid_toNat c
  have hself : Char.ofNat c.toNat = c := Char.ofNat_toNat c
  unfold escapeChar
  rw [Alphabet.code_plain]
  iterate 7
    split
    · subst_vars
      rfl
  split
  · have hread := readString_unitEscape (n := c.toNat) (by omega) (by omega) fuel acc rest
    rwa [hself] at hread
  · split
    · by_cases hwide : c.toNat < 0x10000
      · have hread := readString_unitEscape hwide (by omega) fuel acc rest
        rw [hself] at hread
        rwa [codeEscape, if_pos hwide]
      · have hread := readString_codeEscape (n := c.toNat) (by omega) (by omega) fuel acc rest
        rwa [hself] at hread
    · exact readString_plain ‹_› ‹_› (by omega) fuel acc rest

/-- A text between quotes is read as that text, and what follows it is left. -/
theorem readString_quoteChars (ascii : Bool) (cs : List Char) (hfuel : cs.length < fuel)
    (acc rest : List Char) :
    readString fuel acc (cs.flatMap (escapeChar ascii) ++ '\"' :: rest) =
      .ok (String.ofList (acc.reverse ++ cs), rest) := by
  induction cs generalizing fuel acc with
  | nil =>
    obtain ⟨fuel, rfl⟩ := Nat.exists_eq_add_one_of_ne_zero (Nat.ne_of_gt hfuel)
    simp [readString]
  | cons c cs ih =>
    obtain ⟨fuel, rfl⟩ := Nat.exists_eq_add_one_of_ne_zero (Nat.ne_of_gt (Nat.zero_lt_of_lt hfuel))
    rw [List.flatMap_cons, List.append_assoc, readString_escapeChar,
      ih (by simpa using hfuel) (c :: acc)]
    simp

theorem writeInt_ok : writeInt n = .ok text ↔
    n.natAbs.repr.length ≤ digitLimit ∧ text = toString n := by
  unfold writeInt
  split
  · rename_i hshort
    simp [hshort, eq_comm]
  · rename_i hlong
    simp [hlong]

end Json

-- ---------------------------------------------------------------------------
-- Codes that end by themselves
-- ---------------------------------------------------------------------------

/-- No code is the beginning of another one, as long as what follows them is fit to. -/
def Delimits (fit : List β → Prop) (f : α → List β) : Prop :=
  ∀ ⦃a b r r'⦄, fit r → fit r' → f a ++ r = f b ++ r' → a = b ∧ r = r'

/-- Codes that say something, `g`, about what they stand for, and where they end. -/
def Tells (fit : List β → Prop) (g : α → γ) (f : α → List β) : Prop :=
  ∀ ⦃a b r r'⦄, fit r → fit r' → f a ++ r = f b ++ r' → g a = g b ∧ r = r'

namespace Delimits

variable {fit : List β → Prop} {f : α → List β}

theorem comp {g : γ → α} (hf : Delimits fit f) (hg : ∀ ⦃x y⦄, g x = g y → x = y) :
    Delimits fit fun x => f (g x) := by
  intro x y r r' hr hr' h
  obtain ⟨hxy, hrest⟩ := hf hr hr' h
  exact ⟨hg hxy, hrest⟩

theorem tells (hf : Delimits fit f) (g : α → γ) : Tells fit g f := by
  intro a b r r' hr hr' h
  obtain ⟨rfl, hrest⟩ := hf hr hr' h
  exact ⟨rfl, hrest⟩

theorem intercalate_map_cons (between : List β) (f : α → List β) (x : α) (xs : List α) :
    between.intercalate ((x :: xs).map f) = f x ++ xs.flatMap fun a => between ++ f a := by
  induction xs generalizing x with
  | nil => simp
  | cons y ys ih =>
    rw [List.map_cons, List.intercalate_cons_of_ne_nil (by simp), ih, List.flatMap_cons]
    simp

end Delimits

namespace Tells

variable {fit : List β → Prop} {g : α → γ} {f : α → List β}

theorem cons_append (hf : Tells fit g f) (before : List β) :
    Tells fit g fun a => before ++ f a := by
  intro a b r r' hr hr' h
  simp only [List.append_assoc, List.append_cancel_left_eq] at h
  exact hf hr hr' h

theorem append {fit' : List β → Prop} (hf : Tells fit g f) (last : List β)
    (hlast : ∀ r, fit' r → fit (last ++ r)) : Tells fit' g fun a => f a ++ last := by
  intro a b r r' hr hr' h
  simp only [List.append_assoc] at h
  obtain ⟨hsame, hrest⟩ := hf (hlast r hr) (hlast r' hr') h
  exact ⟨hsame, List.append_cancel_left hrest⟩

theorem pair {fit' : List β → Prop} {g' : α' → γ'} {f' : α' → List β} (hf : Tells fit g f)
    (hf' : Tells fit' g' f') (hfit : ∀ x r, fit' r → fit (f' x ++ r)) :
    Tells fit' (Prod.map g g') fun p : α × α' => f p.1 ++ f' p.2 := by
  rintro ⟨a, x⟩ ⟨b, y⟩ r r' hr hr' h
  simp only [List.append_assoc] at h
  obtain ⟨hfirst, hmore⟩ := hf (hfit x r hr) (hfit y r' hr') h
  obtain ⟨hsecond, hrest⟩ := hf' hr hr' hmore
  exact ⟨Prod.ext hfirst hsecond, hrest⟩

theorem fit_flatMap (last : List β) (hlast : ∀ r, fit (last ++ r)) (hfit : ∀ a r, fit (f a ++ r))
    (xs : List α) (r : List β) : fit (xs.flatMap f ++ (last ++ r)) := by
  cases xs with
  | nil => exact hlast r
  | cons x xs =>
    rw [List.flatMap_cons, List.append_assoc]
    exact hfit x _

/-- Any number of codes up to an end that none of them begins like. -/
theorem many (hf : Tells fit g f) {last : List β} (hlast : ∀ r, fit (last ++ r))
    (hfit : ∀ a r, fit (f a ++ r)) (hbegin : ∀ a r r', f a ++ r ≠ last ++ r') :
    Tells (fun _ => True) (List.map g) fun xs : List α => xs.flatMap f ++ last := by
  intro xs ys r r' _ _ h
  simp only [List.append_assoc] at h
  induction xs generalizing ys with
  | nil =>
    cases ys with
    | nil => exact ⟨rfl, List.append_cancel_left h⟩
    | cons y ys =>
      rw [List.flatMap_nil, List.nil_append, List.flatMap_cons, List.append_assoc] at h
      exact absurd h.symm (hbegin y _ _)
  | cons x xs ih =>
    cases ys with
    | nil =>
      rw [List.flatMap_nil, List.nil_append, List.flatMap_cons, List.append_assoc] at h
      exact absurd h (hbegin x _ _)
    | cons y ys =>
      simp only [List.flatMap_cons, List.append_assoc] at h
      obtain ⟨hfirst, htail⟩ := hf (fit_flatMap last hlast hfit xs r)
        (fit_flatMap last hlast hfit ys r') h
      obtain ⟨hothers, hend⟩ := ih htail
      exact ⟨by rw [List.map_cons, List.map_cons, hfirst, hothers], hend⟩

/-- Codes with something fixed between two of them, up to an end that tells itself from both. -/
theorem separated (hf : Tells fit g f) {between last : List β}
    (hlast : ∀ r, fit (last ++ r)) (hbetween : ∀ r, fit (between ++ r))
    (hbegin : ∀ a r r', f a ++ r ≠ last ++ r') (hnext : ∀ r r', between ++ r ≠ last ++ r') :
    Tells (fun _ => True) (List.map g) fun xs : List α =>
      between.intercalate (xs.map f) ++ last := by
  have hmany : Tells (fun _ => True) (List.map g) fun xs : List α =>
      xs.flatMap (fun a => between ++ f a) ++ last := (hf.cons_append between).many hlast
    (fun a r => by
      rw [List.append_assoc]
      exact hbetween _)
    (fun a r r' => by
      rw [List.append_assoc]
      exact hnext _ _)
  intro xs ys r r' hr hr' h
  dsimp only at h
  cases xs with
  | nil =>
    cases ys with
    | nil => exact ⟨rfl, List.append_cancel_left h⟩
    | cons y ys =>
      rw [Delimits.intercalate_map_cons, List.map_nil, List.intercalate_nil, List.nil_append,
        List.append_assoc, List.append_assoc] at h
      exact absurd h.symm (hbegin y _ _)
  | cons x xs =>
    cases ys with
    | nil =>
      rw [Delimits.intercalate_map_cons, List.map_nil, List.intercalate_nil, List.nil_append,
        List.append_assoc, List.append_assoc] at h
      exact absurd h (hbegin x _ _)
    | cons y ys =>
      rw [Delimits.intercalate_map_cons, Delimits.intercalate_map_cons] at h
      simp only [List.append_assoc] at h
      have hfit (zs : List α) (q : List β) :
          fit (zs.flatMap (fun a => between ++ f a) ++ (last ++ q)) :=
        fit_flatMap last hlast (fun a r => by
          rw [List.append_assoc]
          exact hbetween _) zs q
      obtain ⟨hfirst, htail⟩ := hf (hfit xs r) (hfit ys r') h
      obtain ⟨hothers, hrest⟩ := hmany hr hr' (by simpa using htail)
      exact ⟨by rw [List.map_cons, List.map_cons, hfirst, hothers], hrest⟩

end Tells

-- ---------------------------------------------------------------------------
-- Runs of characters
-- ---------------------------------------------------------------------------

def BeginsOutside (p : Char → Bool) (cs : List Char) : Prop :=
  ∀ c, cs.head? = some c → p c = false

theorem delimits_run {p : Char → Bool} {f : α → List Char} (hf : ∀ a, ∀ c ∈ f a, p c = true)
    (hinj : ∀ ⦃a b⦄, f a = f b → a = b) : Delimits (BeginsOutside p) f := by
  have hrun (a : α) {r : List Char} (hr : BeginsOutside p r) : (f a ++ r).takeWhile p = f a := by
    rw [List.takeWhile_append_of_pos (hf a)]
    cases r with
    | nil => simp
    | cons c r => simp [hr c rfl]
  intro a b r r' hr hr' h
  have hcode : f a = f b := by
    rw [← hrun a hr, h, hrun b hr']
  obtain rfl := hinj hcode
  exact ⟨rfl, List.append_cancel_left h⟩

theorem delimits_until (c : Char) : Delimits (BeginsOutside (· != c))
    fun s : { s : String // c ∉ s.toList } => s.1.toList := by
  refine delimits_run (fun s d hd => bne_iff_ne.mpr ?_) fun _ _ h =>
    Subtype.ext (String.toList_inj.mp h)
  rintro rfl
  exact s.2 hd

namespace Literal

def ofInteger (c : Char) : Bool :=
  c.isDigit || c == '-'

theorem isDigit_of_mem_repr (n : Nat) : ∀ c ∈ n.repr.toList, c.isDigit = true := by
  intro c hc
  rw [Nat.toList_repr] at hc
  exact Nat.isDigit_of_mem_toDigits (by decide) (by decide) hc

theorem repr_nat_inj (h : Nat.repr m = Nat.repr n) : m = n := by
  have hvalue (k : Nat) : Nat.ofDigitChars 10 k.repr.toList 0 = k := by
    rw [Nat.toList_repr, Nat.ofDigitChars_toDigits (by decide) (by decide)]
  rw [← hvalue m, h, hvalue n]

/-- The text of an integer: its digits, after a sign if it is negative. -/
theorem toList_integer (n : Int) : (toString n).toList =
    if 0 ≤ n then n.toNat.repr.toList else '-' :: (-n).toNat.repr.toList := by
  rw [Int.toString_eq_repr, Int.repr_eq_if]
  split <;> simp

theorem ofInteger_of_mem (n : Int) : ∀ c ∈ (toString n).toList, ofInteger c = true := by
  intro c hc
  rw [toList_integer] at hc
  split at hc
  · simp [ofInteger, isDigit_of_mem_repr _ c hc]
  · rcases List.mem_cons.mp hc with rfl | hc
    · rfl
    · simp [ofInteger, isDigit_of_mem_repr _ c hc]

theorem repr_ne_sign (n : Nat) (cs : List Char) : n.repr.toList ≠ '-' :: cs := by
  intro h
  have hdigit := isDigit_of_mem_repr n '-' (by simp [h])
  cases hdigit

theorem integer_inj {m n : Int} (h : (toString m).toList = (toString n).toList) : m = n := by
  rw [toList_integer, toList_integer] at h
  split at h
  · split at h
    · have hnat := repr_nat_inj (String.toList_inj.mp h)
      omega
    · exact absurd h (repr_ne_sign _ _)
  · split at h
    · exact absurd h.symm (repr_ne_sign _ _)
    · have hnat := repr_nat_inj (String.toList_inj.mp (List.cons.inj h).2)
      omega

theorem delimits_integer :
    Delimits (BeginsOutside ofInteger) fun n : Int => (toString n).toList :=
  delimits_run ofInteger_of_mem fun _ _ => integer_inj

theorem delimits_quoteChars (ascii : Bool) :
    Delimits (fun _ => True) (Json.quoteChars ascii) := by
  intro cs ds r r' _ _ h
  have hbody : cs.flatMap (Json.escapeChar ascii) ++ '\"' :: r =
      ds.flatMap (Json.escapeChar ascii) ++ '\"' :: r' := by
    simpa [Json.quoteChars] using h
  have hleft := Json.readString_quoteChars ascii cs
    (show cs.length < cs.length + ds.length + 1 by omega) [] r
  have hright := Json.readString_quoteChars ascii ds
    (show ds.length < cs.length + ds.length + 1 by omega) [] r'
  rw [hbody, hright] at hleft
  obtain ⟨hcs, hrest⟩ := Prod.mk.inj (Except.ok.inj hleft)
  exact ⟨(String.ofList_injective hcs).symm, hrest.symm⟩

theorem delimits_text : Delimits (fun _ => True) fun s : String => (text s).toList := by
  have hquote := (delimits_quoteChars true).comp fun s t : String => String.toList_inj.mp
  simpa [text, Json.quote] using hquote

theorem checkValues_ok : checkValues ms = .ok u ↔
    ∀ m ∈ ms, m.2.natAbs.repr.length ≤ Json.digitLimit := by
  induction ms with
  | nil => simp [checkValues]
  | cons m ms ih =>
    simp only [checkValues, bind_ok, mapError_ok, Json.writeInt_ok, ih, List.forall_mem_cons]
    constructor
    · rintro ⟨_, ⟨hshort, -⟩, hms⟩
      exact ⟨hshort, hms⟩
    · rintro ⟨hshort, hms⟩
      exact ⟨_, ⟨hshort, rfl⟩, hms⟩

def entry [Alphabet] (m : String × Int) : List Char :=
  ((text m.1).toList ++ [':', ' ']) ++ (toString m.2).toList

theorem toList_members [Alphabet] (ms : List (String × Int)) :
    (members ms).toList = ['\x7b'] ++ ([',', ' '].intercalate (ms.map entry) ++ ['\x7d']) := by
  have hentry : entry = fun m => (text m.1).toList ++ ':' :: ' ' :: m.2.repr.toList := by
    funext m
    simp [entry]
  rw [hentry]
  simp [members, mapping, Function.comp_def]

theorem head?_text [Alphabet] (s : String) (r : List Char) :
    ((text s).toList ++ r).head? = some '\"' := by
  simp [text, Json.quote, Json.quoteChars]

end Literal

end Farcall
