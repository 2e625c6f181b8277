import Farcall.Proofs.LiteralTexts
import Farcall.Proofs.Success

/-!
# Limits of reading JSON

More room for lists and mappings within each other changes no value that is read. An object whose
first value is an integer of more digits than are read is not read, whatever comes behind it.
-/

namespace Farcall

-- ---------------------------------------------------------------------------
-- Bytes
-- ---------------------------------------------------------------------------

namespace Text

def ascii (s : String) : List UInt8 :=
  s.toList.map fun c => UInt8.ofNat c.toNat

theorem utf8EncodeChar_of_lt (h : c.toNat < 0x80) :
    String.utf8EncodeChar c = [UInt8.ofNat c.toNat] := by
  have hsize : c.utf8Size = 1 :=
    Char.utf8Size_eq_one_iff.mpr (UInt32.le_iff_toNat_le.mpr (Nat.le_of_lt_succ h))
  rw [String.utf8EncodeChar_eq_singleton hsize]
  rfl

theorem utf8?_ascii (h : ∀ c ∈ s.toList, c.toNat < 0x80) : utf8? (ascii s) = some s := by
  have hchars : s.toList.flatMap String.utf8EncodeChar = ascii s := by
    rw [List.flatMap_congr fun c hc => utf8EncodeChar_of_lt (h c hc), ascii, List.map_eq_flatMap]
  have hbytes : (⟨(ascii s).toArray⟩ : ByteArray) = s.toByteArray := by
    rw [← String.utf8Encode_toList, List.utf8Encode, hchars]
    exact ByteArray.ext (Array.ext' List.toList_data_toByteArray.symm)
  rw [utf8?, hbytes, String.fromUTF8?, dif_pos s.isValidUTF8]
  rfl

theorem replaceHalves_eq_self (h : ∀ b ∈ bytes, b ≠ 0xed) : replaceHalves bytes = bytes := by
  induction bytes with
  | nil => rfl
  | cons b bytes ih =>
    obtain ⟨hb, hbytes⟩ := List.forall_mem_cons.mp h
    rw [replaceHalves, ih hbytes]
    exact fun _ _ _ hb' _ => hb hb'

theorem lenientUtf8?_ascii (h : ∀ c ∈ s.toList, c.toNat < 0x80) :
    lenientUtf8? (ascii s) = some s := by
  rw [lenientUtf8?, replaceHalves_eq_self, utf8?_ascii h]
  rintro b hb rfl
  obtain ⟨c, hc, hbyte⟩ := List.mem_map.mp hb
  have hc := h c hc
  have hvalue := congrArg UInt8.toNat hbyte
  simp only [UInt8.toNat_ofNat', UInt8.reduceToNat] at hvalue
  omega

end Text

namespace Json

theorem decode?_object (h : ∀ c ∈ s.toList, c.toNat < 0x80) (hs : s.toList = '\x7b' :: '\"' :: cs) :
    decode? (Text.ascii s) = some s := by
  have hbytes : Text.ascii s = 0x7b :: 0x22 :: cs.map fun c => UInt8.ofNat c.toNat := by
    rw [Text.ascii, hs]
    rfl
  have hdecode : decode? (Text.ascii s) = Text.lenientUtf8? (Text.ascii s) := by
    rw [hbytes]
    generalize cs.map _ = bytes
    rcases bytes with _ | ⟨_, _ | _⟩ <;> rfl
  rw [hdecode, Text.lenientUtf8?_ascii h]

def isObject (p : List (Value × Value) → Bool) : Except Unreadable Value → Bool
  | .ok (.map r) => p r
  | _ => false

theorem object_of_isObject (h : isObject p x) : ∃ r, x = .ok (.map r) ∧ p r := by
  unfold isObject at h
  split at h
  · exact ⟨_, rfl, h⟩
  · cases h

-- ---------------------------------------------------------------------------
-- Room
-- ---------------------------------------------------------------------------

/-- What is read with some room is read with more. -/
structure Roomy (fuel : Nat) : Prop where
  value : readValue room fuel cs = .ok x → readValue (room + 1) fuel cs = .ok x
  items : readItems room fuel acc cs = .ok x → readItems (room + 1) fuel acc cs = .ok x
  entries : readEntries room fuel acc' cs = .ok x → readEntries (room + 1) fuel acc' cs = .ok x

namespace Roomy

theorem readValue (hf : Roomy fuel) (h : Json.readValue room (fuel + 1) cs = .ok x) :
    Json.readValue (room + 1) (fuel + 1) cs = .ok x := by
  unfold Json.readValue at h ⊢
  split <;> rename_i hname <;> simp only [hname] at h
  · exact h
  · split <;> simp only at h
    · exact h
    · obtain _ | room := room
      · cases h
      rw [if_neg (Nat.succ_ne_zero _)] at h ⊢
      split <;> rename_i hskip <;> simp only [hskip] at h
      · exact h
      · exact hf.items h
    · obtain _ | room := room
      · cases h
      rw [if_neg (Nat.succ_ne_zero _)] at h ⊢
      split <;> rename_i hskip <;> simp only [hskip] at h
      · exact h
      · exact hf.entries h
    · exact h

theorem readItems (hf : Roomy fuel) (h : Json.readItems room (fuel + 1) acc cs = .ok x) :
    Json.readItems (room + 1) (fuel + 1) acc cs = .ok x := by
  unfold Json.readItems at h ⊢
  obtain ⟨⟨v, rest⟩, hv, h⟩ := bind_ok.mp h
  refine bind_ok.mpr ⟨(v, rest), hf.value hv, ?_⟩
  simp only at h ⊢
  split <;> rename_i hskip <;> simp only [hskip] at h
  · exact hf.items h
  · exact h
  · exact h

theorem readEntries (hf : Roomy fuel) (h : Json.readEntries room (fuel + 1) acc cs = .ok x) :
    Json.readEntries (room + 1) (fuel + 1) acc cs = .ok x := by
  unfold Json.readEntries at h ⊢
  split <;> simp only at h
  · obtain ⟨⟨key, rest⟩, hkey, h⟩ := bind_ok.mp h
    refine bind_ok.mpr ⟨(key, rest), hkey, ?_⟩
    simp only at h ⊢
    split <;> rename_i hskip <;> simp only [hskip] at h
    · obtain ⟨⟨v, rest⟩, hv, h⟩ := bind_ok.mp h
      refine bind_ok.mpr ⟨(v, rest), hf.value hv, ?_⟩
      simp only at h ⊢
      split <;> rename_i hskip <;> simp only [hskip] at h
      · exact hf.entries h
      · exact h
      · exact h
    · exact h
  · exact h

end Roomy

theorem roomy (fuel : Nat) : Roomy fuel := by
  induction fuel with
  | zero =>
    constructor <;> intros <;> simp_all [readValue, readItems, readEntries]
  | succ fuel ih => exact ⟨ih.readValue, ih.readItems, ih.readEntries⟩

theorem read_succ (h : read room s = .ok v) : read (room + 1) s = .ok v := by
  obtain ⟨⟨v', rest⟩, hv, h⟩ := bind_ok.mp h
  exact bind_ok.mpr ⟨(v', rest), (roomy _).value hv, h⟩

theorem readBytes_succ (h : readBytes room bytes = .ok v) : readBytes (room + 1) bytes = .ok v := by
  unfold readBytes at h ⊢
  split <;> rename_i hdecode <;> simp only [hdecode] at h
  · cases h
  · exact read_succ h

-- ---------------------------------------------------------------------------
-- Long integers
-- ---------------------------------------------------------------------------

theorem isDigit_of_mem_replicate : ∀ c ∈ List.replicate n '0', c.isDigit := fun c hc => by
  rw [List.eq_of_mem_replicate hc]
  rfl

theorem readNumber_tooLong (hlong : digitLimit ≤ n) (rest : List Char) :
    readNumber ('1' :: (List.replicate n '0' ++ ',' :: rest)) = .error .tooLong := by
  have htake : (List.replicate n '0' ++ ',' :: rest).takeWhile Char.isDigit =
      List.replicate n '0' := by
    rw [List.takeWhile_append_of_pos isDigit_of_mem_replicate]
    simp
  have hlong' : digitLimit < n + 1 := Nat.lt_succ_of_le hlong
  simp [readNumber, htake, hlong', readFraction, readExponent]

theorem readValue_tooLong (room fuel : Nat) (hlong : digitLimit ≤ n) (rest : List Char) :
    readValue room (fuel + 1) ('1' :: (List.replicate n '0' ++ ',' :: rest)) =
      .error .tooLong := by
  have hname : readName? ('1' :: (List.replicate n '0' ++ ',' :: rest)) = none := by
    simp [readName?, names]
  simp [readValue, hname, readNumber_tooLong hlong]

theorem readEntries_tooLong (room : Nat) (key : String) (hfuel : key.toList.length ≤ fuel)
    (hlong : digitLimit ≤ n) (rest : List Char) :
    readEntries room (fuel + 2) [] ('\"' :: (key.toList.flatMap (escapeChar true) ++
      '\"' :: ':' :: '1' :: (List.replicate n '0' ++ ',' :: rest))) = .error .tooLong := by
  generalize hcs : '1' :: (List.replicate n '0' ++ ',' :: rest) = cs
  have hkey := readString_quoteChars true key.toList (Nat.lt_succ_of_le hfuel) [] (':' :: cs)
  have hcolon : skipSpace (':' :: cs) = ':' :: cs := rfl
  have hone : skipSpace cs = cs := hcs ▸ rfl
  have hvalue : readValue room (fuel + 1) cs = .error .tooLong :=
    hcs ▸ readValue_tooLong room fuel hlong rest
  rw [readEntries, hkey]
  simp only [ok_bind, hcolon, hone, hvalue, error_bind]

/-- An object whose first value is a power of ten, with more behind it. -/
def longObject (key : String) (n : Nat) (rest : String) : String :=
  "\x7b" ++ Literal.text key ++ ":1" ++ String.ofList (List.replicate n '0') ++ "," ++ rest

theorem toList_longObject (key : String) (n : Nat) (rest : String) :
    (longObject key n rest).toList = '\x7b' :: '\"' :: (key.toList.flatMap (escapeChar true) ++
      '\"' :: ':' :: '1' :: (List.replicate n '0' ++ ',' :: rest.toList)) := by
  simp [longObject, Literal.toList_text]

theorem read_longObject (room : Nat) (key : String) (hlong : digitLimit ≤ n) (rest : String) :
    read (room + 1) (longObject key n rest) = .error .tooLong := by
  have htext := toList_longObject key n rest
  have hlength : key.toList.length + 2 ≤ 2 * (longObject key n rest).toList.length + 1 := by
    have hbody := Literal.length_le_body key.toList
    rw [htext, List.length_cons, List.length_cons, List.length_append]
    omega
  obtain ⟨fuel, hfuel⟩ := Nat.exists_eq_add_of_le hlength
  have hentries := readEntries_tooLong room key (Nat.le_add_right key.toList.length fuel) hlong
    rest.toList
  have hname (cs : List Char) : readName? ('\x7b' :: cs) = none := by simp [readName?, names]
  have hbrace (cs : List Char) : skipSpace ('\x7b' :: cs) = '\x7b' :: cs := rfl
  have hquote (cs : List Char) : skipSpace ('\"' :: cs) = '\"' :: cs := rfl
  have hvalue : readValue (room + 1) (2 * (longObject key n rest).toList.length + 2)
      (longObject key n rest).toList = .error .tooLong := by
    have hbound : 2 * (longObject key n rest).toList.length + 2 =
        key.toList.length + fuel + 2 + 1 := by omega
    rw [hbound, htext]
    simp only [readValue, hname, hquote, Nat.add_one_ne_zero, if_false, Nat.add_sub_cancel]
    exact hentries
  rw [htext] at hvalue
  simp only [read, htext, hbrace, hvalue]
  rfl

theorem readBytes_longObject (room : Nat) (key : String) (hlong : digitLimit ≤ n)
    (hrest : rest.toList.all (·.toNat < 0x80) = true) :
    readBytes (room + 1) (Text.ascii (longObject key n rest)) = .error .tooLong := by
  have hkey : ∀ c ∈ key.toList.flatMap (escapeChar true), c.toNat < 0x80 := fun c hc =>
    Nat.lt_of_le_of_lt ((Literal.escaped_body key.toList).printable c hc).2 (by decide)
  have hzeros : ∀ c ∈ List.replicate n '0', c.toNat < 0x80 := fun c hc => by
    rw [List.eq_of_mem_replicate hc]
    decide
  have hascii : ∀ c ∈ (longObject key n rest).toList, c.toNat < 0x80 := by
    simp only [toList_longObject, List.forall_mem_cons, List.forall_mem_append]
    exact ⟨by decide, by decide, hkey, by decide, by decide, by decide, hzeros, by decide,
      by simpa using hrest⟩
  rw [readBytes, decode?_object hascii (toList_longObject key n rest)]
  exact read_longObject room key hlong rest

end Json
end Farcall
