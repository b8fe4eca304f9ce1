import Mathlib.Data.List.Basic
import Mathlib.Data.Nat.Notation

/-!
# UTF-16 and UTF-8

A text is the list of its characters; `encodeUtf16` and `encodeUtf8` are its code units in the two
encoding forms.  A list of 16-bit units is well formed when it encodes some text, so lone surrogates
are ruled out.
-/

namespace Unicode

/-! ## UTF-16 -/

/-- The code units of a character: itself, or a surrogate pair above the basic plane. -/
def encodeUtf16Char (c : Char) : List UInt16 :=
  if c.toNat < 0x10000 then [.ofNat c.toNat]
  else
    [.ofNat (0xD800 + (c.toNat - 0x10000) / 0x400), .ofNat (0xDC00 + (c.toNat - 0x10000) % 0x400)]

/-- The UTF-16 encoding form of a text. -/
def encodeUtf16 (text : List Char) : List UInt16 := text.flatMap encodeUtf16Char

/-- The units encode a text. -/
def WellFormedUtf16 (units : List UInt16) : Prop := ∃ text, units = encodeUtf16 text

@[simp] lemma encodeUtf16_nil : encodeUtf16 [] = [] := rfl

@[simp] lemma encodeUtf16_cons (c : Char) (text : List Char) :
    encodeUtf16 (c :: text) = encodeUtf16Char c ++ encodeUtf16 text := rfl

@[simp] lemma encodeUtf16_append (text text' : List Char) :
    encodeUtf16 (text ++ text') = encodeUtf16 text ++ encodeUtf16 text' :=
  List.flatMap_append

lemma encodeUtf16Char_of_lt {c : Char} (h : c.toNat < 0x10000) :
    encodeUtf16Char c = [.ofNat c.toNat] := if_pos h

/-- A text of the basic plane takes one unit for each character. -/
lemma encodeUtf16_eq_map {text : List Char} (h : ∀ c ∈ text, c.toNat < 0x10000) :
    encodeUtf16 text = text.map fun c => UInt16.ofNat c.toNat := by
  induction text with
  | nil => rfl
  | cons c text ih =>
    rw [encodeUtf16_cons, encodeUtf16Char_of_lt (h c (by simp)),
      ih fun d hd => h d (List.mem_cons_of_mem _ hd)]
    rfl

/-- The units of a character above the basic plane are surrogates. -/
lemma le_of_mem_encodeUtf16Char {c : Char} (h : 0x10000 ≤ c.toNat) {unit : UInt16}
    (hunit : unit ∈ encodeUtf16Char c) : 0xD800 ≤ unit := by
  have hmax : c.toNat < 0x110000 := by
    have := c.valid
    simp only [UInt32.isValidChar, Nat.isValidChar, Char.toNat] at this ⊢
    omega
  rw [encodeUtf16Char, if_neg (Nat.not_lt.mpr h)] at hunit
  rw [UInt16.le_iff_toNat_le]
  rcases List.mem_cons.mp hunit with rfl | hunit
  · rw [UInt16.toNat_ofNat_of_lt' (by simp only [UInt16.size]; omega)]
    simp only [UInt16.reduceToNat]
    omega
  · rw [List.mem_singleton] at hunit
    rw [hunit, UInt16.toNat_ofNat_of_lt' (by simp only [UInt16.size]; omega)]
    simp only [UInt16.reduceToNat]
    omega

/-- The text that units encode, if any. -/
def decodeUtf16 : List UInt16 → Option (List Char)
  | [] => some []
  | [u] => if u < 0xD800 ∨ 0xE000 ≤ u then some [Char.ofNat u.toNat] else none
  | u :: v :: units =>
      if u < 0xD800 ∨ 0xE000 ≤ u then
        (decodeUtf16 (v :: units)).map fun text => Char.ofNat u.toNat :: text
      else if u < 0xDC00 ∧ 0xDC00 ≤ v ∧ v < 0xE000 then
        (decodeUtf16 units).map fun text =>
          Char.ofNat (0x10000 + (u.toNat - 0xD800) * 0x400 + (v.toNat - 0xDC00)) :: text
      else none

/-- Units that are not surrogates stand for themselves. -/
lemma decodeUtf16_cons {u : UInt16} (hu : u < 0xD800 ∨ 0xE000 ≤ u) (units : List UInt16) :
    decodeUtf16 (u :: units) = (decodeUtf16 units).map fun text => Char.ofNat u.toNat :: text := by
  cases units with
  | nil => simp [decodeUtf16, hu]
  | cons v units => rw [decodeUtf16, if_pos hu]

/-- What is encoded is decoded again. -/
@[simp] lemma decodeUtf16_encodeUtf16 (text : List Char) :
    decodeUtf16 (encodeUtf16 text) = some text := by
  induction text with
  | nil => rfl
  | cons c text ih =>
    have hvalid : c.toNat < 0xD800 ∨ 0xDFFF < c.toNat ∧ c.toNat < 0x110000 := by
      have := c.valid
      simp only [UInt32.isValidChar, Nat.isValidChar] at this
      exact this
    rw [encodeUtf16_cons]
    by_cases hplane : c.toNat < 0x10000
    · have htoNat : (UInt16.ofNat c.toNat).toNat = c.toNat := UInt16.toNat_ofNat_of_lt' hplane
      have hunit : UInt16.ofNat c.toNat < 0xD800 ∨ 0xE000 ≤ UInt16.ofNat c.toNat := by
        rw [UInt16.lt_iff_toNat_lt, UInt16.le_iff_toNat_le, htoNat]
        simp only [UInt16.reduceToNat]
        omega
      rw [encodeUtf16Char_of_lt hplane, List.singleton_append, decodeUtf16_cons hunit, ih, htoNat,
        Option.map_some, Char.ofNat_toNat]
    · have hhigh : (UInt16.ofNat (0xD800 + (c.toNat - 0x10000) / 0x400)).toNat =
          0xD800 + (c.toNat - 0x10000) / 0x400 :=
        UInt16.toNat_ofNat_of_lt' (by simp only [UInt16.size]; omega)
      have hlow : (UInt16.ofNat (0xDC00 + (c.toNat - 0x10000) % 0x400)).toNat =
          0xDC00 + (c.toNat - 0x10000) % 0x400 :=
        UInt16.toNat_ofNat_of_lt' (by simp only [UInt16.size]; omega)
      rw [encodeUtf16Char, if_neg hplane, List.cons_append, List.cons_append, List.nil_append,
        decodeUtf16, if_neg, if_pos, ih, hhigh, hlow, Option.map_some]
      · have hsum : 0x10000 + (0xD800 + (c.toNat - 0x10000) / 0x400 - 0xD800) * 0x400 +
            (0xDC00 + (c.toNat - 0x10000) % 0x400 - 0xDC00) = c.toNat := by omega
        rw [hsum, Char.ofNat_toNat]
      · rw [UInt16.lt_iff_toNat_lt, UInt16.le_iff_toNat_le, UInt16.lt_iff_toNat_lt, hhigh, hlow]
        simp only [UInt16.reduceToNat]
        omega
      · rw [UInt16.lt_iff_toNat_lt, UInt16.le_iff_toNat_le, hhigh]
        simp only [UInt16.reduceToNat]
        omega

/-! ## Ill-formed UTF-16 -/

/-- U+FFFD, which stands for what cannot be decoded. -/
def replacementChar : Char := Char.ofNat 0xFFFD

/-- The text of any units, with the replacement character for a surrogate outside of a pair. -/
def decodeUtf16Lossy : List UInt16 → List Char
  | [] => []
  | [u] => if u < 0xD800 ∨ 0xE000 ≤ u then [Char.ofNat u.toNat] else [replacementChar]
  | u :: v :: units =>
      if u < 0xD800 ∨ 0xE000 ≤ u then Char.ofNat u.toNat :: decodeUtf16Lossy (v :: units)
      else if u < 0xDC00 ∧ 0xDC00 ≤ v ∧ v < 0xE000 then
        Char.ofNat (0x10000 + (u.toNat - 0xD800) * 0x400 + (v.toNat - 0xDC00)) ::
          decodeUtf16Lossy units
      else replacementChar :: decodeUtf16Lossy (v :: units)

lemma decodeUtf16Lossy_ne_nil {units : List UInt16} (h : units ≠ []) :
    decodeUtf16Lossy units ≠ [] := by
  match units with
  | [] => exact absurd rfl h
  | [u] =>
    rw [decodeUtf16Lossy]
    split <;> exact List.cons_ne_nil _ _
  | u :: v :: units =>
    rw [decodeUtf16Lossy]
    repeat' split
    all_goals exact List.cons_ne_nil _ _

/-- A text that does not begin in the middle of a surrogate pair is decoded by itself. -/
lemma decodeUtf16Lossy_append (units : List UInt16) {units' : List UInt16}
    (h : ∀ u ∈ units'.head?, ¬ (0xDC00 ≤ u ∧ u < 0xE000)) :
    decodeUtf16Lossy (units ++ units') = decodeUtf16Lossy units ++ decodeUtf16Lossy units' := by
  fun_induction decodeUtf16Lossy units with
  | case1 => rfl
  | case2 u hu =>
    cases units' with
    | nil => simp [decodeUtf16Lossy, hu]
    | cons v units' =>
      rw [List.singleton_append, decodeUtf16Lossy, if_pos hu, List.singleton_append]
  | case3 u hu =>
    cases units' with
    | nil => simp [decodeUtf16Lossy, hu]
    | cons v units' =>
      have hpair : ¬ (u < 0xDC00 ∧ 0xDC00 ≤ v ∧ v < 0xE000) := fun hpair => h v rfl hpair.2
      rw [List.singleton_append, decodeUtf16Lossy, if_neg hu, if_neg hpair, List.singleton_append]
  | case4 u v units hu ih =>
    rw [List.cons_append, List.cons_append, decodeUtf16Lossy, if_pos hu, List.cons_append, ← ih,
      List.cons_append]
  | case5 u v units hu hpair ih =>
    rw [List.cons_append, List.cons_append, decodeUtf16Lossy, if_neg hu, if_pos hpair,
      List.cons_append, ← ih]
  | case6 u v units hu hpair ih =>
    rw [List.cons_append, List.cons_append, decodeUtf16Lossy, if_neg hu, if_neg hpair,
      List.cons_append, ← ih, List.cons_append]

lemma toNat_charOfNat {n : ℕ} (h : n.isValidChar) : (Char.ofNat n).toNat = n := by
  rw [Char.ofNat, dif_pos h]
  rfl

/-- A unit that is not a surrogate stands for a character exactly if it is the character's own. -/
lemma eq_charOfNat_iff {c : Char} (hc : c.toNat < 0xD800) {u : UInt16}
    (hu : u < 0xD800 ∨ 0xE000 ≤ u) : c = Char.ofNat u.toNat ↔ UInt16.ofNat c.toNat = u := by
  have hvalid : u.toNat.isValidChar := by
    have := u.toNat_lt
    simp only [UInt16.lt_iff_toNat_lt, UInt16.le_iff_toNat_le, UInt16.reduceToNat] at hu
    unfold Nat.isValidChar
    omega
  constructor
  · rintro rfl
    rw [toNat_charOfNat hvalid, UInt16.ofNat_toNat]
  · rintro rfl
    rw [UInt16.toNat_ofNat_of_lt' (Nat.lt_trans hc (by decide)), Char.ofNat_toNat]

/-- A character below the surrogates is decoded from its own unit only. -/
lemma mem_decodeUtf16Lossy {c : Char} (hc : c.toNat < 0xD800) {units : List UInt16} :
    c ∈ decodeUtf16Lossy units ↔ UInt16.ofNat c.toNat ∈ units := by
  have htoNat : (UInt16.ofNat c.toNat).toNat = c.toNat :=
    UInt16.toNat_ofNat_of_lt' (Nat.lt_trans hc (by decide))
  have hlow : UInt16.ofNat c.toNat < 0xD800 := by
    rw [UInt16.lt_iff_toNat_lt, htoNat]
    exact hc
  have hsurrogate : ∀ u : UInt16, 0xD800 ≤ u → UInt16.ofNat c.toNat ≠ u := by
    rintro u hu rfl
    exact UInt16.not_le.mpr hlow hu
  have hreplacement : c ≠ replacementChar := by
    rintro rfl
    exact absurd hc (by decide)
  have hhigh : ∀ n, 0x10000 ≤ n → n < 0x110000 → c ≠ Char.ofNat n := by
    rintro n hn hmax rfl
    have hvalid : n.isValidChar := .inr ⟨by omega, hmax⟩
    rw [toNat_charOfNat hvalid] at hc
    omega
  fun_induction decodeUtf16Lossy units with
  | case1 => simp
  | case2 u hu => simp only [List.mem_singleton, eq_charOfNat_iff hc hu]
  | case3 u hu =>
    have hge : 0xD800 ≤ u := UInt16.not_lt.mp fun hlt => hu (.inl hlt)
    simp only [List.mem_singleton, hreplacement, hsurrogate u hge]
  | case4 u v units hu ih =>
    rw [List.mem_cons, List.mem_cons, eq_charOfNat_iff hc hu]
    exact or_congr Iff.rfl ih
  | case5 u v units hu hpair ih =>
    have hge : 0xD800 ≤ u := UInt16.not_lt.mp fun hlt => hu (.inl hlt)
    have hge' : 0xD800 ≤ v := UInt16.le_trans (by decide) hpair.2.1
    have hne : c ≠ Char.ofNat (0x10000 + (u.toNat - 0xD800) * 0x400 + (v.toNat - 0xDC00)) := by
      have h1 := hpair.1
      have h2 := hpair.2.2
      simp only [UInt16.lt_iff_toNat_lt, UInt16.reduceToNat] at h1 h2
      exact hhigh _ (by omega) (by omega)
    rw [List.mem_cons, List.mem_cons, List.mem_cons]
    simpa only [hne, hsurrogate u hge, hsurrogate v hge', false_or] using ih
  | case6 u v units hu hpair ih =>
    have hge : 0xD800 ≤ u := UInt16.not_lt.mp fun hlt => hu (.inl hlt)
    rw [List.mem_cons, List.mem_cons]
    simpa only [hreplacement, hsurrogate u hge, false_or] using ih

/-- On well-formed units nothing is replaced. -/
lemma decodeUtf16Lossy_of_decodeUtf16 {units : List UInt16} {text : List Char}
    (h : decodeUtf16 units = some text) : decodeUtf16Lossy units = text := by
  fun_induction decodeUtf16 units generalizing text with
  | case1 => exact Option.some.inj h
  | case2 u hu =>
    rw [decodeUtf16Lossy, if_pos hu]
    exact Option.some.inj h
  | case3 => cases h
  | case4 u v units hu ih =>
    obtain ⟨rest, hrest, rfl⟩ := Option.map_eq_some_iff.mp h
    rw [decodeUtf16Lossy, if_pos hu, ih hrest]
  | case5 u v units hu hpair ih =>
    obtain ⟨rest, hrest, rfl⟩ := Option.map_eq_some_iff.mp h
    rw [decodeUtf16Lossy, if_neg hu, if_pos hpair, ih hrest]
  | case6 => cases h

/-! ## UTF-8 -/

/-- The UTF-8 encoding form of a text. -/
def encodeUtf8 (text : List Char) : List UInt8 := text.flatMap String.utf8EncodeChar

/-- The text a byte sequence encodes, if any. -/
def decodeUtf8 (bytes : List UInt8) : Option (List Char) :=
  bytes.toByteArray.utf8Decode?.map Array.toList

@[simp] lemma encodeUtf8_append (text text' : List Char) :
    encodeUtf8 (text ++ text') = encodeUtf8 text ++ encodeUtf8 text' :=
  List.flatMap_append

/-- What is encoded is decoded again. -/
@[simp] lemma decodeUtf8_encodeUtf8 (text : List Char) :
    decodeUtf8 (encodeUtf8 text) = some text := by
  have hbytes : (encodeUtf8 text).toByteArray = text.utf8Encode := rfl
  rw [decodeUtf8, hbytes, List.utf8Decode?_utf8Encode, Option.map_some]

end Unicode
