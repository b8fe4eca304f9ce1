import TraceGlass.Platform
import TraceGlass.Lib.BackScan
import Mathlib.Data.List.DropRight

/-!
# String and time helpers (`utils.c`)

`copyWstring` is the only way text gets from one fixed buffer to another, and
`stringCchPrintf` the only way formatted text gets into one; both cut at the capacity.
-/

namespace TraceGlass

/-! ## Copying -/

/-- The loop of `copy_wstring`, with `room` units left before the terminator. -/
def copyWstringLoop : ℕ → List WCHAR → List WCHAR
  | 0, _ => []
  | _ + 1, [] => []
  | room + 1, c :: source => if c = 0 then [] else c :: copyWstringLoop room source

lemma copyWstringLoop_noNul (room : ℕ) (source : List WCHAR) :
    ∀ c ∈ copyWstringLoop room source, c ≠ 0 := by
  induction room generalizing source with
  | zero => simp [copyWstringLoop]
  | succ room ih =>
    cases source with
    | nil => simp [copyWstringLoop]
    | cons d source =>
      by_cases hd : d = 0
      · simp [copyWstringLoop, hd]
      · simpa [copyWstringLoop, hd] using ih source

lemma length_copyWstringLoop_le (room : ℕ) (source : List WCHAR) :
    (copyWstringLoop room source).length ≤ room := by
  induction room generalizing source with
  | zero => simp [copyWstringLoop]
  | succ room ih =>
    cases source with
    | nil => simp [copyWstringLoop]
    | cons d source =>
      by_cases hd : d = 0
      · simp [copyWstringLoop, hd]
      · simpa [copyWstringLoop, hd] using ih source

/-- `copy_wstring(destination, capacity, source)`: what the destination holds afterwards. -/
def copyWstring (capacity : ℕ) [NeZero capacity] (source : List WCHAR) : WString capacity where
  chars := copyWstringLoop (capacity - 1) source
  noNul := copyWstringLoop_noNul _ _
  length_lt := by
    have hpos : 0 < capacity := Nat.pos_of_ne_zero (NeZero.ne capacity)
    have := length_copyWstringLoop_le (capacity - 1) source
    omega

lemma copyWstringLoop_eq_self {room : ℕ} {source : List WCHAR} (hnul : ∀ c ∈ source, c ≠ 0)
    (hroom : source.length ≤ room) : copyWstringLoop room source = source := by
  induction room generalizing source with
  | zero => simpa [copyWstringLoop] using hroom
  | succ room ih =>
    cases source with
    | nil => rfl
    | cons d source =>
      rw [copyWstringLoop, if_neg (hnul d (by simp)),
        ih (fun c hc => hnul c (List.mem_cons_of_mem _ hc)) (by simpa using hroom)]

/-- The text has no terminator in it. -/
def NoNul (text : List WCHAR) : Prop := ∀ c ∈ text, c ≠ 0

instance (text : List WCHAR) : Decidable (NoNul text) := List.decidableBAll _ _

lemma noNul_append {text text' : List WCHAR} : NoNul (text ++ text') ↔ NoNul text ∧ NoNul text' :=
  List.forall_mem_append

lemma NoNul.append {text text' : List WCHAR} (h : NoNul text) (h' : NoNul text') :
    NoNul (text ++ text') :=
  noNul_append.mpr ⟨h, h'⟩

/-- A text that fits is copied whole. -/
lemma copyWstring_of_length_lt {capacity : ℕ} [NeZero capacity] {source : List WCHAR}
    (hnul : NoNul source) (hroom : source.length < capacity) :
    (copyWstring capacity source).chars = source :=
  copyWstringLoop_eq_self hnul (Nat.le_sub_one_of_lt hroom)

/-- A string that fits is copied whole. -/
@[simp] lemma copyWstring_chars {capacity : ℕ} [NeZero capacity] (s : WString capacity) :
    copyWstring capacity s.chars = s := by
  exact WString.ext (copyWstring_of_length_lt s.noNul s.length_lt)

/-! ## Formatting -/

/-- `%lu`, `%u` and `%zu`. -/
def formatUnsigned (value : ℕ) : List WCHAR :=
  (Nat.toDigits 10 value).map fun c => UInt16.ofNat c.toNat

/-- Digits begin at `0`. -/
lemma le_of_mem_formatUnsigned {value : ℕ} {c : WCHAR} (hc : c ∈ formatUnsigned value) :
    48 ≤ c := by
  obtain ⟨d, hd, rfl⟩ := List.mem_map.mp hc
  have hdigit : d.isDigit = true :=
    Nat.isDigit_of_mem_toDigits (b := 10) (n := value) (by decide) (by decide) hd
  simp only [Char.isDigit, Bool.and_eq_true, decide_eq_true_eq, ge_iff_le,
    UInt32.le_iff_toNat_le] at hdigit
  have hlow : 48 ≤ d.toNat := hdigit.1
  have hhigh : d.toNat ≤ 57 := hdigit.2
  rw [UInt16.le_iff_toNat_le, UInt16.toNat_ofNat_of_lt' (by simp only [UInt16.size]; omega)]
  exact hlow

lemma noNul_formatUnsigned (value : ℕ) : NoNul (formatUnsigned value) := by
  rintro c hc rfl
  exact absurd (le_of_mem_formatUnsigned hc) (by decide)

lemma length_formatUnsigned_le {value count : ℕ} (hcount : 0 < count) (h : value < 10 ^ count) :
    (formatUnsigned value).length ≤ count := by
  rw [formatUnsigned, List.length_map]
  exact (Nat.length_toDigits_le_iff (by decide) hcount).mpr h

/-- `%02u`, `%03u` and `%04u`, by the width. -/
def formatPadded (width value : ℕ) : List WCHAR :=
  List.replicate (width - (formatUnsigned value).length) 48 ++ formatUnsigned value

/-- `%04x`, by the width. -/
def formatHexPadded (width value : ℕ) : List WCHAR :=
  let digits := (Nat.toDigits 16 value).map fun c => UInt16.ofNat c.toNat
  List.replicate (width - digits.length) 48 ++ digits

/-- `StringCchPrintfW` into a `WCHAR[capacity]`, given the expanded text. -/
def stringCchPrintf (capacity : ℕ) [NeZero capacity] (text : List WCHAR) : WString capacity :=
  copyWstring capacity text

/-! ## Searching and comparing -/

/-- The inner loop of `string_contains_insensitive`: every unit of the needle matches, from the
front of `value`. -/
def matchesAt (w : Win32) : List WCHAR → List WCHAR → Bool
  | _, [] => true
  | [], _ :: _ => false
  | v :: value, n :: needle => w.towlower v == w.towlower n && matchesAt w value needle

/-- `string_contains_insensitive`. -/
def stringContainsInsensitive (w : Win32) (value needle : List WCHAR) : Bool :=
  if needle.length = 0 then true
  else if needle.length > value.length then false
  else (List.range (value.length - needle.length + 1)).any fun index =>
    matchesAt w (value.drop index) needle

/-- `string_equals_insensitive`. -/
def stringEqualsInsensitive (w : Win32) (left right : List WCHAR) : Bool :=
  w.compareStringOrdinal left right == .eq

/-- `wcsrchr`: the index of the last occurrence. -/
def wcsrchr (path : List WCHAR) (c : WCHAR) : Option ℕ :=
  BackScan.backScan (· == c) (fun _ => false) path

/-- `path_basename`: what follows the last separator of either kind. -/
def pathBasename (path : List WCHAR) : List WCHAR :=
  let backslash := wcsrchr path 92
  let slash := wcsrchr path 47
  let last := match slash, backslash with
    | some s, some b => some (if s > b then s else b)
    | some s, none => some s
    | none, b => b
  match last with
  | none => path
  | some index => path.drop (index + 1)

/-! ## Errors -/

/-- `format_windows_error` into a `WCHAR[capacity]`.  `formatMessage` is what `FormatMessageW`
stores there for an error, nothing when it fails. -/
def formatWindowsError (capacity : ℕ) [NeZero capacity] (formatMessage : DWORD → WString capacity)
    (error : DWORD) : WString capacity :=
  let message := (formatMessage error).chars
  if message = [] then
    stringCchPrintf capacity (wide "Windows error " ++ formatUnsigned error.toNat)
  else copyWstring capacity (message.rdropWhile fun c => c == 13 || c == 10)

/-! ## Times -/

/-- `local_systemtime_from_filetime`; `none` is the `FALSE` return. -/
def localSystemtimeFromFiletime (w : Win32) (filetimeValue : ULONGLONG) : Option SystemTime :=
  if filetimeValue = 0 then none else w.fileTimeToLocalSystemTime filetimeValue

end TraceGlass
