import Mathlib.Algebra.Ring.Nat
import Mathlib.Data.List.Basic
import Mathlib.Data.Nat.Notation
import Mathlib.Tactic.MkIffOfInductiveProp

/-!
# The Windows types and services the program is written against

Fixed-width integers are Lean's own.  A `size_t` quantity is a natural number, with `sizeAdd` where
the code adds to one; `checkedAdd` has no result where that would wrap.  A `WCHAR[n]` field that the
code keeps NUL-terminated is a `WString n`: the units before the terminator, with the proof that
they contain no NUL and leave room for one.

`Win32` collects the operating-system and C-runtime functions that decide something in the modelled
code and are not part of the repository: case folding, ordinal comparison and the time conversions.
-/

namespace TraceGlass

abbrev BYTE := UInt8
abbrev WORD := UInt16
abbrev USHORT := UInt16
abbrev WCHAR := UInt16
abbrev DWORD := UInt32
abbrev ULONGLONG := UInt64

/-! ## `size_t` -/

/-- `SIZE_MAX` of the x64 target. -/
def sizeMax : ℕ := 2 ^ 64 - 1

/-- Addition of `size_t` values, which wraps. -/
def sizeAdd (a b : ℕ) : ℕ := (a + b) % (sizeMax + 1)

/-- Multiplication of `size_t` values, which wraps. -/
def sizeMul (a b : ℕ) : ℕ := a * b % (sizeMax + 1)

/-- Subtraction of `size_t` values, which wraps. -/
def sizeSub (a b : ℕ) : ℕ := (a + (sizeMax + 1) - b) % (sizeMax + 1)

/-- The sum, if it does not wrap. -/
def checkedAdd (a b : ℕ) : Option ℕ := if a + b ≤ sizeMax then some (a + b) else none

/-- The product, if it does not wrap. -/
def checkedMul (a b : ℕ) : Option ℕ := if a * b ≤ sizeMax then some (a * b) else none

lemma sizeAdd_eq {a b : ℕ} (h : a + b ≤ sizeMax) : sizeAdd a b = a + b :=
  Nat.mod_eq_of_lt (Nat.lt_succ_of_le h)

lemma sizeMul_eq {a b : ℕ} (h : a * b ≤ sizeMax) : sizeMul a b = a * b :=
  Nat.mod_eq_of_lt (Nat.lt_succ_of_le h)

lemma sizeSub_eq {a b : ℕ} (h : b ≤ a) (ha : a ≤ sizeMax) : sizeSub a b = a - b := by
  have hwrap : a + (sizeMax + 1) - b = a - b + (sizeMax + 1) := by omega
  rw [sizeSub, hwrap, Nat.add_mod_right, Nat.mod_eq_of_lt (by omega)]

lemma checkedAdd_of_le {a b : ℕ} (h : a + b ≤ sizeMax) : checkedAdd a b = some (a + b) := if_pos h

lemma sizeAdd_of_checkedAdd {a b c : ℕ} (h : checkedAdd a b = some c) : sizeAdd a b = c := by
  obtain ⟨hle, hsum⟩ := Option.ite_none_right_eq_some.mp h
  rw [sizeAdd_eq hle, ← Option.some.inj hsum]

lemma checkedMul_of_le {a b : ℕ} (h : a * b ≤ sizeMax) : checkedMul a b = some (a * b) := if_pos h

lemma sizeAdd_one_ne {a : ℕ} : sizeAdd a 1 ≠ a := by
  unfold sizeAdd sizeMax
  omega

/-- `INT_MAX`. -/
def intMax : ℕ := 2 ^ 31 - 1

/-- `MAXDWORD`. -/
def maxDword : ℕ := 2 ^ 32 - 1

/-! ## Strings -/

/-- A wide string literal. -/
def wide (text : String) : List WCHAR := text.toList.map fun c => UInt16.ofNat c.toNat

/-- `MAX_PATH`. -/
abbrev maxPath : ℕ := 260

instance : NeZero maxPath := ⟨by decide⟩

/-- The size of several local buffers. -/
instance instNeZero256 : NeZero 256 := ⟨by decide⟩

/-- The contents of a NUL-terminated `WCHAR[capacity]`. -/
structure WString (capacity : ℕ) where
  chars : List WCHAR
  noNul : ∀ c ∈ chars, c ≠ 0
  length_lt : chars.length < capacity
  deriving DecidableEq

namespace WString

variable {capacity : ℕ}

/-- The string of a zeroed buffer. -/
def empty [NeZero capacity] : WString capacity where
  chars := []
  noNul := by simp
  length_lt := Nat.pos_of_ne_zero (NeZero.ne capacity)

instance [NeZero capacity] : Inhabited (WString capacity) := ⟨empty⟩

@[ext] lemma ext {s t : WString capacity} (h : s.chars = t.chars) : s = t := by
  cases s
  cases t
  cases h
  rfl

end WString

/-! ## Times -/

/-- `SYSTEMTIME`. -/
structure SystemTime where
  wYear : WORD
  wMonth : WORD
  wDayOfWeek : WORD
  wDay : WORD
  wHour : WORD
  wMinute : WORD
  wSecond : WORD
  wMilliseconds : WORD
  deriving DecidableEq, Repr, Inhabited

/-- The zeroed `SYSTEMTIME`. -/
def SystemTime.zero : SystemTime := ⟨0, 0, 0, 0, 0, 0, 0, 0⟩

/-- The days of a month of the Gregorian calendar. -/
def daysInMonth (year month : ℕ) : ℕ :=
  if month = 2 then
    if year % 4 = 0 ∧ (year % 100 ≠ 0 ∨ year % 400 = 0) then 29 else 28
  else if month = 4 ∨ month = 6 ∨ month = 9 ∨ month = 11 then 30
  else 31

/-- The `SYSTEMTIME` is a time of day on a day of the calendar. -/
@[mk_iff]
structure SystemTime.Valid (time : SystemTime) : Prop where
  year : 1601 ≤ time.wYear.toNat ∧ time.wYear.toNat ≤ 30827
  month : 1 ≤ time.wMonth.toNat ∧ time.wMonth.toNat ≤ 12
  day : 1 ≤ time.wDay.toNat ∧ time.wDay.toNat ≤ daysInMonth time.wYear.toNat time.wMonth.toNat
  hour : time.wHour.toNat < 24
  minute : time.wMinute.toNat < 60
  second : time.wSecond.toNat < 60
  milliseconds : time.wMilliseconds.toNat < 1000

instance (time : SystemTime) : Decidable time.Valid :=
  decidable_of_iff' _ (SystemTime.valid_iff time)

/-- The days before this one, from the first of 1601 on, which begins a cycle of 400 years. -/
def SystemTime.days (time : SystemTime) : ℕ :=
  let years := time.wYear.toNat - 1601
  let months := (List.range (time.wMonth.toNat - 1)).map fun month =>
    daysInMonth time.wYear.toNat (month + 1)
  years * 365 + years / 4 - years / 100 + years / 400 + months.sum + (time.wDay.toNat - 1)

/-- The units of 100 nanoseconds since the beginning of 1601. -/
def SystemTime.toFileTime (time : SystemTime) : Option ULONGLONG :=
  if time.Valid then
    let minutes := (time.days * 24 + time.wHour.toNat) * 60 + time.wMinute.toNat
    some (.ofNat (((minutes * 60 + time.wSecond.toNat) * 1000 + time.wMilliseconds.toNat) * 10000))
  else none

/-! ## Services -/

/-- The platform functions whose results the modelled code branches on. -/
structure Win32 where
  /-- `towlower`. -/
  towlower : WCHAR → WCHAR
  /-- `CompareStringOrdinal` with `bIgnoreCase = TRUE`, on whole strings. -/
  compareStringOrdinal : List WCHAR → List WCHAR → Ordering
  /-- `SystemTimeToFileTime`; `none` when the call fails. -/
  systemTimeToFileTime : SystemTime → Option ULONGLONG
  /-- `FileTimeToLocalFileTime` followed by `FileTimeToSystemTime`; `none` when one fails. -/
  fileTimeToLocalSystemTime : ULONGLONG → Option SystemTime

/-- Upper case of the ASCII letters. -/
def asciiUpper (c : WCHAR) : WCHAR := if 97 ≤ c ∧ c ≤ 122 then c - 32 else c

/-- Lower case of the ASCII letters. -/
def asciiLower (c : WCHAR) : WCHAR := if 65 ≤ c ∧ c ≤ 90 then c + 32 else c

/-- Unit by unit, the upper-case units decide. -/
def compareAscii : List WCHAR → List WCHAR → Ordering
  | [], [] => .eq
  | [], _ :: _ => .lt
  | _ :: _, [] => .gt
  | a :: as, b :: bs =>
      if asciiUpper a < asciiUpper b then .lt
      else if asciiUpper b < asciiUpper a then .gt
      else compareAscii as bs

/-- That is the order of the lists of the upper-case units. -/
lemma compareAscii_eq (left right : List WCHAR) :
    compareAscii left right = compare (left.map asciiUpper) (right.map asciiUpper) := by
  induction left generalizing right with
  | nil => cases right <;> rfl
  | cons a left ih =>
    cases right with
    | nil => rfl
    | cons b right =>
      have hunits : compare (asciiUpper a) (asciiUpper b) =
          compareOfLessAndEq (asciiUpper a) (asciiUpper b) := rfl
      rw [List.map_cons, List.map_cons, List.compare_cons_cons, compareAscii, ih, hunits,
        compareOfLessAndEq]
      by_cases hlt : asciiUpper a < asciiUpper b
      · simp [hlt]
      · by_cases hgt : asciiUpper b < asciiUpper a
        · have hne : asciiUpper a ≠ asciiUpper b := fun heq => by
            rw [heq] at hgt
            exact UInt16.lt_irrefl _ hgt
          simp [hlt, hgt, hne]
        · have heq := UInt16.le_antisymm (UInt16.not_lt.mp hgt) (UInt16.not_lt.mp hlt)
          simp [heq]

instance : Std.TransCmp compareAscii where
  eq_swap {a b} := by
    rw [compareAscii_eq, compareAscii_eq]
    exact Std.OrientedCmp.eq_swap
  isLE_trans {a b c} hab hbc := by
    rw [compareAscii_eq] at hab hbc ⊢
    exact Std.TransCmp.isLE_trans hab hbc

/-- The services of a machine set to UTC, for concrete runs: on ASCII text, and from `FILETIME`s of
the first millisecond of 1601. -/
def Win32.sample : Win32 where
  towlower := asciiLower
  compareStringOrdinal := compareAscii
  systemTimeToFileTime := SystemTime.toFileTime
  fileTimeToLocalSystemTime := fun _ => some ⟨1601, 1, 1, 1, 0, 0, 0, 0⟩

instance : Std.TransCmp Win32.sample.compareStringOrdinal :=
  inferInstanceAs (Std.TransCmp compareAscii)

end TraceGlass
