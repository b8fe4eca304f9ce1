import TraceGlass.Export.File
import Mathlib.Data.Set.Basic

/-!
# Which file an export overwrites

`GetSaveFileNameW` asks before it answers the path of an existing file.  What the export writes to
is not always that path: where it has no extension, or one of the three, the extension of the
selected format is put there without asking again.  `exportPath_eq` says what becomes of the path,
and `exportEventsWithDialog_confirmed_iff` when the file that is overwritten is the confirmed one.
-/

namespace TraceGlass

/-! ## What becomes of the path -/

/-- The path ends in an extension, and it is none of the three. -/
def HasOwnExtension (w : Win32) (path : List WCHAR) : Prop :=
  pathHasExtension path = true ∧ isExportExtension w (lastExtension path) = false

instance (w : Win32) (path : List WCHAR) : Decidable (HasOwnExtension w path) :=
  inferInstanceAs (Decidable (_ ∧ _))

/-- The path without the one of the three extensions it may end in. -/
def pathStem (w : Win32) (path : List WCHAR) : List WCHAR :=
  if pathHasExtension path && isExportExtension w (lastExtension path) then
    path.take (path.length - (lastExtension path).length)
  else path

/-- A path with an extension has a last dot. -/
lemma exists_lastDot {path : List WCHAR} (h : pathHasExtension path = true) :
    ∃ lastDot, wcsrchr path 46 = some lastDot := by
  unfold pathHasExtension at h
  cases hdot : wcsrchr path 46 with
  | none => simp [hdot] at h
  | some lastDot => exact ⟨lastDot, rfl⟩

/-- The index of an occurrence is an index. -/
lemma wcsrchr_lt {path : List WCHAR} {c : WCHAR} {index : ℕ} (h : wcsrchr path c = some index) :
    index < path.length := by
  have houtcome := BackScan.outcome_backScan (· == c) (fun _ => false) path
  rw [wcsrchr] at h
  rw [h] at houtcome
  generalize hresult : some index = result at houtcome
  cases houtcome with
  | hit _ _ =>
    cases hresult
    simp
  | kept _ hx _ => cases hx
  | missing _ _ => cases hresult

/-- `apply_selected_extension`, where it is called. -/
lemma applySelectedExtension_eq {w : Win32} {path : List WCHAR} (extension : List WCHAR)
    (h : ¬ HasOwnExtension w path) :
    applySelectedExtension w path extension = stringCchCat (pathStem w path) extension := by
  unfold applySelectedExtension pathStem
  cases hextension : pathHasExtension path with
  | false => cases wcsrchr path 46 <;> rfl
  | true =>
    obtain ⟨lastDot, hdot⟩ := exists_lastDot hextension
    have hlast : lastExtension path = path.drop lastDot := by
      rw [lastExtension, hdot]
    have hknown : isExportExtension w (path.drop lastDot) = true := by
      rw [← hlast]
      exact Bool.eq_true_of_not_eq_false fun hknown => h ⟨hextension, hknown⟩
    have hlength : path.length - (path.drop lastDot).length = lastDot := by
      rw [List.length_drop]
      exact Nat.sub_sub_self (wcsrchr_lt hdot).le
    simp only [hdot, hlast, hknown, hlength, Bool.and_self, if_true]

section
variable {w : Win32} {env : FileEnv} {path : WString maxPath} {filterIndex : DWORD}
  {store : EventStore} {firstEvent savedPathCount errorMessageCount : ℕ}

/-- **Where the events go**, if they go anywhere: to the path itself where it has an extension of
its own, and else to the path with the extension of the selected format. -/
lemma exportPath_eq :
    (exportEventsWithDialog w env (.chosen path filterIndex) store firstEvent savedPathCount
        errorMessageCount).exportPath =
      if HasOwnExtension w path.chars then some path.chars
      else stringCchCat (pathStem w path.chars) (formatExtension (selectedFormat filterIndex)) := by
  have hpath :
      (if !pathHasExtension path.chars || isExportExtension w (lastExtension path.chars) then
        applySelectedExtension w path.chars (formatExtension (selectedFormat filterIndex))
      else some path.chars) =
      if HasOwnExtension w path.chars then some path.chars
      else stringCchCat (pathStem w path.chars) (formatExtension (selectedFormat filterIndex)) := by
    by_cases hown : HasOwnExtension w path.chars
    · rw [if_pos hown, if_neg (by simp [hown.1, hown.2])]
    · rw [if_neg hown, applySelectedExtension_eq _ hown, if_pos]
      unfold HasOwnExtension at hown
      revert hown
      cases pathHasExtension path.chars <;>
        cases isExportExtension w (lastExtension path.chars) <;> simp
  simp only [exportEventsWithDialog, hpath]
  cases (if HasOwnExtension w path.chars then some path.chars
    else stringCchCat (pathStem w path.chars) (formatExtension (selectedFormat filterIndex))) with
  | none => rfl
  | some written => simp only [apply_ite DialogExport.exportPath, ite_self]

/-! ## Confirmed files -/

/-- The export writes to the path the dialog has answered, or where there is no file: `files` are
the path strings at which one exists, each in every spelling of the letter case that leads to it. -/
def WritesConfirmed (files : Set (List WCHAR)) (path : List WCHAR) (outcome : DialogExport) :
    Prop :=
  ∀ written, outcome.exportPath = some written → written = path ∨ written ∉ files

/-- **When the file an export overwrites was confirmed.**  It is for every path with an extension of
its own, and for one that has no room for the selected extension; for any other path exactly if no
file but itself is called as it is with that extension. -/
theorem exportEventsWithDialog_confirmed_iff (w : Win32) (env : FileEnv) (path : WString maxPath)
    (filterIndex : DWORD) (files : Set (List WCHAR)) (store : EventStore)
    (firstEvent savedPathCount errorMessageCount : ℕ) :
    WritesConfirmed files path.chars
        (exportEventsWithDialog w env (.chosen path filterIndex) store firstEvent savedPathCount
          errorMessageCount) ↔
      HasOwnExtension w path.chars ∨
        maxPath ≤ (pathStem w path.chars).length +
          (formatExtension (selectedFormat filterIndex)).length ∨
        ∀ file ∈ files, file ≠ path.chars →
          file ≠ pathStem w path.chars ++ formatExtension (selectedFormat filterIndex) := by
  unfold WritesConfirmed
  rw [exportPath_eq]
  by_cases hown : HasOwnExtension w path.chars
  · rw [if_pos hown]
    constructor
    · exact fun _ => .inl hown
    · rintro - written hwritten
      exact .inl (Option.some.inj hwritten).symm
  · rw [if_neg hown, stringCchCat, List.length_append]
    by_cases hroom : (pathStem w path.chars).length +
        (formatExtension (selectedFormat filterIndex)).length < maxPath
    · rw [if_pos hroom]
      constructor
      · intro hconfirmed
        refine .inr (.inr fun file hfile hother heq => ?_)
        rcases hconfirmed _ rfl with hsame | hnew
        · exact hother (heq.trans hsame)
        · exact hnew (heq ▸ hfile)
      · rintro (hown' | hlong | hfree) written hwritten
        · exact absurd hown' hown
        · exact absurd hroom hlong.not_gt
        · obtain rfl := Option.some.inj hwritten
          by_cases hsame : pathStem w path.chars ++
              formatExtension (selectedFormat filterIndex) = path.chars
          · exact .inl hsame
          · exact .inr fun hfile => hfree _ hfile hsame rfl
    · rw [if_neg hroom]
      constructor
      · exact fun _ => .inr (.inl (Nat.le_of_not_lt hroom))
      · rintro - written ⟨⟩

end

/-- The name `a`, with the first filter: `a.json` is overwritten, and nobody was asked about it. -/
theorem exportEventsWithDialog_overwrites :
    ¬ WritesConfirmed {wide "C:\\a.json"} (wide "C:\\a")
      (exportEventsWithDialog .sample .succeed (.chosen (copyWstring maxPath (wide "C:\\a")) 1)
        eventStoreInitialize 0 maxPath 768) := by
  intro hconfirmed
  have hpath := @exportPath_eq .sample .succeed (copyWstring maxPath (wide "C:\\a")) 1
    eventStoreInitialize 0 maxPath 768
  rcases hconfirmed (wide "C:\\a.json") (hpath.trans (by decide)) with hsame | hnew
  · exact absurd hsame (by decide)
  · exact hnew rfl

end TraceGlass
