import Mathlib.Data.List.Basic

/-!
# The lines of a text

A line ends at a carriage return, at a line feed or at the two together; what follows the last line
break is a line if there is anything.  `lines_flatMap_eq_iff` says that records that were written
with a line break each are the lines of the text exactly if none of them has a line break of its
own.
-/

namespace TextLines

/-- The character ends a line. -/
def isBreak (c : Char) : Bool := c == '\r' || c == '\n'

/-- The lines of a text, with what the first line begins with. -/
def linesAfter : List Char → List Char → List (List Char)
  | [], [] => []
  | line, [] => [line]
  | line, '\r' :: '\n' :: text => line :: linesAfter [] text
  | line, c :: text =>
      if isBreak c then line :: linesAfter [] text else linesAfter (line ++ [c]) text

/-- The lines of a text. -/
def lines (text : List Char) : List (List Char) := linesAfter [] text

/-- No line break in a line. -/
def Unbroken (line : List Char) : Prop := ∀ c ∈ line, isBreak c = false

instance (line : List Char) : Decidable (Unbroken line) := List.decidableBAll _ _

/-- The line break of a record. -/
def lineBreak : List Char := ['\r', '\n']

lemma linesAfter_of_unbroken {line : List Char} (h : Unbroken line) (before text : List Char) :
    linesAfter before (line ++ lineBreak ++ text) = (before ++ line) :: lines text := by
  induction line generalizing before with
  | nil =>
    rw [List.append_nil]
    cases before <;> rfl
  | cons c line ih =>
    have hc : isBreak c = false := h c List.mem_cons_self
    have hreturn : c ≠ '\r' := by
      rintro rfl
      cases hc
    have hstep : linesAfter before (c :: (line ++ lineBreak ++ text)) =
        linesAfter (before ++ [c]) (line ++ lineBreak ++ text) := by
      rw [linesAfter]
      · rw [if_neg (by rw [hc]; decide)]
      · exact fun _ heq _ => hreturn heq
    rw [List.cons_append, List.cons_append, hstep, ih fun d hd => h d (List.mem_cons_of_mem _ hd),
      List.append_assoc, List.singleton_append]

/-- A record and its line break are a line of the text. -/
lemma lines_append_lineBreak {line : List Char} (h : Unbroken line) (text : List Char) :
    lines (line ++ lineBreak ++ text) = line :: lines text :=
  linesAfter_of_unbroken h [] text

lemma unbroken_of_mem_linesAfter {before text : List Char} (h : Unbroken before) :
    ∀ line ∈ linesAfter before text, Unbroken line := by
  fun_induction linesAfter before text with
  | case1 => simp
  | case2 line _ => simpa using h
  | case3 line text ih =>
    rintro line (_ | ⟨_, hline⟩)
    · exact h
    · exact ih (by simp [Unbroken]) line hline
  | case4 line c text _ _ ih =>
    rintro line (_ | ⟨_, hline⟩)
    · exact h
    · exact ih (by simp [Unbroken]) line hline
  | case5 line c text _ hc ih =>
    refine ih fun d hd => ?_
    rcases List.mem_append.mp hd with hd | hd
    · exact h d hd
    · rw [List.mem_singleton.mp hd]
      exact Bool.eq_false_iff.mpr hc

/-- No line of a text has a line break in it. -/
lemma unbroken_of_mem_lines {text line : List Char} (h : line ∈ lines text) : Unbroken line :=
  unbroken_of_mem_linesAfter (by simp [Unbroken]) line h

/-- **One line for each record** that was written with a line break after it, exactly if no record
has a line break in it. -/
theorem lines_flatMap_eq_iff {records : List (List Char)} :
    lines (records.flatMap (· ++ lineBreak)) = records ↔ ∀ record ∈ records, Unbroken record := by
  constructor
  · intro hlines record hrecord
    rw [← hlines] at hrecord
    exact unbroken_of_mem_lines hrecord
  · intro hunbroken
    induction records with
    | nil => rfl
    | cons record records ih =>
      rw [List.flatMap_cons, lines_append_lineBreak (hunbroken record List.mem_cons_self),
        ih fun record hrecord => hunbroken record (List.mem_cons_of_mem _ hrecord)]

end TextLines
