import TraceGlass.Export.Complete
import TraceGlass.Lib.TextLines

/-!
# The lines of a text export

The text format writes a record for each event, in full, and a line break after it.  Nothing is
escaped: a line break in a process name or in the details is one in the file.
`writeTextExport_lines_iff` says that the lines of the file are the records exactly if there is
none.
-/

namespace TraceGlass

open Unicode TextLines

variable {env : ExportEnv}

/-- The record of an event, as text. -/
def recordText (event : TraceGlassEvent) : List Char := decodeUtf16Lossy (textRecord event)

/-- A carriage return or a line feed among the units. -/
def HasLineBreak (units : List WCHAR) : Prop := 13 ∈ units ∨ 10 ∈ units

instance (units : List WCHAR) : Decidable (HasLineBreak units) :=
  inferInstanceAs (Decidable (_ ∨ _))

/-- The event's texts have no line break in them. -/
def OneLine (event : TraceGlassEvent) : Prop :=
  ¬ HasLineBreak event.processName.chars ∧ ¬ HasLineBreak event.details.chars

instance (event : TraceGlassEvent) : Decidable (OneLine event) :=
  inferInstanceAs (Decidable (_ ∧ _))

/-! ## Line breaks in a record -/

lemma hasLineBreak_append (units units' : List WCHAR) :
    HasLineBreak (units ++ units') ↔ HasLineBreak units ∨ HasLineBreak units' := by
  simp only [HasLineBreak, List.mem_append]
  tauto

/-- Decoding neither makes nor removes line breaks. -/
lemma unbroken_decodeUtf16Lossy (units : List WCHAR) :
    Unbroken (decodeUtf16Lossy units) ↔ ¬ HasLineBreak units := by
  have hreturn : '\r' ∈ decodeUtf16Lossy units ↔ 13 ∈ units := mem_decodeUtf16Lossy (by decide)
  have hfeed : '\n' ∈ decodeUtf16Lossy units ↔ 10 ∈ units := mem_decodeUtf16Lossy (by decide)
  rw [HasLineBreak, ← hreturn, ← hfeed]
  constructor
  · rintro hunbroken (hmem | hmem)
    · exact absurd (hunbroken _ hmem) (by decide)
    · exact absurd (hunbroken _ hmem) (by decide)
  · intro hnone c hc
    by_contra hbreak
    rw [Bool.not_eq_false, isBreak, Bool.or_eq_true, beq_iff_eq, beq_iff_eq] at hbreak
    rcases hbreak with rfl | rfl
    · exact hnone (.inl hc)
    · exact hnone (.inr hc)

/-- Nor do units from `0` on have any. -/
lemma not_hasLineBreak_of_le {units : List WCHAR} (h : ∀ u ∈ units, 48 ≤ u) :
    ¬ HasLineBreak units := by
  rintro (hmem | hmem)
  · exact absurd (h _ hmem) (by decide)
  · exact absurd (h _ hmem) (by decide)

lemma not_hasLineBreak_formatUnsigned (value : ℕ) : ¬ HasLineBreak (formatUnsigned value) :=
  not_hasLineBreak_of_le fun _ => le_of_mem_formatUnsigned

lemma not_hasLineBreak_formatPadded (width value : ℕ) :
    ¬ HasLineBreak (formatPadded width value) := by
  refine not_hasLineBreak_of_le fun u hu => ?_
  rcases List.mem_append.mp hu with hu | hu
  · rw [List.eq_of_mem_replicate hu]
    decide
  · exact le_of_mem_formatUnsigned hu

lemma not_hasLineBreak_timestampText (timestamp : SystemTime) :
    ¬ HasLineBreak (timestampText timestamp) := by
  have hdash : ¬ HasLineBreak (wide "-") := by decide
  have ht : ¬ HasLineBreak (wide "T") := by decide
  have hcolon : ¬ HasLineBreak (wide ":") := by decide
  have hdot : ¬ HasLineBreak (wide ".") := by decide
  simp only [timestampText, hasLineBreak_append, not_hasLineBreak_formatPadded, hdash, ht, hcolon,
    hdot, or_self, not_false_iff]

/-- So the line breaks of a record are those of the two texts. -/
lemma unbroken_recordText (event : TraceGlassEvent) :
    Unbroken (recordText event) ↔ OneLine event := by
  have hbar : ¬ HasLineBreak (wide " | ") := by decide
  have hpid : ¬ HasLineBreak (wide " | PID ") := by decide
  have hparent : ¬ HasLineBreak (wide " | Parent PID ") := by decide
  have htype : ¬ HasLineBreak (eventTypeName event.type) := by cases event.type <;> decide
  rw [recordText, unbroken_decodeUtf16Lossy, OneLine, ← not_or]
  simp only [textRecord, hasLineBreak_append, not_hasLineBreak_timestampText, hbar, htype, hpid,
    not_hasLineBreak_formatUnsigned, hparent, false_or, or_false]

/-! ## The file -/

lemma decodeUtf16Lossy_line (event : TraceGlassEvent) :
    decodeUtf16Lossy (textRecord event ++ wide "\r\n") = recordText event ++ lineBreak := by
  have hbreak : ∀ u ∈ (wide "\r\n").head?, ¬ (0xDC00 ≤ u ∧ u < 0xE000) := by
    intro u hu
    obtain rfl : (13 : WCHAR) = u := Option.some.inj hu
    decide
  rw [decodeUtf16Lossy_append _ hbreak, recordText]
  rfl

/-- What a finished export holds after the byte order mark: the records with a line break each. -/
lemma decode_writeTextExport (hutf8 : env.ReplacingUtf8) {store : EventStore} {firstEvent : ℕ}
    (hfirst : firstEvent ≤ store.eventCount) {calls : ℕ}
    (htrue : (writeTextExport env store firstEvent ⟨[], calls⟩).1 = true) :
    decodeUtf8 ((writeTextExport env store firstEvent ⟨[], calls⟩).2.contents.drop utf8Bom.length) =
      some (((store.events.drop firstEvent).map recordText).flatMap (· ++ lineBreak)) := by
  have hlines : ∀ events : List TraceGlassEvent,
      encodedPieces (events.flatMap textEventPieces) =
        encodeUtf8 ((events.map recordText).flatMap (· ++ lineBreak)) := by
    intro events
    induction events with
    | nil => rfl
    | cons event events ih =>
      have hline : encodedPieces (textEventPieces event) =
          encodeUtf8 (recordText event ++ lineBreak) := by
        rw [← decodeUtf16Lossy_line]
        exact List.append_nil _
      rw [List.flatMap_cons, encodedPieces_append, ih, hline, List.map_cons, List.flatMap_cons,
        ← encodeUtf8_append]
  have hcontents := (delivers_writeTextExport hutf8 hfirst).completes _ htrue
  have hencoded : encodedPieces (exportPieces (store.events.drop firstEvent) .text) =
      utf8Bom ++ encodedPieces ((store.events.drop firstEvent).flatMap textEventPieces) := rfl
  rw [hcontents, hencoded, List.nil_append, List.drop_left, hlines, decodeUtf8_encodeUtf8]

/-- **When a text export has one line for each event.**  The lines of the file, after the byte order
mark, are the records of the exported events in order, each in full, exactly if no line break stands
in the process name or the details of any of them. -/
theorem writeTextExport_lines_iff (hutf8 : env.ReplacingUtf8) (store : EventStore) (firstEvent : ℕ)
    (hfirst : firstEvent ≤ store.eventCount) (calls : ℕ)
    (htrue : (writeTextExport env store firstEvent ⟨[], calls⟩).1 = true) :
    (decodeUtf8
        ((writeTextExport env store firstEvent ⟨[], calls⟩).2.contents.drop utf8Bom.length)).map
      lines = some ((store.events.drop firstEvent).map recordText) ↔
      ∀ event ∈ store.events.drop firstEvent, OneLine event := by
  rw [decode_writeTextExport hutf8 hfirst htrue, Option.map_some, Option.some_inj,
    lines_flatMap_eq_iff, List.forall_mem_map]
  exact forall₂_congr fun event _ => unbroken_recordText event

/-- One process of this name, which started with these details. -/
def startedWith (processName details : String) : EventStore :=
  addEvent eventStoreInitialize
    { TraceGlassEvent.zero with
      process := ⟨8, 5⟩
      processName := copyWstring maxPath (wide processName)
      details := copyWstring detailLength (wide details) }

lemma writeTextExport_replacing (store : EventStore) :
    (writeTextExport .replacing store 0 ⟨[], 0⟩).1 = true :=
  (delivers_writeTextExport ExportEnv.replacingUtf8_replacing (Nat.zero_le _)).returns_replacing _

theorem writeTextExport_lines_iff_plain :
    (decodeUtf8 ((writeTextExport .replacing (startedWith "a.exe" "b") 0 ⟨[], 0⟩).2.contents.drop
        utf8Bom.length)).map lines =
      some (((startedWith "a.exe" "b").events.drop 0).map recordText) :=
  (writeTextExport_lines_iff ExportEnv.replacingUtf8_replacing (startedWith "a.exe" "b") 0
    (Nat.zero_le _) 0 (writeTextExport_replacing _)).mpr (by decide)

/-- Details with a line break in them make a second line, which can be any record at all. -/
theorem writeTextExport_forged :
    ¬ (decodeUtf8 ((writeTextExport .replacing (startedWith "a.exe" "b\r\nc") 0
        ⟨[], 0⟩).2.contents.drop utf8Bom.length)).map lines =
      some (((startedWith "a.exe" "b\r\nc").events.drop 0).map recordText) := by
  rw [decode_writeTextExport ExportEnv.replacingUtf8_replacing (Nat.zero_le _)
    (writeTextExport_replacing _), Option.map_some, Option.some_inj, lines_flatMap_eq_iff,
    List.forall_mem_map]
  intro hunbroken
  have honeLine : ∀ event ∈ (startedWith "a.exe" "b\r\nc").events.drop 0, OneLine event :=
    fun event hevent => (unbroken_recordText event).mp (hunbroken event hevent)
  exact absurd honeLine (by decide)

end TraceGlass
