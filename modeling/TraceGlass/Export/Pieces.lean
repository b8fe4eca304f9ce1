import TraceGlass.Export.Writers

/-!
# What a serializer owes when calls fail

The file of a format is a list of pieces, each of which one call of `write_all` or `write_utf8`
writes.  `Delivers env writer pieces` is what a writer owes for them whatever the system answers:
the file holds a prefix of their bytes, all of them when `TRUE` is returned, and `FALSE` is returned
only after a call made for one of the pieces has failed.  `Delivers.cons` composes the writers of a
`sequence`.
-/

namespace TraceGlass

open Unicode

/-! ## Pieces -/

/-- The UTF-8 form of any units. -/
def utf8Of (units : List WCHAR) : List BYTE := encodeUtf8 (decodeUtf16Lossy units)

/-- What one call writes. -/
inductive Piece
  | bytes (data : List BYTE)
  | text (units : List WCHAR)
  /-- Text that is put together in a buffer of this size first. -/
  | buffered (size : ℕ) (units : List WCHAR)

/-- The bytes of a piece in the file. -/
def Piece.encoded : Piece → List BYTE
  | .bytes data => data
  | .text units => utf8Of units
  | .buffered _ units => utf8Of units

/-- The bytes of several pieces. -/
def encodedPieces (pieces : List Piece) : List BYTE := pieces.flatMap Piece.encoded

@[simp] lemma encodedPieces_append (pieces pieces' : List Piece) :
    encodedPieces (pieces ++ pieces') = encodedPieces pieces ++ encodedPieces pieces' :=
  List.flatMap_append

/-- What `write_all` hands to `WriteFile` of the bytes that are left. -/
def chunkSize (data : List BYTE) : ℕ := if data.length > maxDword then maxDword else data.length

namespace ExportEnv

/-- `WideCharToMultiByte(CP_UTF8)`, where it answers, gives the UTF-8 form of the units. -/
def ReplacingUtf8 (env : ExportEnv) : Prop :=
  ∀ call units bytes, env.wideCharToMultiByte call units = some bytes → bytes = utf8Of units

/-- The `WriteFile` of this call, for the last bytes of the data, fails or writes nothing. -/
def StopsWriting (env : ExportEnv) (call : ℕ) (data : List BYTE) : Prop :=
  ∃ rest, rest <:+ data ∧ rest ≠ [] ∧
    (env.writeFile call (chunkSize rest) = none ∨ env.writeFile call (chunkSize rest) = some 0)

/-- The conversion of this call, the allocation for it or the write of its bytes fails. -/
def FailsText (env : ExportEnv) (call : ℕ) (units : List WCHAR) : Prop :=
  env.wideCharToMultiByte call units = none ∨ env.malloc call (utf8Of units).length = false ∨
    env.StopsWriting call (utf8Of units)

/-- This call is made for the piece, and fails. -/
def FailsOn (env : ExportEnv) (call : ℕ) : Piece → Prop
  | .bytes data => env.StopsWriting call data
  | .text units => env.FailsText call units
  | .buffered size units => env.malloc call size = false ∨ env.FailsText call units

/-- A system on which everything succeeds at once, and any units are converted. -/
def replacing : ExportEnv where
  wideCharToMultiByte := fun _ units => some (utf8Of units)
  malloc := fun _ _ => true
  writeFile := fun _ chunk => some (Fin.last chunk)

lemma replacingUtf8_replacing : replacing.ReplacingUtf8 := fun _ _ _ h => (Option.some.inj h).symm

lemma not_stopsWriting_replacing (call : ℕ) (data : List BYTE) :
    ¬ replacing.StopsWriting call data := by
  rintro ⟨rest, -, hne, hnone | hzero⟩
  · cases hnone
  · have hchunk : chunkSize rest = 0 := congrArg Fin.val (Option.some.inj hzero)
    have hpos := List.length_pos_iff.mpr hne
    unfold chunkSize at hchunk
    split at hchunk
    · cases hchunk
    · omega

lemma not_failsOn_replacing (call : ℕ) (piece : Piece) : ¬ replacing.FailsOn call piece := by
  have htext : ∀ units, ¬ replacing.FailsText call units := by
    rintro units (hnone | hmalloc | hstops)
    · cases hnone
    · cases hmalloc
    · exact not_stopsWriting_replacing call _ hstops
  cases piece with
  | bytes data => exact not_stopsWriting_replacing call data
  | text units => exact htext units
  | buffered size units =>
    rintro (hmalloc | hfails)
    · cases hmalloc
    · exact htext units hfails

lemma replacingUtf8_utf8 : utf8.ReplacingUtf8 := by
  intro _ units bytes h
  obtain ⟨text, htext, rfl⟩ := Option.map_eq_some_iff.mp h
  rw [utf8Of, decodeUtf16Lossy_of_decodeUtf16 htext]

end ExportEnv

/-! ## What a serializer owes -/

variable {env : ExportEnv}

/-- The writer writes the pieces, or stops at a call that fails. -/
structure Delivers (env : ExportEnv) (writer : Writer) (pieces : List Piece) : Prop where
  begins : ∀ file, ∃ written, written <+: encodedPieces pieces ∧
    (writer file).2.contents = file.contents ++ written
  completes : ∀ file, (writer file).1 = true →
    (writer file).2.contents = file.contents ++ encodedPieces pieces
  fails : ∀ file, (writer file).1 = false →
    ∃ call, (writer file).2.calls = call + 1 ∧ ∃ piece ∈ pieces, env.FailsOn call piece

lemma Delivers.returns_replacing {writer : Writer} {pieces : List Piece}
    (h : Delivers .replacing writer pieces) (file : ExportFile) : (writer file).1 = true := by
  by_contra hfalse
  obtain ⟨call, -, piece, -, hfails⟩ := h.fails file (Bool.eq_false_iff.mpr hfalse)
  exact ExportEnv.not_failsOn_replacing call piece hfails

/-- A writer with nothing to write. -/
lemma Delivers.idle {writer : Writer} {pieces : List Piece}
    (hwriter : ∀ file, writer file = (true, file)) (hempty : encodedPieces pieces = []) :
    Delivers env writer pieces where
  begins file := ⟨[], List.nil_prefix, by rw [hwriter, List.append_nil]⟩
  completes file _ := by rw [hwriter, hempty, List.append_nil]
  fails file hfalse := by
    rw [hwriter] at hfalse
    cases hfalse

lemma Delivers.nil : Delivers env (.sequence []) [] := .idle (fun _ => rfl) rfl

/-- One writer of a sequence: what it leaves undone the others do not go on with. -/
lemma Delivers.cons {writer : Writer} {writers : List Writer} {pieces pieces' : List Piece}
    (h : Delivers env writer pieces) (h' : Delivers env (.sequence writers) pieces') :
    Delivers env (.sequence (writer :: writers)) (pieces ++ pieces') := by
  have hsequence : ∀ file, Writer.sequence (writer :: writers) file =
      if (writer file).1 = true then Writer.sequence writers (writer file).2 else writer file := by
    intro file
    simp only [Writer.sequence, List.foldr_cons, Writer.andThen]
    cases hresult : writer file with
    | mk ok file' => cases ok <;> rfl
  constructor
  · intro file
    rw [hsequence, encodedPieces_append]
    by_cases hfirst : (writer file).1 = true
    · rw [if_pos hfirst]
      obtain ⟨written, hprefix, hcontents⟩ := h'.begins (writer file).2
      refine ⟨encodedPieces pieces ++ written, (List.prefix_append_right_inj _).mpr hprefix, ?_⟩
      rw [hcontents, h.completes file hfirst, List.append_assoc]
    · rw [if_neg hfirst]
      obtain ⟨written, hprefix, hcontents⟩ := h.begins file
      exact ⟨written, hprefix.trans (List.prefix_append _ _), hcontents⟩
  · intro file htrue
    rw [hsequence] at htrue ⊢
    by_cases hfirst : (writer file).1 = true
    · rw [if_pos hfirst] at htrue ⊢
      rw [h'.completes _ htrue, h.completes file hfirst, encodedPieces_append, List.append_assoc]
    · rw [if_neg hfirst] at htrue
      exact absurd htrue hfirst
  · intro file hfalse
    rw [hsequence] at hfalse ⊢
    by_cases hfirst : (writer file).1 = true
    · rw [if_pos hfirst] at hfalse ⊢
      obtain ⟨call, hcalls, piece, hpiece, hfails⟩ := h'.fails _ hfalse
      exact ⟨call, hcalls, piece, List.mem_append_right _ hpiece, hfails⟩
    · rw [if_neg hfirst] at hfalse ⊢
      obtain ⟨call, hcalls, piece, hpiece, hfails⟩ := h.fails file hfalse
      exact ⟨call, hcalls, piece, List.mem_append_left _ hpiece, hfails⟩

/-- The writers of a sequence, each with its own pieces. -/
lemma Delivers.sequence {writers : List Writer} {pieces : List (List Piece)}
    (h : List.Forall₂ (Delivers env) writers pieces) :
    Delivers env (.sequence writers) pieces.flatten := by
  induction h with
  | nil => exact .nil
  | cons hwriter _ ih => exact .cons hwriter ih

/-! ## `write_all` and `write_utf8` -/

/-- What a failing call leaves of some last bytes it leaves of all of them. -/
lemma ExportEnv.StopsWriting.of_suffix {call : ℕ} {data rest : List BYTE} (hsuffix : rest <:+ data)
    (h : env.StopsWriting call rest) : env.StopsWriting call data := by
  obtain ⟨rest', hsuffix', hne, hstops⟩ := h
  exact ⟨rest', hsuffix'.trans hsuffix, hne, hstops⟩

/-- One round of the loop of `write_all`: the call fails, or some bytes are written and the loop
goes on with the rest of them, whatever fuel there is. -/
lemma writeAllLoop_round (b : BYTE) (data : List BYTE) (file : ExportFile) :
    (env.StopsWriting file.calls (b :: data) ∧
      ∀ fuel, writeAllLoop env (fuel + 1) (b :: data) file = (false, file.tick)) ∨
    ∃ written, 0 < written ∧ ∀ fuel,
      writeAllLoop env (fuel + 1) (b :: data) file =
        writeAllLoop env fuel ((b :: data).drop written)
          { file.tick with contents := file.contents ++ (b :: data).take written } := by
  simp only [writeAllLoop]
  cases hwrite : env.writeFile file.calls
      (if (b :: data).length > maxDword then maxDword else (b :: data).length) with
  | none =>
    exact .inl ⟨⟨b :: data, List.suffix_refl _, List.cons_ne_nil _ _, .inl hwrite⟩, fun _ => rfl⟩
  | some written =>
    by_cases hzero : written = 0
    · rw [hzero] at hwrite
      simp only [if_pos hzero]
      exact .inl
        ⟨⟨b :: data, List.suffix_refl _, List.cons_ne_nil _ _, .inr hwrite⟩, fun _ => trivial⟩
    · simp only [if_neg hzero]
      exact .inr ⟨written, Fin.pos_iff_ne_zero.mpr hzero, fun _ => rfl⟩

lemma length_drop_le {b : BYTE} {data : List BYTE} {written fuel : ℕ} (hpos : 0 < written)
    (hfuel : (b :: data).length ≤ fuel + 1) : ((b :: data).drop written).length ≤ fuel := by
  rw [List.length_drop]
  omega

/-- Rounds beyond the number of bytes are never begun. -/
lemma writeAllLoop_congr {fuel fuel' : ℕ} {data : List BYTE} (hfuel : data.length ≤ fuel)
    (hfuel' : data.length ≤ fuel') :
    writeAllLoop env fuel data = writeAllLoop env fuel' data := by
  induction fuel generalizing fuel' data with
  | zero =>
    obtain rfl : data = [] := List.eq_nil_of_length_eq_zero (Nat.le_zero.mp hfuel)
    cases fuel' <;> rfl
  | succ fuel ih =>
    cases data with
    | nil => cases fuel' <;> rfl
    | cons b data =>
      obtain ⟨fuel', rfl⟩ : ∃ n, fuel' = n + 1 :=
        Nat.exists_eq_succ_of_ne_zero (Nat.ne_of_gt (Nat.lt_of_lt_of_le (Nat.succ_pos _) hfuel'))
      funext file
      rcases @writeAllLoop_round env b data file with ⟨-, hstop⟩ | ⟨written, hpos, hgo⟩
      · rw [hstop, hstop]
      · rw [hgo, hgo, ih (length_drop_le hpos hfuel) (length_drop_le hpos hfuel')]

/-- **`write_all`**: what was written so far begins the data, however small the writes are. -/
lemma delivers_writeAllLoop {fuel : ℕ} {data : List BYTE} (hfuel : data.length ≤ fuel) :
    Delivers env (writeAllLoop env fuel data) [.bytes data] := by
  have hencoded : ∀ data, encodedPieces [.bytes data] = data := fun data => List.append_nil data
  induction fuel generalizing data with
  | zero =>
    obtain rfl : data = [] := List.eq_nil_of_length_eq_zero (Nat.le_zero.mp hfuel)
    exact .idle (fun _ => rfl) rfl
  | succ fuel ih =>
    cases data with
    | nil => exact .idle (fun _ => rfl) rfl
    | cons b data =>
      constructor
      · intro file
        rw [hencoded]
        rcases writeAllLoop_round b data file with ⟨-, hstop⟩ | ⟨written, hpos, hgo⟩
        · rw [hstop]
          exact ⟨[], List.nil_prefix, (List.append_nil _).symm⟩
        · rw [hgo]
          obtain ⟨more, hprefix, hcontents⟩ := (ih (length_drop_le hpos hfuel)).begins
            { file.tick with contents := file.contents ++ (b :: data).take written }
          rw [hencoded] at hprefix
          refine ⟨(b :: data).take written ++ more, ?_, by rw [hcontents, List.append_assoc]⟩
          have hall := (List.prefix_append_right_inj ((b :: data).take written)).mpr hprefix
          rwa [List.take_append_drop] at hall
      · intro file htrue
        rw [hencoded]
        rcases writeAllLoop_round b data file with ⟨-, hstop⟩ | ⟨written, hpos, hgo⟩
        · rw [hstop] at htrue
          cases htrue
        · rw [hgo] at htrue ⊢
          rw [(ih (length_drop_le hpos hfuel)).completes _ htrue, hencoded, List.append_assoc,
            List.take_append_drop]
      · intro file hfalse
        rcases writeAllLoop_round b data file with ⟨hstops, hstop⟩ | ⟨written, hpos, hgo⟩
        · rw [hstop]
          exact ⟨file.calls, rfl, _, List.mem_singleton_self _, hstops⟩
        · rw [hgo] at hfalse ⊢
          obtain ⟨call, hcalls, piece, hpiece, hfails⟩ :=
            (ih (length_drop_le hpos hfuel)).fails _ hfalse
          rw [List.mem_singleton] at hpiece
          rw [hpiece] at hfails
          exact ⟨call, hcalls, _, List.mem_singleton_self _,
            ExportEnv.StopsWriting.of_suffix (List.drop_suffix _ _) hfails⟩

lemma delivers_writeAll (data : List BYTE) : Delivers env (writeAll env data) [.bytes data] :=
  delivers_writeAllLoop (Nat.le_refl _)

lemma length_utf8Of_pos {units : List WCHAR} (h : units ≠ []) : 0 < (utf8Of units).length :=
  length_encodeUtf8_pos (decodeUtf16Lossy_ne_nil h)

/-- The calls of `write_utf8` before its first write leave the file as it is. -/
lemma writeUtf8_cases (hutf8 : env.ReplacingUtf8) {units : List WCHAR} (hempty : units ≠ [])
    (hlength : units.length ≤ intMax) (file : ExportFile) :
    (∃ call, env.FailsText call units ∧
      writeUtf8 env units file = (false, ⟨file.contents, call + 1⟩)) ∨
    ∃ calls, writeUtf8 env units file = writeAll env (utf8Of units) ⟨file.contents, calls⟩ := by
  unfold writeUtf8
  rw [if_neg (Nat.not_lt.mpr hlength),
    if_neg fun hzero => hempty (List.length_eq_zero_iff.mp hzero)]
  cases hsized : env.wideCharToMultiByte file.calls units with
  | none => exact .inl ⟨file.calls, .inl hsized, rfl⟩
  | some sized =>
    obtain rfl := hutf8 _ _ _ hsized
    simp only [if_neg (Nat.ne_of_gt (length_utf8Of_pos hempty))]
    cases hmalloc : env.malloc file.tick.calls (utf8Of units).length with
    | false => exact .inl ⟨file.tick.calls, .inr (.inl hmalloc), rfl⟩
    | true =>
      simp only [Bool.not_true, Bool.false_eq_true, if_false]
      cases hbytes : env.wideCharToMultiByte file.tick.tick.calls units with
      | none => exact .inl ⟨file.tick.tick.calls, .inl hbytes, rfl⟩
      | some bytes =>
        obtain rfl := hutf8 _ _ _ hbytes
        simp only [ne_eq, not_true_eq_false, if_false]
        exact .inr ⟨file.tick.tick.tick.calls, rfl⟩

/-- **`write_utf8`**, on a text that is not too long for an `int`. -/
lemma delivers_writeUtf8 (hutf8 : env.ReplacingUtf8) {units : List WCHAR}
    (hlength : units.length ≤ intMax) : Delivers env (writeUtf8 env units) [.text units] := by
  by_cases hempty : units = []
  · subst hempty
    exact .idle (fun _ => rfl) rfl
  have hcases : ∀ file, _ := writeUtf8_cases hutf8 hempty hlength
  have hwrite : Delivers env _ _ := delivers_writeAll (utf8Of units)
  constructor
  · intro file
    rcases hcases file with ⟨call, -, hstop⟩ | ⟨calls, hgo⟩
    · rw [hstop]
      exact ⟨[], List.nil_prefix, (List.append_nil _).symm⟩
    · rw [hgo]
      exact hwrite.begins ⟨file.contents, calls⟩
  · intro file htrue
    rcases hcases file with ⟨call, -, hstop⟩ | ⟨calls, hgo⟩
    · rw [hstop] at htrue
      cases htrue
    · rw [hgo] at htrue ⊢
      exact hwrite.completes _ htrue
  · intro file hfalse
    rcases hcases file with ⟨call, hfails, hstop⟩ | ⟨calls, hgo⟩
    · rw [hstop]
      exact ⟨call, rfl, _, List.mem_singleton_self _, hfails⟩
    · rw [hgo] at hfalse ⊢
      obtain ⟨call, hcalls, piece, hpiece, hfails⟩ := hwrite.fails _ hfalse
      rw [List.mem_singleton] at hpiece
      rw [hpiece] at hfails
      exact ⟨call, hcalls, _, List.mem_singleton_self _, .inr (.inr hfails)⟩

/-- A writer that allocates a buffer for the text first. -/
lemma Delivers.buffered {writer : Writer} {size : ℕ} {units : List WCHAR}
    (h : Delivers env (writeUtf8 env units) [.text units])
    (hwriter : ∀ file, writer file =
      if !env.malloc file.calls size then (false, file.tick) else writeUtf8 env units file.tick) :
    Delivers env writer [.buffered size units] := by
  constructor
  · intro file
    rw [hwriter]
    cases env.malloc file.calls size with
    | false => exact ⟨[], List.nil_prefix, (List.append_nil _).symm⟩
    | true => exact h.begins file.tick
  · intro file htrue
    rw [hwriter] at htrue ⊢
    cases hmalloc : env.malloc file.calls size with
    | false =>
      rw [hmalloc] at htrue
      cases htrue
    | true =>
      rw [hmalloc] at htrue
      exact h.completes file.tick htrue
  · intro file hfalse
    rw [hwriter] at hfalse ⊢
    cases hmalloc : env.malloc file.calls size with
    | false => exact ⟨file.calls, rfl, _, List.mem_singleton_self _, .inl hmalloc⟩
    | true =>
      rw [hmalloc] at hfalse
      obtain ⟨call, hcalls, piece, hpiece, hfails⟩ := h.fails file.tick hfalse
      rw [List.mem_singleton] at hpiece
      rw [hpiece] at hfails
      exact ⟨call, hcalls, _, List.mem_singleton_self _, .inr hfails⟩

end TraceGlass
