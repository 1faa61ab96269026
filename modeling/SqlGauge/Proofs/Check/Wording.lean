import SqlGauge.Proofs.Check.Course
import SqlGauge.Proofs.Result
import SqlGauge.Proofs.Text.Line
import SqlGauge.Proofs.Threshold.Reading

/-!
# The wording of a check

Of what a check says, this is in one line whatever it is about: the text of a threshold that could be
read (`Threshold.unbroken_text_of_read`), trouble with the address and the deadlines
(`Session.failsAs_opening`), and trouble with the cells of a result. What the database raises is told
as it is; `Cursor.of_measure_eq_error` tells the two apart.
-/

namespace SqlGauge

/-! ## Failures -/

theorem Failure.unbroken_message_iff {failure : Failure} :
    Text.Unbroken failure.message ↔
      (Text.Unbroken failure.cause.message ∧ ∀ record ∈ failure.released, Text.Unbroken record.text) ∧
        Text.Unbroken failure.cause.statementNote := by
  have hmark : Text.Unbroken "; release error: " := by decide
  unfold message
  rw [Text.unbroken_append]
  cases failure.released with
  | none => simp
  | some record =>
    simp only [Text.unbroken_append, Option.mem_def, Option.some.injEq, forall_eq']
    rw [and_iff_left hmark]

/-- The part of a statement that messages show. -/
def preview (statement : String) : String :=
  String.ofList (statement.toList.take 200)

/-- The note about a statement is broken just if the part of it that is shown is. -/
theorem Cause.unbroken_statementNote_iff {message statement : String} {origin : Option Record} :
    Text.Unbroken (query message statement origin).statementNote ↔
      Text.Unbroken (preview statement) := by
  have hopen : Text.Unbroken " (SQL: " := by decide
  have hclose : Text.Unbroken ")" := by decide
  have hcut : Text.Unbroken "...)" := by decide
  unfold statementNote preview
  dsimp only
  by_cases hempty : statement = ""
  · subst hempty
    exact iff_of_true (by decide) (by decide)
  · rw [if_neg hempty]
    by_cases hlong : 200 < statement.length
    · rw [if_pos hlong, Text.unbroken_append, Text.unbroken_append, and_iff_left hcut,
        and_iff_right hopen]
    · have htake : statement.toList.take 200 = statement.toList := by
        apply List.take_of_length_le
        rw [String.length_toList]
        omega
      rw [if_neg hlong, htake, String.ofList_toList, Text.unbroken_append, Text.unbroken_append,
        and_iff_left hclose, and_iff_right hopen]

/-! ## Thresholds -/

namespace Threshold

theorem newline_notMem_of_readBound {token : List Char} {bound : Binary64}
    (h : readBound token = .ok bound) : '\n' ∉ token := by
  obtain ⟨d, hd, _⟩ := readBound_eq_ok_iff.mp h
  exact Decimal.notMem_of_read? hd (by decide)

theorem newline_notMem_of_readBounds {body : List Char} {lower upper : Binary64}
    (h : readBounds body = .ok (lower, upper)) : '\n' ∉ body := by
  rcases readBounds_eq_ok_iff.mp h with
    ⟨start, stop, rfl, _, _, _, hstart, hstop⟩ | ⟨_, _, _, hbound⟩
  · have hstart : '\n' ∉ start := by
      unfold readStart at hstart
      split at hstart
      · next hopen =>
        rcases hopen with rfl | rfl
        · exact List.not_mem_nil
        · decide
      · exact newline_notMem_of_readBound hstart
    have hstop : '\n' ∉ stop := by
      unfold readStop at hstop
      split at hstop
      · next hnone =>
        subst hnone
        exact List.not_mem_nil
      · exact newline_notMem_of_readBound hstop
    rw [List.mem_append, List.mem_cons, not_or, not_or]
    exact ⟨hstart, by decide, hstop⟩
  · exact newline_notMem_of_readBound hbound

/-- A text with a line feed is no threshold. -/
theorem unbroken_text_of_read {spec : String} {threshold : Threshold}
    (h : read spec = .ok threshold) : Text.Unbroken threshold.text := by
  rcases read_eq_ok_iff.mp h with ⟨_, rfl⟩ | ⟨hspec, lower, upper, hbounds, _, rfl⟩
  · decide
  · have hbody := newline_notMem_of_readBounds hbounds
    have htext : text (.range ⟨spec.toList.head? = some '@', lower, upper, spec⟩) = spec :=
      if_neg hspec
    rw [htext]
    unfold bodyOf at hbody
    unfold Text.Unbroken
    split at hbody
    · next hmark =>
      -- the mark that was taken off is no line feed either
      cases hchars : spec.toList with
      | nil => exact List.not_mem_nil
      | cons c rest =>
        rw [hchars] at hmark hbody
        cases hmark
        rw [List.mem_cons, not_or]
        exact ⟨by decide, hbody⟩
    · exact hbody

end Threshold

/-! ## Plain values -/

/-- The refusals of texts that are no numbers, of cells and of timeouts. -/
theorem Refusal.unbroken_message (refusal : Refusal) : Text.Unbroken refusal.message := by
  cases refusal with
  | notAFloat text =>
    exact Text.unbroken_append.mpr ⟨.literal rfl (by decide), Text.unbroken_quoted text⟩
  | notAnInteger text =>
    refine Text.unbroken_append.mpr ⟨.literal rfl (by decide), Text.unbroken_ofList.mpr fun h => ?_⟩
    exact Text.newline_notMem_quotedChars text.toList (List.mem_of_mem_take h)
  | tooManyDigits count =>
    refine Text.unbroken_append.mpr ⟨Text.unbroken_append.mpr ⟨?_, Text.unbroken_nat count⟩, ?_⟩
    · exact .literal rfl (by decide)
    · exact .literal rfl (by decide)
  | tooLongToWrite =>
    exact Text.unbroken_append.mpr ⟨.literal rfl (by decide), .literal rfl (by decide)⟩
  | notIterable kind => cases kind <;> decide
  | noFirstCell form => cases form <;> exact .literal rfl (by decide)
  | tooDeep nesting =>
    refine Text.unbroken_append.mpr ⟨Text.unbroken_append.mpr ⟨.literal rfl (by decide), ?_⟩,
      .literal rfl (by decide)⟩
    cases nesting <;> exact .literal rfl (by decide)
  | emptyList demand => cases demand <;> exact .literal rfl (by decide)
  | nanToInteger => exact .literal rfl (by decide)
  | infinityToInteger => exact .literal rfl (by decide)

/-! ## Opening -/

namespace Session

/-- With a driver that is there, whatever stands in the way of an address or of deadlines is told in
one line. -/
theorem failsAs_opening {settings : Settings} (h : settings.driver ∈ Settings.allowedDrivers) :
    FailsAs (fun trouble => Text.Unbroken trouble.message) (opening settings) := by
  have haddress : FailsAs (fun trouble : Trouble => Text.Unbroken trouble.message)
      (Address.ofSettings settings) := by
    unfold Address.ofSettings
    split
    · unfold Address.assemble
      split
      · next hnone =>
        -- the drivers there are have a scheme each
        unfold Settings.allowedDrivers at h
        rw [List.mem_cons, List.mem_singleton] at h
        rcases h with hdriver | hdriver
        · rw [hdriver] at hnone
          cases hnone
        · rw [hdriver] at hnone
          cases hnone
      · exact .ok _
    · split
      · next flaw _ =>
        refine .error ?_
        cases flaw with
        | unreadable => decide
        | port refusal => exact refusal.unbroken_message
      · exact .ok _
  unfold opening
  split
  · next trouble heq => exact .error (haddress trouble heq)
  · split
    · next refusal _ => exact .error refusal.unbroken_message
    · exact .ok _

end Session

/-! ## Cells -/

namespace Literal

theorem failsAs_hexBytes {letter : Char} {size : Nat} {digits : List Char} (hletter : letter ≠ '\n')
    (h : '\n' ∉ digits) :
    FailsAs (fun flaw => Text.Unbroken flaw.message) (hexBytes letter size digits) := by
  unfold hexBytes
  split
  · exact .error (by decide)
  split
  · exact .error (by decide)
  split
  · exact .ok _
  split
  · exact .ok _
  · refine .error (Text.unbroken_append.mpr ⟨by decide, Text.unbroken_ofList.mpr ?_⟩)
    rw [List.mem_cons, not_or]
    exact ⟨hletter.symm, h⟩

theorem failsAs_octalByte (digits : List Char) :
    FailsAs (fun flaw => Text.Unbroken flaw.message) (octalByte digits) := by
  unfold octalByte
  split
  · exact .error (by decide)
  · dsimp only
    split
    · exact .error (by decide)
    · exact .ok _

theorem failsAs_escape (quote : Char) {text : List Char} (h : '\n' ∉ text) :
    FailsAs (fun flaw => Text.Unbroken flaw.message) (escape quote text) := by
  cases text with
  | nil => exact .error (by decide)
  | cons letter rest =>
    rw [List.mem_cons, not_or] at h
    have hletter : letter ≠ '\n' := Ne.symm h.1
    rw [escape]
    split
    · exact .ok _
    · exact .map (failsAs_hexBytes hletter fun hmem => h.2 (List.mem_of_mem_take hmem))
    · split
      · exact .ok _
      split
      · exact .map (failsAs_octalByte _)
      · refine .error (Text.unbroken_append.mpr ⟨by decide, ?_⟩)
        unfold Text.Unbroken
        rw [String.toList_singleton, List.mem_singleton]
        exact h.1

theorem failsAs_bodyBytes (quote : Char) {body : List Char} (h : '\n' ∉ body) :
    FailsAs (fun flaw => Text.Unbroken flaw.message) (bodyBytes quote body) := by
  fun_induction bodyBytes quote body with
  | case1 => exact .ok _
  | case2 => exact .error (by decide)
  | case3 c rest _ _ ih =>
    rw [List.mem_cons, not_or] at h
    exact .map (ih h.2)
  | case4 c rest _ _ flaw heq =>
    rw [List.mem_cons, not_or] at h
    exact .error (failsAs_escape quote h.2 flaw heq)
  | case5 c rest _ _ bytes size heq ih =>
    rw [List.mem_cons, not_or] at h
    exact .map (ih fun hmem => h.2 (List.mem_of_mem_drop hmem))

theorem failsAs_readBody (quote : Char) (body : List Char) :
    FailsAs (fun flaw => Text.Unbroken flaw.message) (readBody quote body) := by
  unfold readBody
  split
  · split
    · exact .error (by decide)
    · exact .ok _
  · split
    · exact .error (by decide)
    · next hline =>
      rw [List.contains_iff_mem] at hline
      have hbytes := failsAs_bodyBytes quote hline
      split
      · next flaw heq => exact .error (hbytes flaw heq)
      · dsimp only
        split
        · exact .error (by decide)
        · exact .ok _

theorem failsAs_read (literal : String) :
    FailsAs (fun flaw => Text.Unbroken flaw.message) (read literal) := by
  unfold read
  split
  · exact .error (by decide)
  · split
    · exact .map (failsAs_readBody _ _)
    · exact .error (by decide)

end Literal

namespace Measurement

/-- Trouble met while reading is told in one line, apart from what is joined to it. -/
def IsPlain (trouble : Trouble) : Prop :=
  Text.Unbroken trouble.whileReading.message

theorem isPlain_refusal (refusal : Refusal) : IsPlain (.refusal refusal) := by
  have hmessage : (Trouble.refusal refusal).whileReading.message =
      "failed to read rows: " ++ refusal.message := String.append_empty
  unfold IsPlain
  rw [hmessage]
  exact Text.unbroken_append.mpr ⟨by decide, refusal.unbroken_message⟩

theorem isPlain_cause {cause : Cause} (hmessage : Text.Unbroken cause.message)
    (hnote : cause.statementNote = "") : IsPlain (.failure { cause }) := by
  refine Failure.unbroken_message_iff.mpr ⟨⟨hmessage, fun _ h => nomatch h⟩, ?_⟩
  show Text.Unbroken cause.statementNote
  rw [hnote]
  decide

theorem isPlain_notANumber (text : Option String) : IsPlain (notANumber text) := by
  refine isPlain_cause ?_ rfl
  cases text with
  | none => decide
  | some text =>
    exact Text.unbroken_append.mpr
      ⟨Text.unbroken_append.mpr ⟨by decide, Text.unbroken_quoted text⟩, by decide⟩

theorem failsAs_read (text : Option String) : FailsAs IsPlain (read text) := by
  unfold read
  split
  · exact .error (isPlain_notANumber none)
  · dsimp only
    split
    · split
      · exact .ok _
      · exact .error (isPlain_refusal _)
    · exact .ok _
    · exact .error (isPlain_notANumber _)

theorem failsAs_ofCell (unquote : Bool) (text : Option String) :
    FailsAs IsPlain (ofCell unquote text) := by
  unfold ofCell
  split
  · exact failsAs_read none
  · split
    · split
      · exact failsAs_read _
      · next text _ flaw heq =>
        refine .error (isPlain_cause ?_ rfl)
        refine Text.unbroken_append.mpr ⟨?_, Literal.failsAs_read _ flaw heq⟩
        rw [Text.unbroken_append, Text.unbroken_append]
        exact ⟨⟨by decide, Text.unbroken_quoted _⟩, by decide⟩
    · exact failsAs_read _

end Measurement

/-! ## Results -/

/-- Measuring meets the fault of the cursor or trouble that is told in one line. -/
theorem Cursor.of_measure_eq_error {unquote : Bool} {cursor : Cursor} {trouble : Trouble}
    (h : (cursor.measure unquote).result = .error trouble) :
    cursor.fault = some trouble ∨ Measurement.IsPlain trouble := by
  have hnoColumns : Text.Unbroken Cause.noColumnsText := by decide
  have hnoRows : Text.Unbroken Cause.noRowsText := by decide
  exact failsAs_measure unquote cursor (Measurement.isPlain_cause hnoColumns rfl)
    (Measurement.isPlain_cause hnoRows rfl) Measurement.isPlain_refusal
    (Measurement.failsAs_ofCell unquote) trouble h

end SqlGauge
