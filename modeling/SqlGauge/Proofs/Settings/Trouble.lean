import SqlGauge.Probe.Draft
import SqlGauge.Program
import SqlGauge.Proofs.Result
import SqlGauge.Proofs.Text.Line

/-!
# Trouble with settings

Whatever settles the settings, reads an event or reads the thresholds either succeeds or meets
trouble `AboutSettings`: a failure with a message about settings, or a refusal. The database is not
asked yet, so no fault of its driver is met. The texts that a message is about are quoted in it, which
takes out what would break it into lines; only words of the command line may be repeated as they
are.

There is one lemma for each function but those that read the command line. `FailsAs` goes through the
steps of a function like the function itself.
-/

namespace SqlGauge

/-! ## Trouble about settings -/

/-- A failure that tells about settings, broken into lines just by the texts it repeats. -/
inductive Failure.TellsSettings (repeated : List String) : Failure → Prop where
  | of {message : String}
      (h : Text.Unbroken message ↔ ∀ text ∈ repeated, Text.Unbroken text) :
      TellsSettings repeated (.ofSettings message)

/-- Trouble about settings. -/
inductive Trouble.AboutSettings (repeated : List String) : Trouble → Prop where
  | failure {failure : Failure} (h : failure.TellsSettings repeated) :
      AboutSettings repeated (.failure failure)
  | refusal (refusal : Refusal) : AboutSettings repeated (.refusal refusal)

/-- A message that repeats nothing is told in one line. -/
theorem Failure.TellsSettings.plain {message : String} (h : Text.Unbroken message) :
    TellsSettings [] (.ofSettings message) :=
  .of (iff_of_true h (List.forall_mem_nil _))

theorem Failure.TellsSettings.unbroken_iff {repeated : List String} {failure : Failure}
    (h : failure.TellsSettings repeated) :
    Text.Unbroken failure.message ↔ ∀ text ∈ repeated, Text.Unbroken text := by
  cases h with
  | @of message h =>
    have heq : (Failure.ofSettings message).message = message := String.append_empty
    rw [heq, h]

/-- A failure about settings is of their kind. -/
theorem Trouble.AboutSettings.kind {repeated : List String} {failure : Failure}
    (h : AboutSettings repeated (.failure failure)) : failure.cause.kind = .settings := by
  cases h with
  | failure htells =>
    cases htells
    rfl

/-! ## Conversions -/

theorem Setting.unbroken_path (setting : Setting) : Text.Unbroken setting.path := by
  cases setting <;> exact .literal rfl (by decide)

theorem aboutSettings_conversionFailure (kind : Kind) (text : String) (setting : Setting) :
    (conversionFailure kind text setting.path).AboutSettings [] := by
  refine .failure (.plain ?_)
  have hkind : Text.Unbroken kind.name := by cases kind <;> exact .literal rfl (by decide)
  simp only [Text.unbroken_append]
  exact ⟨⟨⟨⟨⟨.literal rfl (by decide), hkind⟩, .literal rfl (by decide)⟩,
    Text.unbroken_quoted text⟩, .literal rfl (by decide)⟩, setting.unbroken_path⟩

theorem Setting.failsAs_convert (setting : Setting) (raw : Json) :
    FailsAs (Trouble.AboutSettings []) (setting.convert raw) := by
  have hkind (kind : Kind) : FailsAs (Trouble.AboutSettings []) (kind.convert setting.path raw) := by
    cases kind with
    | text => exact .ok _
    | integer => exact .mapError fun _ _ => aboutSettings_conversionFailure _ _ setting
    | real => exact .mapError fun _ _ => aboutSettings_conversionFailure _ _ setting
    | truth =>
      simp only [Kind.convert]
      split
      · exact .ok _
      · exact .error (aboutSettings_conversionFailure _ _ setting)
    | list => exact .mapError fun refusal _ => .refusal refusal
  exact hkind setting.kind

namespace Settings

theorem failsAs_ofEnvironment (environment : Environment) :
    FailsAs (Trouble.AboutSettings []) (ofEnvironment environment) := by
  refine .foldlM (fun settings setting => .bind ?_ fun value _ => .ok _) _ _
  unfold Setting.fallback
  split
  · exact setting.failsAs_convert _
  · exact .ok _

/-! ## Limits -/

theorem unbroken_allowedDrivers : Text.Unbroken (String.intercalate ", " allowedDrivers) := by
  decide

theorem tellsSettings_driverFailure {shown : String} (h : Text.Unbroken shown) :
    (driverFailure shown).TellsSettings [] := by
  refine .plain ?_
  simp only [Text.unbroken_append]
  exact ⟨⟨⟨.literal rfl (by decide), h⟩, .literal rfl (by decide)⟩, unbroken_allowedDrivers⟩

theorem failsAs_validateTimeout (settings : Settings) :
    FailsAs (Failure.TellsSettings []) settings.validateTimeout := by
  unfold validateTimeout
  split
  · refine .error (.plain ?_)
    exact Text.unbroken_append.mpr ⟨.literal rfl (by decide), settings.timeout.unbroken_shortText⟩
  · exact .ok _

end Settings

namespace Draft

theorem failsAs_validateDriver (draft : Draft) :
    FailsAs (Failure.TellsSettings []) draft.validateDriver := by
  unfold validateDriver Settings.validateDriver
  split
  · exact .error (Settings.tellsSettings_driverFailure (by decide))
  · split
    · exact .ok _
    · exact .error (Settings.tellsSettings_driverFailure (Text.unbroken_quoted _))

theorem failsAs_need {repeated : List String} (draft : Draft) (setting : Setting)
    (demand : Demand) :
    FailsAs (Trouble.AboutSettings repeated) ((draft.need setting demand).mapError .refusal) :=
  .mapError fun refusal _ => .refusal refusal

theorem failsAs_validate (draft : Draft) :
    FailsAs (Trouble.AboutSettings []) draft.validate :=
  .bind (.mapError fun failure h => .failure (draft.failsAs_validateDriver failure h)) fun _ _ =>
    .bind (draft.failsAs_need .timeout .atMost) fun _ _ =>
      .mapError fun failure h => .failure (draft.settings.failsAs_validateTimeout failure h)

end Draft

/-! ## Events -/

namespace Annotations

theorem failsAs_overrides (annotations : List (String × Json)) :
    FailsAs (Trouble.AboutSettings []) (overrides annotations) := by
  induction annotations with
  | nil => exact .ok _
  | cons annotation rest ih =>
    obtain ⟨key, raw⟩ := annotation
    unfold overrides
    split
    · exact ih
    · rename_i setting _
      exact .bind (setting.failsAs_convert raw) fun _ _ => .bind ih fun _ _ => .ok _

theorem failsAs_optionalPart {name : String} (h : Text.Unbroken name)
    (fields : List (String × Json)) :
    FailsAs (Failure.TellsSettings []) (optionalPart name fields) := by
  unfold optionalPart
  split
  · exact .ok _
  · exact .ok _
  · split
    · exact .ok _
    · refine .error (.plain ?_)
      rw [Text.unbroken_append, Text.unbroken_append]
      exact ⟨⟨.literal rfl (by decide), h⟩, .literal rfl (by decide)⟩

theorem failsAs_requiredPart {name : String} (h : Text.Unbroken name)
    (event : List (String × Json)) :
    FailsAs (Failure.TellsSettings []) (requiredPart name event) := by
  unfold requiredPart
  split
  · exact .ok _
  · exact .error (.plain (Text.unbroken_append.mpr ⟨.literal rfl (by decide), h⟩))

theorem failsAs_ofPart (fields : List (String × Json)) :
    FailsAs (Trouble.AboutSettings []) (ofPart fields) := by
  refine .bind (.mapError fun failure h => .failure ?_) fun metadata _ => ?_
  · exact failsAs_optionalPart (.literal rfl (by decide)) _ failure h
  refine .bind (.mapError fun failure h => .failure ?_) fun annotations _ => ?_
  · exact failsAs_optionalPart (.literal rfl (by decide)) _ failure h
  · exact failsAs_overrides annotations

theorem failsAs_ofEvent (event : Json) : FailsAs (Trouble.AboutSettings []) (ofEvent event) := by
  unfold ofEvent
  split
  · refine .bind (.mapError fun failure h => .failure ?_) fun check _ => ?_
    · exact failsAs_requiredPart (.literal rfl (by decide)) _ failure h
    refine .bind (.mapError fun failure h => .failure ?_) fun entity _ => ?_
    · exact failsAs_requiredPart (.literal rfl (by decide)) _ failure h
    · exact .bind (failsAs_ofPart check) fun _ _ => .bind (failsAs_ofPart entity) fun _ _ => .ok _
  · exact .error (.failure (.plain (.literal rfl (by decide))))

end Annotations

theorem Draft.failsAs_overriddenBy (draft : Draft) (event : Json) :
    FailsAs (Trouble.AboutSettings []) (draft.overriddenBy event) := by
  refine .bind (Annotations.failsAs_ofEvent event) fun overrides _ => ?_
  split
  · exact .ok _
  · exact .bind (Draft.failsAs_validate _) fun _ _ => .ok _

namespace Program

theorem aboutSettings_eventFailure {complaint : String} (h : Text.Unbroken complaint) :
    (eventFailure complaint).AboutSettings [] :=
  .failure (.plain (Text.unbroken_append.mpr ⟨.literal rfl (by decide), h⟩))

theorem unbroken_placeText (text : List Char) (offset : Nat) :
    Text.Unbroken (Json.placeText text offset) := by
  unfold Json.placeText
  simp only [Text.unbroken_append]
  exact ⟨⟨⟨⟨⟨⟨.literal rfl (by decide), Text.unbroken_nat _⟩, .literal rfl (by decide)⟩,
    Text.unbroken_nat _⟩, .literal rfl (by decide)⟩, Text.unbroken_nat _⟩,
    .literal rfl (by decide)⟩

theorem failsAs_read (lines : String) :
    FailsAs (Trouble.AboutSettings []) ((Json.read lines).mapError eventTrouble) := by
  refine .mapError fun unreadable h => ?_
  unfold Json.read at h
  dsimp only at h
  split at h
  · cases h
  · cases h
    exact .refusal _
  · rename_i problem place _
    cases h
    have hproblem : Text.Unbroken problem.message := by
      cases problem <;> exact .literal rfl (by decide)
    refine aboutSettings_eventFailure ?_
    simp only [Text.unbroken_append]
    exact ⟨⟨hproblem, .literal rfl (by decide)⟩, unbroken_placeText _ _⟩

theorem failsAs_readEvent (text : String) :
    FailsAs (Trouble.AboutSettings []) (readEvent text) := by
  refine .bind (failsAs_read _) fun event _ => ?_
  split
  · exact .ok _
  · exact .error (aboutSettings_eventFailure (.literal rfl (by decide)))

end Program

/-! ## Thresholds -/

namespace Thresholds

theorem failsAs_readFlag {name : String} (h : Text.Unbroken name) (spec : String) :
    FailsAs (Failure.TellsSettings []) (readFlag name spec) := by
  refine .mapError fun flaw _ => .plain ?_
  have hflaw : Text.Unbroken flaw.message := by
    cases flaw with
    | notANumber token =>
      refine Text.unbroken_append.mpr ⟨Text.unbroken_append.mpr ⟨?_, Text.unbroken_quoted _⟩, ?_⟩
      · exact .literal rfl (by decide)
      · exact .literal rfl (by decide)
    | _ => exact .literal rfl (by decide)
  have hmessage : (flaw.failure spec).message = flaw.message ++ ": " ++ Text.quoted spec :=
    String.append_empty
  rw [hmessage]
  simp only [Text.unbroken_append]
  exact ⟨⟨h, .literal rfl (by decide)⟩, ⟨hflaw, .literal rfl (by decide)⟩, Text.unbroken_quoted spec⟩

theorem failsAs_ofDraft (draft : Draft) :
    FailsAs (Trouble.AboutSettings []) (ofDraft draft) := by
  refine .bind (draft.failsAs_need .warning .start) fun _ _ => ?_
  refine .bind (.mapError fun failure h => .failure ?_) fun warning _ => ?_
  · exact failsAs_readFlag (.literal rfl (by decide)) _ failure h
  refine .bind (draft.failsAs_need .critical .start) fun _ _ => ?_
  refine .bind (.mapError fun failure h => .failure ?_) fun critical _ => ?_
  · exact failsAs_readFlag (.literal rfl (by decide)) _ failure h
  refine .bind (draft.failsAs_need .query .trimming) fun _ _ => ?_
  split
  · exact .error (.failure (.plain (.literal rfl (by decide))))
  · exact .ok _

end Thresholds

end SqlGauge
