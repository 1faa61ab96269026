import SqlGauge.Proofs.Address.Grammar
import SqlGauge.Proofs.Number.Integer

/-!
# Settings without an address

Settings give an address, or a failure of the query that says why not: the text that was given as a whole
starts with no scheme, or the driver is none of the allowed ones (`Address.Reported`). A port is read as
an integer, and what is said about a port that is none is not turned into such a failure. So this is what
settings give unless the text has such a port (`Address.reported_ofSettings_iff`).
-/

namespace SqlGauge.Address

/-- The text has this port, and it is no integer. -/
structure Misported (text port : List Char) : Prop where
  written : ∃ parts, Written text parts ∧ parts.port = some port
  noInteger : ∀ number, ¬ Lenient.Integer port number

/-- What settings are to give: an address if the driver is allowed or the whole text starts with a
scheme, and otherwise a failure of the query that says why there is none. -/
inductive Reported (settings : Settings) : Except Trouble Address → Prop where
  | assembled (inParts : settings.dburl = "") (known : settings.driver ∈ Settings.allowedDrivers)
      (address : Address) : Reported settings (.ok address)
  | unsupported (inParts : settings.dburl = "")
      (unknown : settings.driver ∉ Settings.allowedDrivers) :
      Reported settings (.error (.failure
        { cause := .query ("unsupported driver: " ++ settings.driver) "" none }))
  | read {parts : Parts} (written : Written settings.dburl.toList parts) (address : Address) :
      Reported settings (.ok address)
  | invalid (whole : settings.dburl ≠ "")
      (schemeless : ∀ parts, ¬ Written settings.dburl.toList parts) :
      Reported settings (.error (.failure
        { cause := .query ("invalid db url: " ++ unreadable.message) ""
            (some (Trouble.fault unreadable).record) }))

/-! ## Drivers -/

theorem schemeOfDriver?_eq_none_iff {driver : String} :
    schemeOfDriver? driver = none ↔ driver ∉ Settings.allowedDrivers := by
  unfold schemeOfDriver? Settings.allowedDrivers
  rw [List.mem_pair, not_or]
  split
  · next hmysql => exact iff_of_false nofun fun h => h.1 hmysql
  · next hmysql =>
    split
    · next hpostgresql => exact iff_of_false nofun fun h => h.2 hpostgresql
    · next hpostgresql => exact iff_of_true rfl ⟨hmysql, hpostgresql⟩

/-! ## Ports -/

theorem readPort_some (text : List Char) :
    readPort (some text) = ((Lenient.integer (String.ofList text)).map some).mapError .port :=
  rfl

theorem readPort_eq_ok {text : List Char} {number : Int} (h : Lenient.Integer text number) :
    readPort (some text) = .ok (some number) := by
  rw [← String.toList_ofList (l := text)] at h
  rw [readPort_some, Lenient.integer_eq_ok_iff.mpr h]
  rfl

theorem readPort_eq_error {text : List Char} (h : ∀ number, ¬ Lenient.Integer text number) :
    ∃ refusal, readPort (some text) = .error (.port refusal) ∧
      (refusal = .notAnInteger (String.ofList text) ∨
        ∃ count, Refusal.digitLimit < count ∧ refusal = .tooManyDigits count) := by
  rw [readPort_some]
  cases hinteger : Lenient.integer (String.ofList text) with
  | ok number =>
    rw [Lenient.integer_eq_ok_iff, String.toList_ofList] at hinteger
    exact absurd hinteger (h number)
  | error refusal => exact ⟨refusal, rfl, Lenient.integer_error hinteger⟩

/-! ## What settings give -/

theorem reported_of_empty {settings : Settings} (h : settings.dburl = "") :
    Reported settings (ofSettings settings) := by
  unfold ofSettings assemble
  rw [if_pos h]
  split
  · next hnone => exact .unsupported h (schemeOfDriver?_eq_none_iff.mp hnone)
  · next scheme hscheme =>
    have hknown : settings.driver ∈ Settings.allowedDrivers := by
      by_contra hunknown
      rw [schemeOfDriver?_eq_none_iff.mpr hunknown] at hscheme
      cases hscheme
    exact .assembled h hknown _

theorem reported_of_schemeless {settings : Settings} (whole : settings.dburl ≠ "")
    (h : ∀ parts, ¬ Written settings.dburl.toList parts) :
    Reported settings (ofSettings settings) := by
  have hnone : readParts? settings.dburl.toList = none :=
    Option.eq_none_iff_forall_ne_some.mpr fun parts hparts => h parts (readParts?_eq_some_iff.mp hparts)
  rw [ofSettings_of_whole whole]
  unfold read
  rw [hnone]
  exact .invalid whole h

theorem read_of_written {text : String} {parts : Parts} (h : Written text.toList parts) :
    read text = (readPort parts.port).map (ofParts parts) := by
  unfold read
  rw [readParts?_eq_some_iff.mpr h]

/-- A written text gives an address just if its port is read. -/
theorem ofSettings_of_written {settings : Settings} {parts : Parts}
    (h : Written settings.dburl.toList parts) :
    ofSettings settings =
      match readPort parts.port with
      | .error flaw => .error flaw.trouble
      | .ok port => .ok { ofParts parts port with
          scheme := completeScheme (String.ofList parts.scheme) } := by
  have hwhole : settings.dburl ≠ "" := by
    intro hempty
    rw [hempty] at h
    obtain ⟨name, rest, htext, -⟩ := exists_written_iff.mp ⟨parts, h⟩
    exact absurd htext.symm (List.append_ne_nil_of_right_ne_nil name (List.cons_ne_nil _ _))
  rw [ofSettings_of_whole hwhole, read_of_written h]
  cases readPort parts.port <;> rfl

/-- Settings give what they are to give, unless the whole address has a port that is no integer. What
is said about such a port gets out as it is. -/
theorem reported_ofSettings_iff (settings : Settings) :
    (Reported settings (ofSettings settings) ↔ ∀ port, ¬ Misported settings.dburl.toList port) ∧
      ∀ port, Misported settings.dburl.toList port →
        ∃ refusal, ofSettings settings = .error (.refusal refusal) ∧
          (refusal = .notAnInteger (String.ofList port) ∨
            ∃ count, Refusal.digitLimit < count ∧ refusal = .tooManyDigits count) := by
  have hrefused : ∀ port, Misported settings.dburl.toList port →
      ∃ refusal, ofSettings settings = .error (.refusal refusal) ∧
        (refusal = .notAnInteger (String.ofList port) ∨
          ∃ count, Refusal.digitLimit < count ∧ refusal = .tooManyDigits count) := by
    rintro port ⟨⟨parts, hwritten, hport⟩, hnone⟩
    obtain ⟨refusal, hread, hrefusal⟩ := readPort_eq_error hnone
    refine ⟨refusal, ?_, hrefusal⟩
    rw [ofSettings_of_written hwritten, hport, hread]
    rfl
  refine ⟨⟨fun hreported port hmisported => ?_, fun hported => ?_⟩, hrefused⟩
  · -- what is reported is an address or a failure, never the refusal of a value
    obtain ⟨refusal, hrefusal, _⟩ := hrefused port hmisported
    rw [hrefusal] at hreported
    cases hreported
  · by_cases hwhole : settings.dburl = ""
    · exact reported_of_empty hwhole
    by_cases hwritten : ∃ parts, Written settings.dburl.toList parts
    · obtain ⟨parts, hwritten⟩ := hwritten
      rw [ofSettings_of_written hwritten]
      cases hport : parts.port with
      | none => exact .read hwritten _
      | some port =>
        by_cases hinteger : ∃ number, Lenient.Integer port number
        · obtain ⟨number, hnumber⟩ := hinteger
          rw [readPort_eq_ok hnumber]
          exact .read hwritten _
        · exact absurd ⟨⟨parts, hwritten, hport⟩, not_exists.mp hinteger⟩ (hported port)
    · exact reported_of_schemeless hwhole (not_exists.mp hwritten)

/-- A port of letters is not reported. -/
theorem not_reported_letters : ¬ ∀ settings, Reported settings (ofSettings settings) := by
  intro h
  have hletters : readPort (partsAfter [] "h:abc/d".toList).port =
      .error (.port (.notAnInteger "abc")) := by
    decide +kernel
  have hreported := h { ({} : Settings) with dburl := "mysql" ++ "://" ++ "h:abc/d" }
  rw [ofSettings_of_family {} (.head _) (.head _) "h:abc/d", hletters] at hreported
  cases hreported

end SqlGauge.Address
