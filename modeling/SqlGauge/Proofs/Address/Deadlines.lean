import SqlGauge.Proofs.Address.Scheme
import SqlGauge.Proofs.Number.Nearest
import SqlGauge.Proofs.Settings.Valid
import SqlGauge.Proofs.Threshold.Grammar

/-!
# Deadlines

A validated timeout is positive or no number at all (`Binary64.le_zero_eq_false_iff`), and a driver
module is given deadlines just if it is finite, for `psycopg2` even a thousand times
(`Deadlines.exists_choose_settled_iff`). Only what is endless is refused, either as no number or as an
infinity (`Binary64.Endless`).

Deadlines for a backend and its module are in force, only that a timeout below a millisecond leaves a
statement of `psycopg2` without one. A scheme that was written out with the module but another backend
is given none (`Deadlines.choose_inForce_iff`).
-/

namespace SqlGauge

theorem Magnitude.value_pos_iff {m : Magnitude} : 0 < m.value ↔ 0 < m.units := by
  unfold value
  rw [div_pos_iff_of_pos_right Binary64.unitsPerOne_pos]
  exact Nat.cast_pos

/-! ## Numbers that end -/

namespace Binary64

/-- Why a number that does not end is no integer. -/
inductive Endless : Binary64 → Refusal → Prop where
  | nan : Endless nan .nanToInteger
  | infinite (negative : Bool) : Endless (infinite negative) .infinityToInteger

theorem exists_eq_finite {x : Binary64} (number : x ≠ nan) (ends : x.isInfinite = false) :
    ∃ negative m, x = finite negative m := by
  cases x with
  | nan => exact absurd rfl number
  | infinite => cases ends
  | finite negative m => exact ⟨negative, m, rfl⟩

/-- What is not at most zero is positive or no number. -/
theorem le_zero_eq_false_iff {x : Binary64} :
    x.le (zero false) = false ↔ (zero false).lt x = true ∨ x = nan := by
  by_cases hnan : x = nan
  · subst hnan
    simp
  · have hzero : zero false ≠ nan := nofun
    have horder := lt_eq_false_iff_le hnan hzero
    rw [or_iff_left hnan, ← Bool.not_eq_true, ← horder, Bool.not_eq_false]

theorem zero_lt_iff_rank? {x : Binary64} :
    (zero false).lt x = true ↔ ∃ rank, x.rank? = some rank ∧ 0 < rank := by
  have hzero : (zero false).rank? = some 0 := rfl
  unfold lt
  rw [hzero]
  cases x.rank? <;> simp

theorem zero_lt_iff {x : Binary64} :
    (zero false).lt x = true ↔ x = infinite false ∨ ∃ m, x = finite false m ∧ 0 < m.value := by
  rw [zero_lt_iff_rank?]
  constructor
  · rintro ⟨rank, hrank, hpos⟩
    cases x with
    | nan => cases hrank
    | infinite negative =>
      cases negative with
      | false => exact .inl rfl
      | true =>
        have hlimit : -(unitsLimit : Int) = rank := Option.some.inj hrank
        omega
    | finite negative m =>
      cases negative with
      | false =>
        cases hrank
        exact .inr ⟨m, rfl, Magnitude.value_pos_iff.mpr (Int.natCast_pos.mp hpos)⟩
      | true =>
        cases hrank
        exact absurd hpos (not_lt.mpr (Int.neg_nonpos_of_nonneg (Int.natCast_nonneg m.units)))
  · rintro (rfl | ⟨m, rfl, hpos⟩)
    · exact ⟨_, rfl, Int.natCast_pos.mpr unitsLimit_pos⟩
    · exact ⟨_, rfl, Int.natCast_pos.mpr (Magnitude.value_pos_iff.mp hpos)⟩

/-- The product with a whole number is the double that is nearest to it. -/
theorem nearest_scale (negative : Bool) (m : Magnitude) (factor : Nat) :
    Nearest negative (factor * m.value) ((finite negative m).scale factor) := by
  refine nearest_ofRatio negative Nat.one_pos ?_
  have hunits := unitsPerOne_mul_value m
  push_cast
  rw [← hunits]
  ring

/-- A positive number that ends when it is multiplied by a thousand ends itself, and the product is
positive too. -/
theorem exists_of_ends {x : Binary64} (positive : (zero false).lt x = true)
    (ends : ∃ negative product, x.scale 1000 = finite negative product) :
    ∃ m product, x = finite false m ∧ (finite false m).scale 1000 = finite false product := by
  obtain ⟨negative, product, hproduct⟩ := ends
  obtain rfl | ⟨m, rfl, _⟩ := zero_lt_iff.mp positive
  · cases hproduct
  · have hnearest := nearest_scale false m 1000
    rw [hproduct] at hnearest
    cases hnearest
    exact ⟨m, product, rfl, hproduct⟩

theorem units_of_ofRatio {negative other : Bool} {num den : Nat} {m : Magnitude}
    (h : ofRatio negative num den = finite other m) : m.units = roundUnits num den := by
  unfold ofRatio ofUnits at h
  split at h
  · cases h
    rfl
  · cases h

end Binary64

/-! ## Validated timeouts -/

/-- Settings that have been validated: as they are, as a command line gives them, or as an event that
overrides something leaves them. -/
inductive Draft.Settled (draft : Draft) : Prop where
  | validated (done : draft.validate = .ok ())
  | given {arguments : List String} {environment : Environment}
      (read : Settings.read arguments environment = .ok (.check draft))
  | overridden {before : Draft} {event : Json} {overrides : List Override}
      (found : Annotations.ofEvent event = .ok overrides) (some : overrides ≠ [])
      (after : before.overriddenBy event = .ok draft)

theorem Draft.Settled.valid {draft : Draft} (h : draft.Settled) : draft.Valid := by
  cases h with
  | validated done => exact validate_eq_ok_iff.mp done
  | given read => exact Settings.valid_of_read read
  | overridden found some after =>
    obtain ⟨overrides, hfound, _, hnone | hvalid⟩ := overriddenBy_eq_ok_iff.mp after
    · rw [found] at hfound
      cases hfound
      exact absurd hnone some
    · exact hvalid

namespace Deadlines

open Binary64 (Endless overflow zero)
open Address (Family families)

/-! ## Integers of a timeout -/

theorem seconds_endless {timeout : Binary64} {refusal : Refusal} (h : Endless timeout refusal) :
    seconds timeout = .error refusal := by
  cases h <;> rfl

theorem exists_seconds (negative : Bool) (m : Magnitude) :
    ∃ count : Nat, 0 < count ∧ seconds (.finite negative m) = .ok count := by
  have hone : (1 : Int) ≤ max 1 (Binary64.signed negative (roundHalfEven m.units unitsPerOne)) :=
    Int.le_max_left _ _
  obtain ⟨count, hcount⟩ := Int.eq_ofNat_of_zero_le (Int.le_trans Int.one_nonneg hone)
  refine ⟨count, ?_, congrArg Except.ok hcount⟩
  rw [hcount] at hone
  exact_mod_cast hone

theorem milliseconds_of_scale {timeout : Binary64} {product : Magnitude}
    (h : timeout.scale 1000 = .finite false product) :
    milliseconds timeout = .ok (product.units / unitsPerOne : Nat) := by
  unfold milliseconds
  rw [h]
  rfl

theorem exists_scale_of_lt {m : Magnitude} (h : 1000 * m.value < overflow) :
    ∃ product, (Binary64.finite false m).scale 1000 = .finite false product := by
  have hnearest := Binary64.nearest_scale false m 1000
  generalize (Binary64.finite false m).scale 1000 = product at hnearest
  cases hnearest with
  | @finite product _ _ => exact ⟨product, rfl⟩
  | infinite beyond => exact absurd h (not_lt.mpr (by exact_mod_cast beyond))

theorem milliseconds_of_le {m : Magnitude} (h : overflow ≤ 1000 * m.value) :
    milliseconds (.finite false m) = .error .infinityToInteger := by
  have hnearest := Binary64.nearest_scale false m 1000
  unfold milliseconds
  generalize (Binary64.finite false m).scale 1000 = product at hnearest
  cases hnearest with
  | finite within _ => exact absurd h (not_le.mpr (by exact_mod_cast within))
  | infinite _ => rfl

/-! ## What is chosen -/

theorem choose_endless {timeout : Binary64} {refusal : Refusal} (h : Endless timeout refusal)
    (address : Address) : choose timeout address = .error refusal := by
  unfold choose
  rw [seconds_endless h]
  rfl

section

variable {address : Address} {more : List String}

theorem choose_pymysql (h : address.schemeParts = "mysql" :: "pymysql" :: more) (negative : Bool)
    (m : Magnitude) : ∃ count : Nat, 0 < count ∧
      choose (.finite negative m) address = .ok (.perTransfer count) := by
  obtain ⟨count, hcount, hseconds⟩ := exists_seconds negative m
  refine ⟨count, hcount, ?_⟩
  unfold choose
  rw [hseconds, h]
  rfl

theorem choose_psycopg2 (h : address.schemeParts = "postgresql" :: "psycopg2" :: more)
    {m product : Magnitude} (hproduct : (Binary64.finite false m).scale 1000 = .finite false product) :
    ∃ count : Nat, 0 < count ∧ choose (.finite false m) address =
      .ok (.perStatement count (product.units / unitsPerOne : Nat)) := by
  obtain ⟨count, hcount, hseconds⟩ := exists_seconds false m
  refine ⟨count, hcount, ?_⟩
  unfold choose
  rw [hseconds, h, milliseconds_of_scale hproduct]
  rfl

theorem choose_psycopg2_of_le (h : address.schemeParts = "postgresql" :: "psycopg2" :: more)
    {m : Magnitude} (hle : overflow ≤ 1000 * m.value) :
    choose (.finite false m) address = .error .infinityToInteger := by
  obtain ⟨count, _, hseconds⟩ := exists_seconds false m
  unfold choose
  rw [hseconds, h, milliseconds_of_le hle]
  rfl

/-- Nothing is chosen for any other backend or module. -/
theorem choose_unlimited
    (h : ∀ family ∈ families, ∀ more,
      address.schemeParts ≠ family.backend :: family.driverModule :: more)
    (negative : Bool) (m : Magnitude) : choose (.finite negative m) address = .ok .unlimited := by
  obtain ⟨count, _, hseconds⟩ := exists_seconds negative m
  unfold choose
  rw [hseconds]
  dsimp only [bind, Except.bind]
  split
  · next more hparts => exact absurd hparts (h _ (.head _) more)
  · next more hparts => exact absurd hparts (h _ (.tail _ (.head _)) more)
  · rfl

end

/-! ## Usable timeouts -/

/-- A validated timeout is positive or no number. Deadlines come of it just if it is finite, for
`psycopg2` also a thousand times; otherwise it is refused, as no number or as an infinity. -/
theorem exists_choose_settled_iff {draft : Draft} (settled : draft.Settled) {address : Address}
    (known : address.scheme = "mysql+pymysql" ∨ address.scheme = "postgresql+psycopg2") :
    ((zero false).lt draft.settings.timeout = true ↔ draft.settings.timeout ≠ .nan) ∧
      ((∃ deadlines, choose draft.settings.timeout address = .ok deadlines) ↔
        ∃ m, draft.settings.timeout = .finite false m ∧ 0 < m.value ∧
          (address.scheme = "postgresql+psycopg2" → 1000 * m.value < overflow)) ∧
      ∀ refusal, choose draft.settings.timeout address = .error refusal →
        refusal =
          if draft.settings.timeout = .nan then .nanToInteger else .infinityToInteger := by
  have hpositive := Binary64.le_zero_eq_false_iff.mp settled.valid.timeout
  generalize draft.settings.timeout = timeout at hpositive
  rw [Binary64.zero_lt_iff] at hpositive ⊢
  rcases hpositive with (rfl | ⟨m, rfl, hm⟩) | rfl
  · -- an infinity is positive all the same
    have hchosen := choose_endless (.infinite false) address
    refine ⟨by simp, by simp [hchosen], fun refusal hrefused => ?_⟩
    rw [hchosen] at hrefused
    cases hrefused
    rfl
  · refine ⟨iff_of_true (.inr ⟨m, rfl, hm⟩) nofun, ?_⟩
    rcases known with hscheme | hscheme
    · have hparts := Address.schemeParts_of_family (.head _) hscheme
      obtain ⟨count, _, hchosen⟩ := choose_pymysql hparts false m
      rw [hchosen]
      refine ⟨iff_of_true ⟨_, rfl⟩ ⟨m, rfl, hm, fun hother => ?_⟩, nofun⟩
      rw [hscheme] at hother
      exact absurd hother (by decide)
    · have hparts := Address.schemeParts_of_family (.tail _ (.head _)) hscheme
      rcases lt_or_ge (1000 * m.value) overflow with hlt | hle
      · obtain ⟨product, hproduct⟩ := exists_scale_of_lt hlt
        obtain ⟨count, _, hchosen⟩ := choose_psycopg2 hparts hproduct
        rw [hchosen]
        exact ⟨iff_of_true ⟨_, rfl⟩ ⟨m, rfl, hm, fun _ => hlt⟩, nofun⟩
      · -- the timeout ends, but its milliseconds do not
        rw [choose_psycopg2_of_le hparts hle]
        refine ⟨iff_of_false nofun ?_, ?_⟩
        · rintro ⟨_, ⟨⟩, _, hlt⟩
          exact not_lt.mpr hle (hlt hscheme)
        · rintro refusal ⟨⟩
          rfl
  · have hchosen := choose_endless .nan address
    refine ⟨by simp, by simp [hchosen], fun refusal hrefused => ?_⟩
    rw [hchosen] at hrefused
    cases hrefused
    rfl

/-- The built-in timeout is positive, and deadlines come of it. -/
theorem exists_choose_settled_iff_default :
    Draft.Settled { settings := {} } ∧ (zero false).lt ({} : Settings).timeout = true ∧
      ∃ deadlines, choose ({} : Settings).timeout { scheme := "mysql+pymysql" } = .ok deadlines := by
  have hsettled : Draft.Settled { settings := {} } := .validated (by decide +kernel)
  have htheorem := @exists_choose_settled_iff _ hsettled { scheme := "mysql+pymysql" } (.inl rfl)
  obtain ⟨ten, hunits⟩ : ∃ ten : Magnitude, ten.units = 10 * unitsPerOne :=
    ⟨⟨10 * unitsPerOne, by decide +kernel⟩, rfl⟩
  have hten : ({} : Settings).timeout = .finite false ten := by
    rw [← Binary64.ofRatio_units_one, hunits]
  refine ⟨hsettled, htheorem.1.mpr ?_, htheorem.2.1.mpr ⟨ten, hten, ?_, fun h => ?_⟩⟩
  · rw [hten]
    exact nofun
  · rw [Magnitude.value_pos_iff, hunits]
    decide +kernel
  · exact absurd h (by decide)

/-- Validation lets pass what is no number, and no deadlines come of it. -/
theorem not_usable_nan :
    ¬ ∀ draft : Draft, draft.validate = .ok () → ∀ address : Address,
      address.scheme = "mysql+pymysql" ∨ address.scheme = "postgresql+psycopg2" →
        (zero false).lt draft.settings.timeout = true ∧
          ∃ deadlines, choose draft.settings.timeout address = .ok deadlines := by
  intro h
  have hpositive := h { settings := { timeout := .nan } } (by decide +kernel)
    { scheme := "mysql+pymysql" } (.inl rfl)
  obtain ⟨rank, hrank, _⟩ := Binary64.zero_lt_iff_rank?.mp hpositive.1
  cases hrank

/-! ## Deadlines in force -/

/-- Arguments for a driver module by which deadlines are in force. None of them is zero, which would
switch it off. -/
inductive InForce : String → List (String × String) → Prop where
  | pymysql {connect read write : Nat} (connecting : 0 < connect) (reading : 0 < read)
      (writing : 0 < write) :
      InForce "pymysql" [("connect_timeout", toString connect), ("read_timeout", toString read),
        ("write_timeout", toString write)]
  | psycopg2 {connect statement : Nat} (connecting : 0 < connect) (executing : 0 < statement) :
      InForce "psycopg2" [("connect_timeout", toString connect),
        ("options", "-c statement_timeout=" ++ toString statement)]

theorem not_inForce_nil (driverModule : String) : ¬ InForce driverModule [] := nofun

theorem toString_injective {a b : Nat} (h : toString a = toString b) : a = b := by
  rw [Nat.toString_eq_ofList_toDigits, Nat.toString_eq_ofList_toDigits, String.ofList_inj] at h
  rw [← @Nat.ofDigitChars_ten_toDigits a, h, Nat.ofDigitChars_ten_toDigits]

theorem inForce_perTransfer {count : Nat} (h : 0 < count) :
    InForce "pymysql" (perTransfer count).arguments :=
  .pymysql h h h

theorem InForce.statement {driverModule : String} {arguments : List (String × String)}
    (h : InForce driverModule arguments) (named : driverModule = "psycopg2") :
    ∃ connect statement : Nat, 0 < statement ∧ arguments = [("connect_timeout", toString connect),
      ("options", "-c statement_timeout=" ++ toString statement)] := by
  cases h with
  | pymysql => exact absurd named (by decide)
  | psycopg2 _ executing => exact ⟨_, _, executing, rfl⟩

theorem inForce_perStatement_iff {count statement : Nat} (h : 0 < count) :
    InForce "psycopg2" (perStatement count statement).arguments ↔ 0 < statement := by
  constructor
  · intro hforce
    obtain ⟨_, other, hother, harguments⟩ := hforce.statement rfl
    have hoption : "-c statement_timeout=" ++ toString statement =
        "-c statement_timeout=" ++ toString other :=
      congrArg Prod.snd (List.cons.inj (List.cons.inj harguments).2).1
    rw [String.append_right_inj] at hoption
    rwa [toString_injective hoption]
  · exact .psycopg2 h

/-! ## A thousandth -/

/-- The units of the double that is nearest to a thousandth. -/
def thousandth : Nat :=
  Binary64.roundUnits unitsPerOne 1000

/-- The least timeout that lasts a millisecond. -/
def aMillisecond : Binary64 :=
  .ofRatio false unitsPerOne 1000

/-- The step between the doubles next to a thousandth is this power of two. -/
def thousandthCut : Nat :=
  unitExponent - 62

theorem roundUnits_thousandth : Binary64.roundUnits (thousandth * 1000) 1 = unitsPerOne := by
  decide +kernel

/-- A thousand times the double below a thousandth is less than one. -/
theorem roundUnits_below_thousandth :
    Binary64.roundUnits ((thousandth - 2 ^ thousandthCut) * 1000) 1 < unitsPerOne := by
  decide +kernel

theorem two_pow_dvd_thousandth : 2 ^ thousandthCut ∣ thousandth := by
  decide +kernel

theorem two_pow_le_thousandth : 2 ^ (52 + thousandthCut) ≤ thousandth - 2 ^ thousandthCut := by
  decide +kernel

/-- What is less than a thousandth is at most the double below it. -/
theorem le_below_thousandth {m : Magnitude} (h : m.units < thousandth) :
    m.units ≤ thousandth - 2 ^ thousandthCut := by
  rcases Binary64.Fits.dvd_or_lt m.representable.2 thousandthCut with hdvd | hlt
  · have hgap := Nat.le_of_dvd (Nat.sub_pos_of_lt h) (Nat.dvd_sub two_pow_dvd_thousandth hdvd)
    omega
  · exact (hlt.trans_le two_pow_le_thousandth).le

/-- A product of a thousand and a timeout reaches one just if the timeout reaches a thousandth. -/
theorem unitsPerOne_le_iff {m product : Magnitude}
    (h : (Binary64.finite false m).scale 1000 = .finite false product) :
    unitsPerOne ≤ product.units ↔ aMillisecond.le (.finite false m) = true := by
  have hunits : product.units = Binary64.roundUnits (m.units * 1000) 1 :=
    Binary64.units_of_ofRatio h
  have horder : aMillisecond.le (.finite false m) = true ↔ thousandth ≤ m.units := by
    have hrank : aMillisecond.rank? = some (min thousandth unitsLimit : Nat) :=
      Binary64.rank?_ofRatio false (by decide)
    have hm : (Binary64.finite false m).rank? = some (m.units : Int) := rfl
    have hlimit := m.representable.1
    rw [Binary64.le_eq_true_iff, hrank, hm]
    constructor
    · rintro ⟨_, _, ⟨⟩, ⟨⟩, hle⟩
      omega
    · intro hle
      exact ⟨_, _, rfl, rfl, by omega⟩
  have hmono {a b : Nat} (hle : a ≤ b) :
      Binary64.roundUnits (a * 1000) 1 ≤ Binary64.roundUnits (b * 1000) 1 :=
    Binary64.roundUnits_mono Nat.one_pos Nat.one_pos
      (Nat.mul_le_mul_right 1 (Nat.mul_le_mul_right 1000 hle))
  rw [hunits, horder]
  constructor
  · -- rounding is monotone, so it is enough to look at the double next to a thousandth
    intro hone
    by_contra hless
    have hbelow := hmono (le_below_thousandth (Nat.lt_of_not_le hless))
    exact absurd (hone.trans hbelow) (Nat.not_le.mpr roundUnits_below_thousandth)
  · intro hreach
    have habove := hmono hreach
    rwa [roundUnits_thousandth] at habove

/-- Of each family the deadlines are in force, but those of `psycopg2` only from a millisecond on. -/
theorem choose_family_inForce_iff {family : Family} (known : family ∈ families) {address : Address}
    {more : List String} (h : address.schemeParts = family.backend :: family.driverModule :: more)
    {m product : Magnitude}
    (hproduct : (Binary64.finite false m).scale 1000 = .finite false product) :
    ∃ deadlines, choose (.finite false m) address = .ok deadlines ∧
      (InForce family.driverModule deadlines.arguments ↔
        (family.driverModule = "psycopg2" → aMillisecond.le (.finite false m) = true)) := by
  rcases List.mem_pair.mp known with rfl | rfl
  · obtain ⟨count, hcount, hchosen⟩ := choose_pymysql h false m
    refine ⟨_, hchosen, iff_of_true (inForce_perTransfer hcount) fun hother => ?_⟩
    exact absurd hother (by decide)
  · obtain ⟨count, hcount, hchosen⟩ := choose_psycopg2 h hproduct
    refine ⟨_, hchosen, ?_⟩
    have hwhole := unitsPerOne_le_iff hproduct
    rw [inForce_perStatement_iff hcount, imp_iff_right rfl, ← hwhole]
    exact Nat.div_pos_iff.trans (and_iff_right (Nat.cast_pos.mp Binary64.unitsPerOne_pos))

/-- Whenever an address selects a driver module that keeps deadlines, the timeout is turned into some.
They are in force just if the address names the backend of the module and, for `psycopg2`, the timeout
reaches a millisecond. Another backend with the module can only have been written out, and it is
given no deadlines. -/
theorem choose_inForce_iff {settings : Settings} {address : Address} {family : Family}
    (found : Address.ofSettings settings = .ok address) (known : family ∈ families)
    (selects : address.schemeParts[1]? = some family.driverModule)
    (positive : (zero false).lt settings.timeout = true)
    (ends : ∃ negative product, settings.timeout.scale 1000 = .finite negative product) :
    ∃ deadlines, choose settings.timeout address = .ok deadlines ∧
      (InForce family.driverModule deadlines.arguments ↔
        address.schemeParts[0]? = some family.backend ∧
          (family.driverModule = "psycopg2" → aMillisecond.le settings.timeout = true)) ∧
      (address.schemeParts[0]? ≠ some family.backend → deadlines = .unlimited ∧
        settings.dburl ≠ "" ∧ Address.read settings.dburl = .ok address ∧
          '+' ∈ address.scheme.toList) := by
  obtain ⟨m, product, htimeout, hproduct⟩ := Binary64.exists_of_ends positive ends
  rw [htimeout]
  obtain ⟨first, more, hparts⟩ : ∃ first more,
      address.schemeParts = first :: family.driverModule :: more := by
    match hparts : address.schemeParts, selects with
    | first :: _ :: more, rfl => exact ⟨first, more, rfl⟩
  by_cases hfirst : first = family.backend
  · subst hfirst
    obtain ⟨deadlines, hchosen, hforce⟩ := choose_family_inForce_iff known hparts hproduct
    refine ⟨deadlines, hchosen, ?_, fun hother => absurd (by rw [hparts]; rfl) hother⟩
    rw [hforce, hparts]
    exact (and_iff_right rfl).symm
  · -- no scheme that names a family has this module with another backend
    have hnone : ∀ named ∈ families, ∀ rest,
        address.schemeParts ≠ named.backend :: named.driverModule :: rest := by
      intro named hnamed rest heq
      rw [hparts] at heq
      obtain ⟨hbackend, hrest⟩ := List.cons.inj heq
      have hsame := Family.eq_of_driverModule hnamed known (List.cons.inj hrest).1.symm
      exact hfirst (hbackend.trans (congrArg Family.backend hsame))
    have hother : address.schemeParts[0]? ≠ some family.backend := by
      rw [hparts]
      exact fun h => hfirst (Option.some.inj h)
    refine ⟨.unlimited, choose_unlimited hnone false m, ?_, fun _ => ⟨rfl, ?_⟩⟩
    · exact iff_of_false (not_inForce_nil _) fun h => hother h.1
    · obtain ⟨named, hnamed, hscheme⟩ | hwritten | hsingle := Address.scheme_cases found
      · exact absurd (Address.schemeParts_of_family hnamed hscheme) (hnone named hnamed [])
      · exact hwritten
      · rw [hparts] at hsingle
        cases hsingle

example : choose ({} : Settings).timeout { scheme := "mariadb+pymysql" } = .ok .unlimited := by
  decide +kernel

/-- A timeout of a millisecond is in force. -/
theorem choose_inForce_iff_millisecond :
    ∃ deadlines, choose aMillisecond { scheme := "postgresql+psycopg2", host := some "h" } =
      .ok deadlines ∧ InForce "psycopg2" deadlines.arguments := by
  have hends : ∃ negative product, aMillisecond.scale 1000 = .finite negative product :=
    Binary64.exists_eq_finite (by decide +kernel) (by decide +kernel)
  have htheorem := @choose_inForce_iff { driver := "postgresql", host := "h", timeout := aMillisecond }
    { scheme := "postgresql+psycopg2", host := some "h" } _ (by decide +kernel)
    (.tail _ (.head _)) (by decide) (by decide +kernel)
  dsimp only at htheorem
  obtain ⟨deadlines, hchosen, hforce, _⟩ := htheorem hends
  exact ⟨deadlines, hchosen, hforce.mpr ⟨by decide, fun _ => by decide +kernel⟩⟩

/-- A timeout of half a millisecond leaves a statement without a deadline. -/
theorem not_inForce_half_millisecond :
    ¬ ∀ (settings : Settings) (address : Address), ∀ family ∈ families,
      Address.ofSettings settings = .ok address →
      address.schemeParts[1]? = some family.driverModule →
      (zero false).lt settings.timeout = true →
      (∃ negative product, settings.timeout.scale 1000 = .finite negative product) →
        ∃ deadlines, choose settings.timeout address = .ok deadlines ∧
          InForce family.driverModule deadlines.arguments := by
  intro h
  have hends : ∃ negative product,
      (Binary64.ofRatio false unitsPerOne 2000).scale 1000 = .finite negative product :=
    Binary64.exists_eq_finite (by decide +kernel) (by decide +kernel)
  have hzero : choose (.ofRatio false unitsPerOne 2000)
      { scheme := "postgresql+psycopg2", host := some "h" } = .ok (perStatement 1 0) := by
    decide +kernel
  have hsettings := h { driver := "postgresql", host := "h", timeout := .ofRatio false unitsPerOne 2000 }
    { scheme := "postgresql+psycopg2", host := some "h" } _ (.tail _ (.head _))
    (by decide +kernel) (by decide) (by decide +kernel)
  dsimp only at hsettings
  obtain ⟨deadlines, hchosen, hforce⟩ := hsettings hends
  rw [hzero] at hchosen
  cases hchosen
  have hpositive := (@inForce_perStatement_iff 1 0 Nat.one_pos).mp hforce
  exact Nat.lt_irrefl 0 hpositive

end Deadlines

end SqlGauge
