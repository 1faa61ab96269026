import SqlGauge.Proofs.Address.Grammar
import SqlGauge.Proofs.Settings.Congruence

/-!
# What the log shows of the settings

The log shows settings with their password masked. Whether there is a password can still be seen, and so
can all other settings (`Settings.masked_eq_iff`). One of these is the address, which may have a password
of its own. It is not masked: settings that differ in nothing but a password look the same just if their
addresses have the same password (`Settings.masked_eq_iff_of_variant`).
-/

namespace SqlGauge

/-! ## Passwords in addresses -/

namespace Address

/-- The password that the reader finds in an address. -/
def writtenPassword? (text : String) : Option (List Char) := do
  let parts ← readParts? text.toList
  let credentials ← parts.credentials
  credentials.password

/-- An address with a gap where the password of its user goes. -/
structure Gap where
  scheme : List Char
  user : List Char
  rest : List Char
  named : IsScheme scheme
  plain : ∀ c ∈ user, isUserPart c = true

namespace Gap

/-- The address with this password. -/
def fill (gap : Gap) (password : List Char) : String :=
  String.ofList
    (gap.scheme ++ ':' :: '/' :: '/' :: (gap.user ++ ':' :: (password ++ '@' :: gap.rest)))

/-- The reader finds what the gap was filled with. -/
theorem writtenPassword?_fill (gap : Gap) {password : List Char} (h : '@' ∉ password) :
    writtenPassword? (gap.fill password) = some password := by
  have hscheme := readScheme?_eq_some_iff.mpr
    ⟨@String.toList_ofList (gap.scheme ++ ':' :: '/' :: '/' :: (gap.user ++ ':' ::
      (password ++ '@' :: gap.rest))), gap.named⟩
  have huser := readCredentials_of_userPart (@UserPart.secured _ _ gap.rest gap.plain h)
  unfold writtenPassword? fill
  rw [readParts?_eq, hscheme]
  show (partsAfter gap.scheme _).credentials.bind Credentials.password = some password
  unfold partsAfter
  rw [huser]
  rfl

end Gap

end Address

/-! ## Masked settings -/

namespace Settings

variable {a b settings : Settings}

theorem get_masked_of_ne {setting : Setting} (h : setting ≠ .password) :
    settings.masked.get setting = settings.get setting := by
  unfold masked
  split
  · rfl
  · exact @get_set_of_ne settings .password setting mask h

theorem password_masked (settings : Settings) :
    settings.masked.password = if settings.password = "" then "" else mask := by
  unfold masked
  split
  · assumption
  · rfl

/-- Masked settings show all but the password, and whether there is one. -/
theorem masked_eq_iff :
    a.masked = b.masked ↔ a.AgreeOn (· ≠ .password) b ∧ (a.password = "" ↔ b.password = "") := by
  have hblank : a.masked.password = b.masked.password ↔ (a.password = "" ↔ b.password = "") := by
    have hmask : mask ≠ "" := by decide
    rw [password_masked, password_masked]
    by_cases ha : a.password = "" <;> by_cases hb : b.password = "" <;> simp [ha, hb, hmask, hmask.symm]
  rw [← hblank]
  constructor
  · intro h
    refine ⟨fun setting hne => ?_, congrArg password h⟩
    rw [← get_masked_of_ne hne, h, get_masked_of_ne hne]
  · rintro ⟨hagree, hpassword⟩
    refine ext_get fun setting => ?_
    by_cases hsetting : setting = .password
    · subst hsetting
      exact hpassword
    · rw [get_masked_of_ne hsetting, get_masked_of_ne hsetting, hagree setting hsetting]

/-- The same settings but for a password, which is a setting or a part of the address. -/
inductive PasswordVariant (settings : Settings) : Settings → Settings → Prop where
  | own {first second : String} (first_given : first ≠ "") (second_given : second ≠ "") :
      PasswordVariant settings (settings.set .password first) (settings.set .password second)
  | written {gap : Address.Gap} {first second : List Char} (first_given : first ≠ [])
      (second_given : second ≠ []) (first_unmarked : '@' ∉ first) (second_unmarked : '@' ∉ second) :
      PasswordVariant settings (settings.set .dburl (gap.fill first))
        (settings.set .dburl (gap.fill second))

/-- The password that is a setting is hidden, the one in the address is not. -/
theorem masked_eq_iff_of_variant (h : settings.PasswordVariant a b) :
    a.masked = b.masked ↔
      Address.writtenPassword? a.dburl = Address.writtenPassword? b.dburl := by
  cases h with
  | @own first second first_given second_given =>
    have hagree : AgreeOn (· ≠ .password) (settings.set .password first)
        (settings.set .password second) :=
      @AgreeOn.set_unknown _ _ _ (.refl settings) .password (not_not.mpr rfl) first second
    exact iff_of_true (masked_eq_iff.mpr ⟨hagree, iff_of_false first_given second_given⟩) rfl
  | @written gap first second _ _ first_unmarked second_unmarked =>
    constructor
    · intro hmasked
      exact congrArg Address.writtenPassword? ((masked_eq_iff.mp hmasked).1 .dburl (by decide))
    · intro hwritten
      have hsame : some first = some second := by
        rw [← gap.writtenPassword?_fill first_unmarked, ← gap.writtenPassword?_fill second_unmarked]
        exact hwritten
      rw [Option.some.inj hsame]

theorem masked_eq_iff_of_variant_own :
    PasswordVariant {} (set {} .password "secret") (set {} .password "other") ∧
      (set {} .password "secret").masked = (set {} .password "other").masked := by
  have hvariant := @PasswordVariant.own {} "secret" "other" (by decide) (by decide)
  exact ⟨hvariant, (masked_eq_iff_of_variant hvariant).mpr rfl⟩

/-- The log tells these two passwords of an address apart. -/
theorem not_masked_eq_of_variant :
    PasswordVariant {} (set {} .dburl "mysql://u:secret@h/d") (set {} .dburl "mysql://u:other@h/d") ∧
      (set {} .dburl "mysql://u:secret@h/d").masked ≠
        (set {} .dburl "mysql://u:other@h/d").masked := by
  let gap : Address.Gap :=
    { scheme := "mysql".toList
      user := ['u']
      rest := "h/d".toList
      named := Address.isScheme_of_family (.head _) (.head _)
      plain := List.forall_mem_singleton.mpr rfl }
  have hvariant := @PasswordVariant.written {} gap "secret".toList "other".toList (by decide)
    (by decide) (by decide) (by decide)
  have hsecret : gap.fill "secret".toList = "mysql://u:secret@h/d" := by decide
  have hother : gap.fill "other".toList = "mysql://u:other@h/d" := by decide
  rw [hsecret, hother] at hvariant
  refine ⟨hvariant, fun hmasked => ?_⟩
  have hdburl : "mysql://u:secret@h/d" = "mysql://u:other@h/d" :=
    (masked_eq_iff.mp hmasked).1 .dburl (by decide)
  exact absurd hdburl (by decide)

end Settings

end SqlGauge
