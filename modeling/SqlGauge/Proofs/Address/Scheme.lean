import Mathlib.Data.List.Basic
import SqlGauge.Address.Choice
import SqlGauge.Proofs.Text.Cuts

/-!
# Schemes

A scheme may be an alias for a backend, a backend with its driver module, or anything else. A
`Address.Family` is a backend with all schemes that stand for it and its module: completing a scheme
takes each of a family to the same one (`Address.completeScheme_of_mem`) and leaves every other scheme
alone (`Address.completeScheme_eq_self`).

The scheme is read off first, and what follows it is read in the same way whatever it is
(`Address.read_append`). So all schemes of a family give the same address
(`Address.ofSettings_of_family`), and any other scheme leaves the address as it was read
(`Address.ofSettings_of_other`). The address of some settings has the scheme of a family, or one that was
written out with a module, or one without a module (`Address.scheme_cases`).
-/

namespace SqlGauge

/-- The ranges one after the other: in this form they can be run through. -/
theorem Text.isWordChar_eq (c : Char) :
    isWordChar c =
      wordRanges.toList.any fun range => range.1 ≤ c.toNat && c.toNat ≤ range.2 := by
  unfold isWordChar Ranges.contains
  rw [Array.any_toList]

theorem Text.isWordChar_of_range {c : Char} {range : Nat × Nat} (h : range ∈ wordRanges.toList)
    (first : range.1 ≤ c.toNat) (last : c.toNat ≤ range.2) : isWordChar c = true := by
  rw [isWordChar_eq]
  refine List.any_eq_true.mpr ⟨range, h, ?_⟩
  rw [decide_eq_true first, decide_eq_true last]
  rfl

namespace Address

/-! ## Families -/

/-- A backend, the driver module that keeps deadlines for it, and the names that stand for both. -/
structure Family where
  backend : String
  driverModule : String
  aliases : List String

namespace Family

/-- The scheme that names backend and module. -/
def scheme (family : Family) : String :=
  family.backend ++ "+" ++ family.driverModule

/-- All schemes that stand for backend and module. -/
def schemes (family : Family) : List String :=
  family.aliases ++ [family.scheme]

end Family

/-- The families there are. -/
def families : List Family :=
  [⟨"mysql", "pymysql", ["mysql", "my", "mariadb", "maria"]⟩,
    ⟨"postgresql", "psycopg2", ["postgresql", "postgres", "pg", "pgsql"]⟩]

theorem Family.eq_of_driverModule {family other : Family} (hfamily : family ∈ families)
    (hother : other ∈ families) (h : family.driverModule = other.driverModule) : family = other := by
  rcases List.mem_pair.mp hfamily with rfl | rfl <;> rcases List.mem_pair.mp hother with rfl | rfl
  · rfl
  · exact absurd h (by decide)
  · exact absurd h (by decide)
  · rfl

theorem completeScheme_of_mem {family : Family} (known : family ∈ families) {scheme : String}
    (h : scheme ∈ family.schemes) : completeScheme scheme = family.scheme := by
  have hall : ∀ family ∈ families, ∀ scheme ∈ family.schemes,
      completeScheme scheme = family.scheme := by
    decide
  exact hall family known scheme h

theorem completeScheme_eq_self {scheme : String}
    (h : ∀ family ∈ families, scheme ∉ family.aliases) : completeScheme scheme = scheme := by
  have hnone : driverOfAlias? scheme = none := by
    obtain ⟨hmysql, hothers⟩ := List.forall_mem_cons.mp h
    have hpostgresql := List.forall_mem_singleton.mp hothers
    unfold driverOfAlias?
    rw [if_neg (mt List.contains_iff_mem.mp hmysql),
      if_neg (mt List.contains_iff_mem.mp hpostgresql)]
  unfold completeScheme
  rw [hnone]
  split <;> rfl

/-- The scheme of a driver is the one of its family. -/
theorem exists_family_of_driver {driver scheme : String} (h : schemeOfDriver? driver = some scheme) :
    ∃ family ∈ families, scheme = family.scheme := by
  unfold schemeOfDriver? at h
  split at h
  · cases h
    exact ⟨_, .head _, rfl⟩
  · split at h
    · cases h
      exact ⟨_, .tail _ (.head _), rfl⟩
    · cases h

/-- A family names its backend and its module. -/
theorem schemeParts_of_family {family : Family} (known : family ∈ families) {address : Address}
    (h : address.scheme = family.scheme) :
    address.schemeParts = [family.backend, family.driverModule] := by
  have hall : ∀ family ∈ families, (Text.pieces '+' family.scheme.toList).map String.ofList =
      [family.backend, family.driverModule] := by
    decide
  unfold schemeParts
  rw [h]
  exact hall family known

/-! ## The scheme of a text -/

/-- A name that can be a scheme. -/
structure IsScheme (name : List Char) : Prop where
  nonempty : name ≠ []
  letters : ∀ c ∈ name, (Text.isWordChar c || c = '+') = true

theorem readScheme?_eq_some_iff {text name rest : List Char} :
    readScheme? text = some (name, rest) ↔
      text = name ++ ':' :: '/' :: '/' :: rest ∧ IsScheme name := by
  have hcolon : (Text.isWordChar ':' || ':' = '+') = false := by
    rw [Text.isWordChar_eq]
    decide +kernel
  unfold readScheme?
  dsimp only
  constructor
  · intro h
    generalize htake : text.takeWhile (fun c => Text.isWordChar c || c = '+') = front at h
    generalize hdrop : text.dropWhile (fun c => Text.isWordChar c || c = '+') = back at h
    obtain ⟨htext, hletters, -⟩ := Text.takeWhile_eq_iff.mp ⟨htake, hdrop⟩
    split at h
    · cases h
    · next hnonempty =>
      cases h
      exact ⟨htext, hnonempty, hletters⟩
    · cases h
  · rintro ⟨rfl, hnonempty, hletters⟩
    have hstops : Text.Stops (fun c => Text.isWordChar c || c = '+') (':' :: '/' :: '/' :: rest) := by
      rintro c ⟨⟩
      exact hcolon
    obtain ⟨htake, hdrop⟩ := Text.takeWhile_eq_iff.mpr ⟨rfl, hletters, hstops⟩
    rw [htake, hdrop]
    cases name with
    | nil => exact absurd rfl hnonempty
    | cons c name => rfl

/-- The schemes of a family are made of small letters, digits and plus signs. -/
theorem isScheme_of_family {family : Family} (known : family ∈ families) {scheme : String}
    (h : scheme ∈ family.schemes) : IsScheme scheme.toList := by
  -- asked of each list as a whole: there are too many characters to decide it for all of them
  have hall : ∀ family ∈ families, ∀ scheme ∈ family.schemes, scheme.toList ≠ [] ∧
      (scheme.toList.all fun c =>
        (0x61 ≤ c.toNat ∧ c.toNat ≤ 0x7a) ∨ (0x30 ≤ c.toNat ∧ c.toNat ≤ 0x39) ∨ c = '+') = true := by
    decide
  have hletters : (0x61, 0x7a) ∈ Text.wordRanges.toList := by decide +kernel
  have hdigits : (0x30, 0x39) ∈ Text.wordRanges.toList := by decide +kernel
  obtain ⟨hnonempty, hplain⟩ := hall family known scheme h
  refine ⟨hnonempty, fun c hc => ?_⟩
  have hletter := List.all_eq_true.mp hplain c hc
  obtain ⟨hfirst, hlast⟩ | ⟨hfirst, hlast⟩ | rfl := of_decide_eq_true hletter
  · rw [Text.isWordChar_of_range hletters hfirst hlast, Bool.true_or]
  · rw [Text.isWordChar_of_range hdigits hfirst hlast, Bool.true_or]
  · rw [decide_eq_true rfl, Bool.or_true]

/-- The parts of an address after its scheme. -/
def partsAfter (scheme rest : List Char) : Parts :=
  let (credentials, rest) := readCredentials rest
  let (host, rest) := readHost rest
  let (port, rest) := readMarked ':' (fun c => c ≠ '/' && c ≠ '?') rest
  let (database, rest) := readMarked '/' (· ≠ '?') rest
  let (options, _) := readMarked '?' (· ≠ '\n') rest
  { scheme, credentials, host, port, database, options }

theorem readParts?_eq (text : List Char) :
    readParts? text = (readScheme? text).map fun (scheme, rest) => partsAfter scheme rest := by
  unfold readParts?
  cases readScheme? text <;> rfl

/-- What follows the scheme is read without regard to it. -/
theorem read_append {scheme : String} (h : IsScheme scheme.toList) (rest : String) :
    read (scheme ++ "://" ++ rest) =
      (readPort (partsAfter [] rest.toList).port).map fun port =>
        { ofParts (partsAfter [] rest.toList) port with scheme } := by
  have htext : (scheme ++ "://" ++ rest).toList =
      scheme.toList ++ ':' :: '/' :: '/' :: rest.toList := by
    simp
  have hparts : readParts? (scheme ++ "://" ++ rest).toList =
      some (partsAfter scheme.toList rest.toList) := by
    rw [readParts?_eq, readScheme?_eq_some_iff.mpr ⟨htext, h⟩]
    rfl
  unfold read
  rw [hparts]
  show (readPort (partsAfter [] rest.toList).port).map _ = _
  congr 1
  funext port
  show ({ ofParts (partsAfter [] rest.toList) port with scheme := String.ofList scheme.toList } :
    Address) = _
  rw [String.ofList_toList]

/-! ## The scheme of settings -/

theorem ofSettings_of_whole {settings : Settings} (whole : settings.dburl ≠ "") :
    ofSettings settings =
      match read settings.dburl with
      | .error flaw => .error flaw.trouble
      | .ok address => .ok { address with scheme := completeScheme address.scheme } :=
  if_neg whole

theorem append_ne_empty {scheme : String} (h : IsScheme scheme.toList) (rest : String) :
    scheme ++ "://" ++ rest ≠ "" := by
  intro hempty
  have hchars := congrArg String.toList hempty
  rw [String.toList_append, String.toList_append, List.append_assoc] at hchars
  exact h.nonempty (List.append_eq_nil_iff.mp hchars).1

/-- Which scheme of a family it is does not show in the address. -/
theorem ofSettings_of_family (settings : Settings) {family : Family} (known : family ∈ families)
    {scheme : String} (h : scheme ∈ family.schemes) (rest : String) :
    ofSettings { settings with dburl := scheme ++ "://" ++ rest } =
      match readPort (partsAfter [] rest.toList).port with
      | .error flaw => .error flaw.trouble
      | .ok port => .ok { ofParts (partsAfter [] rest.toList) port with scheme := family.scheme } := by
  have hscheme := isScheme_of_family known h
  rw [ofSettings_of_whole (append_ne_empty hscheme rest), read_append hscheme]
  cases readPort (partsAfter [] rest.toList).port with
  | error flaw => rfl
  | ok port =>
    show Except.ok { ofParts (partsAfter [] rest.toList) port with scheme := completeScheme scheme } = _
    rw [completeScheme_of_mem known h]

/-- A scheme that is no alias leaves the address as it was read. -/
theorem ofSettings_of_other {settings : Settings} (whole : settings.dburl ≠ "") {address : Address}
    (found : read settings.dburl = .ok address)
    (other : ∀ family ∈ families, address.scheme ∉ family.aliases) :
    ofSettings settings = .ok address := by
  rw [ofSettings_of_whole whole, found]
  dsimp only
  rw [completeScheme_eq_self other]

/-- The address of settings has the scheme of a family, or it was written out with a module, or it
names no module. -/
theorem scheme_cases {settings : Settings} {address : Address}
    (found : ofSettings settings = .ok address) :
    (∃ family ∈ families, address.scheme = family.scheme) ∨
      (settings.dburl ≠ "" ∧ read settings.dburl = .ok address ∧ '+' ∈ address.scheme.toList) ∨
      address.schemeParts = [address.scheme] := by
  by_cases hwhole : settings.dburl = ""
  · left
    unfold ofSettings assemble at found
    rw [if_pos hwhole] at found
    split at found
    · cases found
    · next scheme hscheme =>
      cases found
      exact exists_family_of_driver hscheme
  · rw [ofSettings_of_whole hwhole] at found
    split at found
    · cases found
    · next given hread =>
      cases found
      by_cases hplus : '+' ∈ given.scheme.toList
      · right; left
        have hself : completeScheme given.scheme = given.scheme :=
          if_pos (List.contains_iff_mem.mpr hplus)
        rw [hself]
        exact ⟨hwhole, hread, hplus⟩
      · by_cases hknown : ∃ family ∈ families, given.scheme ∈ family.aliases
        · obtain ⟨family, hfamily, halias⟩ := hknown
          exact .inl ⟨family, hfamily, completeScheme_of_mem hfamily (List.mem_append_left _ halias)⟩
        · right; right
          have hself : completeScheme given.scheme = given.scheme :=
            completeScheme_eq_self fun family hfamily halias => hknown ⟨family, hfamily, halias⟩
          unfold schemeParts
          rw [hself, Text.pieces_of_notMem hplus, List.map_singleton, String.ofList_toList]

end Address

end SqlGauge
