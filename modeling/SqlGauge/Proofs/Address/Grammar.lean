import SqlGauge.Proofs.Address.Scheme

/-!
# The grammar of addresses

`Address.Written` says which parts a text has as an address: a scheme, a user part, a host, a port, a
database and options. All but the scheme may be missing, and what is left over belongs to none of them.
Where a text could be taken apart in several ways, the part in question says which one counts. The reader
finds these parts (`Address.readParts?_eq_some_iff`), so there is one way at most, and there is one just
if the text starts with a scheme (`Address.exists_written_iff`).
-/

namespace SqlGauge.Address

/-! ## The parts of an address -/

/-- What may stand in the name of a user. -/
def isUserPart (c : Char) : Bool :=
  c ≠ ':' && c ≠ '/'

/-- What follows a user part has no password for it. -/
inductive Unsecured : List Char → Prop where
  | nothing : Unsecured []
  | slash (rest : List Char) : Unsecured ('/' :: rest)
  | colon {rest : List Char} (unmarked : '@' ∉ rest) : Unsecured (':' :: rest)

/-- A user part, with what follows it. A password ends at the first mark; a user without one ends at the
last mark that comes before a colon or a slash. -/
inductive UserPart : List Char → Option Credentials → List Char → Prop where
  | secured {user password rest : List Char} (plain : ∀ c ∈ user, isUserPart c = true)
      (first : '@' ∉ password) :
      UserPart (user ++ ':' :: (password ++ '@' :: rest)) (some ⟨user, some password⟩) rest
  | alone {user more rest : List Char} (plain : ∀ c ∈ user, isUserPart c = true)
      (further : ∀ c ∈ more, isUserPart c = true) (last : '@' ∉ more) (unsecured : Unsecured rest) :
      UserPart (user ++ '@' :: more ++ rest) (some ⟨user, none⟩) (more ++ rest)
  | absent {more rest : List Char} (plain : ∀ c ∈ more, isUserPart c = true) (unmarked : '@' ∉ more)
      (unsecured : Unsecured rest) : UserPart (more ++ rest) none (more ++ rest)

/-- What may stand between the brackets of a host. -/
def isInnerPart (c : Char) : Bool :=
  c ≠ '/' && c ≠ '?'

/-- What may stand in a host without brackets. -/
def isHostPart (c : Char) : Bool :=
  c ≠ '/' && c ≠ ':' && c ≠ '?'

/-- A host in brackets, with what follows it. The last closing bracket counts that comes before a slash
or a question mark. -/
inductive Bracketed : List Char → List Char → List Char → Prop where
  | intro {host more rest : List Char} (nonempty : host ≠ []) (inner : ∀ c ∈ host, isInnerPart c = true)
      (further : ∀ c ∈ more, isInnerPart c = true) (last : ']' ∉ more)
      (stops : Text.Stops isInnerPart rest) :
      Bracketed ('[' :: (host ++ ']' :: more ++ rest)) host (more ++ rest)

/-- A host, with what follows it. -/
inductive HostPart : List Char → Option (List Char) → List Char → Prop where
  | bracketed {text host rest : List Char} (brackets : Bracketed text host rest) :
      HostPart text (some host) rest
  | plain {host rest : List Char} (bare : ∀ other after, ¬ Bracketed (host ++ rest) other after)
      (nonempty : host ≠ []) (plain : ∀ c ∈ host, isHostPart c = true)
      (stops : Text.Stops isHostPart rest) : HostPart (host ++ rest) (some host) rest
  | absent {text : List Char} (stops : Text.Stops isHostPart text) : HostPart text none text

/-- A part that a mark introduces, with what follows it. -/
inductive MarkedPart (mark : Char) (isPart : Char → Bool) :
    List Char → Option (List Char) → List Char → Prop where
  | marked {part rest : List Char} (inner : ∀ c ∈ part, isPart c = true)
      (stops : Text.Stops isPart rest) :
      MarkedPart mark isPart (mark :: (part ++ rest)) (some part) rest
  | absent {text : List Char} (unmarked : text.head? ≠ some mark) :
      MarkedPart mark isPart text none text

/-- A text as an address, with its parts. -/
inductive Written : List Char → Parts → Prop where
  | intro {scheme rest afterUser afterHost afterPort afterDatabase afterOptions : List Char}
      {credentials : Option Credentials} {host port database options : Option (List Char)}
      (named : IsScheme scheme) (user : UserPart rest credentials afterUser)
      (place : HostPart afterUser host afterHost)
      (door : MarkedPart ':' isInnerPart afterHost port afterPort)
      (room : MarkedPart '/' (· ≠ '?') afterPort database afterDatabase)
      (wishes : MarkedPart '?' (· ≠ '\n') afterDatabase options afterOptions) :
      Written (scheme ++ ':' :: '/' :: '/' :: rest)
        { scheme, credentials, host, port, database, options }

/-! ## What the reader finds

Each part is found where the grammar has it, and the grammar has one in every text. -/

section

variable {text rest : List Char}

/-! ### The user part -/

theorem Unsecured.stops (h : Unsecured rest) : Text.Stops isUserPart rest := by
  cases h with
  | nothing => exact Text.stops_nil _
  | slash => exact Text.stops_cons.mpr rfl
  | colon => exact Text.stops_cons.mpr rfl

/-- Without a password the last mark counts. -/
theorem readCredentials_unsecured {run : List Char} (plain : ∀ c ∈ run, isUserPart c = true)
    (h : Unsecured rest) :
    readCredentials (run ++ rest) =
      match Text.cutLast? '@' run with
      | some (user, after) => (some ⟨user, none⟩, after ++ rest)
      | none => (none, run ++ rest) := by
  obtain ⟨htake, hdrop⟩ := Text.takeWhile_eq_iff.mpr ⟨rfl, plain, h.stops⟩
  unfold isUserPart at htake hdrop
  unfold readCredentials
  dsimp only
  rw [htake, hdrop]
  cases h with
  | nothing => rfl
  | slash => rfl
  | @colon rest unmarked =>
    have hcut := Text.cut?_eq_none_iff.mpr unmarked
    cases Text.cutLast? '@' run <;> simp only [hcut]

theorem readCredentials_of_userPart {credentials : Option Credentials}
    (h : UserPart text credentials rest) : readCredentials text = (credentials, rest) := by
  cases h with
  | @secured user password rest plain first =>
    obtain ⟨htake, hdrop⟩ := Text.takeWhile_eq_iff.mpr
      ⟨@rfl _ (user ++ ':' :: (password ++ '@' :: rest)), plain, Text.stops_cons.mpr rfl⟩
    unfold isUserPart at htake hdrop
    unfold readCredentials
    dsimp only
    rw [htake, hdrop]
    simp only [Text.cut?_append rest first]
  | @alone user more rest plain further last unsecured =>
    have hrun : ∀ c ∈ user ++ '@' :: more, isUserPart c = true :=
      List.forall_mem_append.mpr ⟨plain, List.forall_mem_cons.mpr ⟨rfl, further⟩⟩
    rw [readCredentials_unsecured hrun unsecured, Text.cutLast?_append user last]
  | absent plain unmarked unsecured =>
    rw [readCredentials_unsecured plain unsecured, Text.cutLast?_eq_none_iff.mpr unmarked]

theorem exists_userPart (text : List Char) : ∃ credentials rest, UserPart text credentials rest := by
  obtain ⟨htext, hplain, hstops⟩ :=
    Text.takeWhile_eq_iff.mp ⟨@rfl _ (text.takeWhile isUserPart), rfl⟩
  generalize text.takeWhile isUserPart = run at htext hplain
  generalize text.dropWhile isUserPart = rest at htext hstops
  subst htext
  have hunsecured (h : Unsecured rest) :
      ∃ credentials after, UserPart (run ++ rest) credentials after := by
    cases hcut : Text.cutLast? '@' run with
    | none => exact ⟨_, _, .absent hplain (Text.cutLast?_eq_none_iff.mp hcut) h⟩
    | some cut =>
      obtain ⟨rfl, hlast⟩ := Text.cutLast?_eq_some_iff.mp hcut
      obtain ⟨huser, hmore⟩ := List.forall_mem_append.mp hplain
      exact ⟨_, _, .alone huser (List.forall_mem_cons.mp hmore).2 hlast h⟩
  cases rest with
  | nil => exact hunsecured .nothing
  | cons c rest =>
    have hc := Text.stops_cons.mp hstops
    unfold isUserPart at hc
    rw [Bool.and_eq_false_iff, decide_eq_false_iff_not, decide_eq_false_iff_not, not_not, not_not] at hc
    rcases hc with rfl | rfl
    · -- after a colon there is a password if there is a mark somewhere
      cases hcut : Text.cut? '@' rest with
      | none => exact hunsecured (.colon (Text.cut?_eq_none_iff.mp hcut))
      | some cut =>
        obtain ⟨rfl, hfirst⟩ := Text.cut?_eq_some_iff.mp hcut
        exact ⟨_, _, .secured hplain hfirst⟩
    · exact hunsecured (.slash rest)

theorem readCredentials_eq_iff {credentials : Option Credentials} :
    readCredentials text = (credentials, rest) ↔ UserPart text credentials rest := by
  refine ⟨fun h => ?_, readCredentials_of_userPart⟩
  obtain ⟨found, after, hpart⟩ := exists_userPart text
  rw [readCredentials_of_userPart hpart] at h
  cases h
  exact hpart

/-! ### The host -/

theorem readBracketed?_cons (inner : List Char) :
    readBracketed? ('[' :: inner) =
      match Text.cutLast? ']' (inner.takeWhile isInnerPart) with
      | some ([], _) => none
      | some (host, after) => some (host, after ++ inner.dropWhile isInnerPart)
      | none => none :=
  rfl

theorem readBracketed?_eq_some_iff {host : List Char} :
    readBracketed? text = some (host, rest) ↔ Bracketed text host rest := by
  constructor
  · intro h
    obtain ⟨inner, rfl⟩ : ∃ inner, text = '[' :: inner := by
      unfold readBracketed? at h
      dsimp only at h
      split at h
      · exact ⟨_, rfl⟩
      · cases h
    obtain ⟨hinner, hparts, hstops⟩ :=
      Text.takeWhile_eq_iff.mp ⟨@rfl _ (inner.takeWhile isInnerPart), rfl⟩
    rw [readBracketed?_cons] at h
    generalize inner.takeWhile isInnerPart = run at h hinner hparts
    generalize inner.dropWhile isInnerPart = after at h hinner hstops
    subst hinner
    split at h
    · cases h
    · next before more hnonempty hcut =>
      cases h
      obtain ⟨rfl, hlast⟩ := Text.cutLast?_eq_some_iff.mp hcut
      obtain ⟨hhost, hmore⟩ := List.forall_mem_append.mp hparts
      exact .intro (fun hnil => hnonempty (by rw [hnil])) hhost (List.forall_mem_cons.mp hmore).2
        hlast hstops
    · cases h
  · rintro @⟨host, more, rest, hnonempty, hinner, hfurther, hlast, hstops⟩
    have hrun : ∀ c ∈ host ++ ']' :: more, isInnerPart c = true :=
      List.forall_mem_append.mpr ⟨hinner, List.forall_mem_cons.mpr ⟨rfl, hfurther⟩⟩
    obtain ⟨htake, hdrop⟩ := Text.takeWhile_eq_iff.mpr ⟨rfl, hrun, hstops⟩
    rw [readBracketed?_cons, htake, hdrop, Text.cutLast?_append host hlast]
    cases host with
    | nil => exact absurd rfl hnonempty
    | cons c host => rfl

theorem readHost_eq (text : List Char) :
    readHost text =
      match readBracketed? text with
      | some (host, rest) => (some host, rest)
      | none =>
        match text.takeWhile isHostPart with
        | [] => (none, text)
        | host => (some host, text.dropWhile isHostPart) :=
  rfl

theorem readHost_eq_iff {host : Option (List Char)} :
    readHost text = (host, rest) ↔ HostPart text host rest := by
  rw [readHost_eq]
  constructor
  · intro h
    split at h
    · next brackets =>
      cases h
      exact .bracketed (readBracketed?_eq_some_iff.mp brackets)
    · next bare =>
      obtain ⟨htext, hplain, hstops⟩ :=
        Text.takeWhile_eq_iff.mp ⟨@rfl _ (text.takeWhile isHostPart), rfl⟩
      generalize text.takeWhile isHostPart = run at h htext hplain
      generalize text.dropWhile isHostPart = after at h htext hstops
      split at h
      · cases h
        exact .absent (htext ▸ hstops)
      · next hnonempty =>
        cases h
        subst htext
        refine .plain (fun other after hother => ?_) hnonempty hplain hstops
        rw [readBracketed?_eq_some_iff.mpr hother] at bare
        cases bare
  · intro h
    cases h with
    | bracketed brackets => rw [readBracketed?_eq_some_iff.mpr brackets]
    | @plain host rest bare nonempty plain stops =>
      obtain ⟨htake, hdrop⟩ := Text.takeWhile_eq_iff.mpr ⟨rfl, plain, stops⟩
      have hnone : readBracketed? (host ++ rest) = none := by
        refine Option.eq_none_iff_forall_ne_some.mpr fun ⟨other, after⟩ hother => ?_
        exact bare other after (readBracketed?_eq_some_iff.mp hother)
      rw [hnone, htake, hdrop]
      cases host with
      | nil => exact absurd rfl nonempty
      | cons c host => rfl
    | absent stops =>
      obtain ⟨htake, _⟩ := Text.takeWhile_eq_iff.mpr
        ⟨List.nil_append text, List.forall_mem_nil _, stops⟩
      have hnone : readBracketed? text = none := by
        refine Option.eq_none_iff_forall_ne_some.mpr fun ⟨other, after⟩ hother => ?_
        cases readBracketed?_eq_some_iff.mp hother
        exact absurd (Text.stops_cons.mp stops) (by decide)
      rw [List.nil_append] at htake
      rw [hnone, htake]

/-! ### Marked parts -/

theorem readMarked_eq_iff {mark : Char} {isPart : Char → Bool} {part : Option (List Char)} :
    readMarked mark isPart text = (part, rest) ↔ MarkedPart mark isPart text part rest := by
  constructor
  · intro h
    cases text with
    | nil =>
      cases h
      exact .absent nofun
    | cons c text =>
      rw [readMarked] at h
      by_cases hc : c = mark
      · rw [if_pos hc] at h
        cases h
        subst hc
        obtain ⟨htext, hinner, hstops⟩ :=
          Text.takeWhile_eq_iff.mp ⟨@rfl _ (text.takeWhile isPart), rfl⟩
        have hmarked := @MarkedPart.marked c _ _ _ hinner hstops
        rwa [← htext] at hmarked
      · rw [if_neg hc] at h
        cases h
        exact .absent fun hhead => hc (Option.some.inj hhead)
  · intro h
    cases h with
    | marked inner stops =>
      obtain ⟨htake, hdrop⟩ := Text.takeWhile_eq_iff.mpr ⟨rfl, inner, stops⟩
      rw [readMarked, if_pos rfl, htake, hdrop]
    | absent unmarked =>
      cases text with
      | nil => rfl
      | cons c text => rw [readMarked, if_neg fun hc => unmarked (congrArg some hc)]

end

/-! ### The whole address -/

theorem readParts?_eq_some_iff {text : List Char} {parts : Parts} :
    readParts? text = some parts ↔ Written text parts := by
  rw [readParts?_eq, Option.map_eq_some_iff]
  constructor
  · rintro ⟨⟨scheme, rest⟩, hscheme, rfl⟩
    obtain ⟨rfl, named⟩ := readScheme?_eq_some_iff.mp hscheme
    exact .intro named (readCredentials_eq_iff.mp rfl) (readHost_eq_iff.mp rfl)
      (readMarked_eq_iff.mp rfl) (readMarked_eq_iff.mp rfl) (readMarked_eq_iff.mp rfl)
  · rintro @⟨scheme, rest, _, _, _, _, _, _, _, _, _, _, named, user, place, door, room, wishes⟩
    refine ⟨(scheme, rest), readScheme?_eq_some_iff.mpr ⟨rfl, named⟩, ?_⟩
    have hdoor := readMarked_eq_iff.mpr door
    unfold isInnerPart at hdoor
    unfold partsAfter
    dsimp only
    rw [readCredentials_eq_iff.mpr user]
    dsimp only
    rw [readHost_eq_iff.mpr place]
    dsimp only
    rw [hdoor]
    dsimp only
    rw [readMarked_eq_iff.mpr room]
    dsimp only
    rw [readMarked_eq_iff.mpr wishes]

theorem exists_written_iff {text : List Char} :
    (∃ parts, Written text parts) ↔
      ∃ name rest, text = name ++ ':' :: '/' :: '/' :: rest ∧ IsScheme name := by
  constructor
  · rintro ⟨parts, named, _⟩
    exact ⟨_, _, rfl, named⟩
  · rintro ⟨name, rest, h⟩
    refine ⟨partsAfter name rest, readParts?_eq_some_iff.mp ?_⟩
    rw [readParts?_eq, readScheme?_eq_some_iff.mpr h]
    rfl

end SqlGauge.Address
