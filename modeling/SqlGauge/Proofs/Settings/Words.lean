import SqlGauge.Proofs.Settings.Trouble

/-!
# Trouble with the command line

Two failures to read a command line repeat words of it as they are: the word that could stand for
several flags, and all words that belong to no flag. `Flags.repeated` finds these words, which are words
of the command line (`Flags.mem_of_mem_repeated`); any other failure quotes what it is about. Hence the
trouble of a whole request is one about settings, broken into lines just by the words that are repeated
(`Program.failsAs_request`).

`takeWords_flag` is the step by which the words are taken, and `takeWords_preserves` says what taking
them all preserves. A flag may take the word after it, so the induction is over the number of words.
-/

namespace SqlGauge

namespace Flags

/-! ## Messages -/

theorem unbroken_nameOf (spelling : Spelling) : Text.Unbroken (nameOf spelling.family) := by
  unfold Spelling.family
  split
  · decide
  · rename_i setting _
    cases setting <;> decide
  · rename_i switch _ _
    cases switch <;> decide

theorem tellsSettings_flagFailure (spelling : Spelling) {complaint : String}
    (h : Text.Unbroken complaint) : (flagFailure spelling complaint).TellsSettings [] := by
  refine .plain ?_
  simp only [Text.unbroken_append]
  exact ⟨⟨⟨.literal rfl (by decide), unbroken_nameOf spelling⟩, .literal rfl (by decide)⟩, h⟩

theorem tellsSettings_ambiguousFailure (text : List Char) {candidates : List Word}
    (h : ∀ word ∈ candidates, Text.Unbroken (spelledText word)) :
    (ambiguousFailure text candidates).TellsSettings [String.ofList text] := by
  refine .of ?_
  have hcandidates : Text.Unbroken (String.intercalate ", " (candidates.map spelledText)) := by
    rw [Text.unbroken_intercalate (by decide)]
    exact List.forall_mem_map.mpr h
  have hstart : Text.Unbroken "ambiguous option: " := .literal rfl (by decide)
  have hmiddle : Text.Unbroken " could match " := .literal rfl (by decide)
  rw [Text.unbroken_append, Text.unbroken_append, Text.unbroken_append, and_iff_left hcandidates,
    and_iff_left hmiddle, and_iff_right hstart, List.forall_mem_singleton]

/-! ## What a word is -/

theorem unbroken_spelling : ∀ spelling ∈ spellings, Text.Unbroken (String.ofList spelling.text) := by
  decide

theorem unbroken_abbreviated (text : List Char) :
    ∀ word ∈ abbreviated text, Text.Unbroken (spelledText word) := by
  intro word h
  obtain ⟨spelling, hspelling, rfl⟩ := List.mem_map.mp h
  exact unbroken_spelling spelling (List.mem_filter.mp hspelling).1

theorem unbroken_clustered (text : List Char) :
    ∀ word ∈ clustered text, Text.Unbroken (spelledText word) := by
  intro word h
  obtain ⟨spelling, hspelling, rfl⟩ := List.mem_map.mp h
  exact unbroken_spelling spelling (List.mem_of_find?_eq_some (Option.mem_toList.mp hspelling))

theorem failsAs_guess (text : List Char) :
    FailsAs (Failure.TellsSettings [String.ofList text]) (guess text) := by
  have hcandidates : ∀ word ∈ (if text.take 2 = ['-', '-'] then abbreviated text
      else clustered text), Text.Unbroken (spelledText word) := by
    split
    · exact unbroken_abbreviated text
    · exact unbroken_clustered text
  unfold guess
  dsimp only
  split
  · exact .ok _
  · split
    · exact .ok _
    · exact .ok _
  · exact .error (tellsSettings_ambiguousFailure text hcandidates)

theorem failsAs_classifyWord (text : List Char) :
    FailsAs (Failure.TellsSettings [String.ofList text]) (classifyWord text) := by
  unfold classifyWord
  split
  · exact .ok _
  split
  · exact .ok _
  split
  · exact .ok _
  split
  · exact .ok _
  · exact failsAs_guess text

/-- The first word that could stand for several flags. -/
def ambiguousWord? : List (List Char) → Option (List Char)
  | [] => none
  | word :: rest =>
    if word = ['-', '-'] then none
    else
      match classifyWord word with
      | .error _ => some word
      | .ok _ => ambiguousWord? rest

theorem failsAs_classify (words : List (List Char)) :
    FailsAs (Failure.TellsSettings ((ambiguousWord? words).toList.map String.ofList))
      (classify words) := by
  induction words with
  | nil => exact .ok _
  | cons word rest ih =>
    unfold classify ambiguousWord?
    split
    · exact .ok _
    · have hword := failsAs_classifyWord word
      cases hclass : classifyWord word with
      | error failure =>
        rw [hclass] at hword
        exact .error (hword failure rfl)
      | ok first =>
        show FailsAs (Failure.TellsSettings ((ambiguousWord? rest).toList.map String.ofList))
          (classify rest >>= fun others => pure (first :: others))
        exact .bind ih fun _ _ => .ok _

/-! ## Taking the flags -/

/-- Help, or a failure that tells about settings. -/
inductive Stop.AboutSettings (repeated : List String) : Stop → Prop where
  | help : AboutSettings repeated .help
  | failure {failure : Failure} (h : failure.TellsSettings repeated) :
      AboutSettings repeated (.failure failure)

theorem tellsSettings_ignoredFailure (spelling : Spelling) (attached : List Char) :
    (ignoredFailure spelling attached).TellsSettings [] :=
  tellsSettings_flagFailure spelling
    (Text.unbroken_append.mpr ⟨.literal rfl (by decide), Text.unbroken_quoted _⟩)

theorem failsAs_attach (spelling : Spelling) (attached : List Char) :
    FailsAs (Failure.TellsSettings []) (attach spelling attached) := by
  fun_induction attach spelling attached with
  | case1 => exact .ok _
  | case2 => exact .error (tellsSettings_ignoredFailure _ _)
  | case3 => exact .error (tellsSettings_ignoredFailure _ _)
  | case4 => exact .ok _
  | case5 _ _ _ _ _ _ _ _ ih => exact .bind ih fun _ _ => .ok _

theorem failsAs_settle (cluster : Cluster) (next : Option Word) :
    FailsAs (Failure.TellsSettings []) (settle cluster next) := by
  unfold settle
  split
  · exact .ok _
  · exact .ok _
  · split
    · exact .ok _
    · exact .error (tellsSettings_flagFailure _ (.literal rfl (by decide)))

theorem failsAs_give (spelling : Spelling) (setting : Setting) (text : String) (taken : Taken) :
    FailsAs (Stop.AboutSettings []) (give spelling setting text taken) := by
  have hkind : Text.Unbroken setting.kind.name := by cases setting <;> decide
  have hchoices : Text.Unbroken
      (String.intercalate ", " (Settings.allowedDrivers.map Text.quoted)) := by
    rw [Text.unbroken_intercalate (by decide)]
    exact List.forall_mem_map.mpr fun _ _ => Text.unbroken_quoted _
  unfold give
  split
  · exact .ok _
  split
  · exact .ok _
  split
  · refine .error (.failure (tellsSettings_flagFailure spelling ?_))
    simp only [Text.unbroken_append]
    exact ⟨⟨⟨⟨.literal rfl (by decide), Text.unbroken_quoted text⟩, .literal rfl (by decide)⟩,
      hchoices⟩, .literal rfl (by decide)⟩
  · split
    · exact .ok _
    · refine .error (.failure (tellsSettings_flagFailure spelling ?_))
      simp only [Text.unbroken_append]
      exact ⟨⟨⟨.literal rfl (by decide), hkind⟩, .literal rfl (by decide)⟩,
        Text.unbroken_quoted text⟩

theorem failsAs_takeSettled (settled : Settled) (taken : Taken) :
    FailsAs (Stop.AboutSettings []) (takeSettled settled taken) := by
  refine .bind (.foldlM ?_ _ _) fun turned _ => ?_
  · intro taken spelling
    unfold takeSwitch
    split
    · exact .error .help
    · exact .ok _
    · exact .ok _
  · split
    · exact .ok _
    · exact failsAs_give _ _ _ _

/-- The flags of a word that a spelling starts. -/
def clusterOf (spelling : Spelling) : Option (List Char) → Except Failure Cluster
  | none => .ok (bare spelling)
  | some text => attach spelling text

/-- Taking the words goes on behind the value if that is a word of its own. -/
theorem takeWords_flag (taken : Taken) (spelling : Spelling) (attached : Option (List Char))
    (rest : List Word) :
    takeWords taken (.flag spelling attached :: rest) = (do
      let cluster ← (clusterOf spelling attached).mapError .failure
      let settled ← (settle cluster rest.head?).mapError .failure
      let next ← takeSettled settled taken
      takeWords next (if settled.usesNext then rest.drop 1 else rest)) := by
  rw [takeWords.eq_def]
  cases rest with
  | nil =>
    -- without a next word there is nothing to go on with either
    have hrest (usesNext : Bool) (next : Taken) :
        (if usesNext then .ok next else takeWords next []) =
          takeWords next (if usesNext then List.drop 1 [] else []) := by
      cases usesNext <;> rfl
    simp only [hrest]
    cases attached <;> rfl
  | cons word others =>
    have hrest (usesNext : Bool) (next : Taken) :
        (if usesNext then takeWords next others else takeWords next (word :: others)) =
          takeWords next (if usesNext then List.drop 1 (word :: others) else word :: others) := by
      cases usesNext <;> rfl
    simp only [hrest]
    cases attached <;> rfl

/-- The text of a word that belongs to no flag. -/
def Word.loose? : Word → Option (List Char)
  | plain text => some text
  | separator => some ['-', '-']
  | unknown text => some text
  | flag _ _ => none

theorem takeWords_loose {word : Word} {text : List Char} (h : word.loose? = some text) (taken : Taken)
    (rest : List Word) : takeWords taken (word :: rest) = takeWords (taken.leave text) rest := by
  cases word with
  | flag spelling attached => cases h
  | _ =>
    cases h
    rfl

/-- What holds of words holds of one more word in front, which is a flag if it is not loose. A flag may
take the next word, so that what is left behind it is shorter by two. -/
@[elab_as_elim]
theorem words_induction {P : List Word → Prop} (nil : P [])
    (loose : ∀ word text rest, word.loose? = some text → P rest → P (word :: rest))
    (flag : ∀ spelling attached rest, P rest → P (rest.drop 1) →
      P (.flag spelling attached :: rest)) (words : List Word) : P words := by
  have both : P words ∧ P (words.drop 1) := by
    induction words with
    | nil => exact ⟨nil, nil⟩
    | cons word rest ih =>
      refine ⟨?_, ih.1⟩
      cases word with
      | plain text => exact loose _ _ rest rfl ih.1
      | separator => exact loose _ _ rest rfl ih.1
      | unknown text => exact loose _ _ rest rfl ih.1
      | flag spelling attached => exact flag spelling attached rest ih.1 ih.2
  exact both.1

/-- What is preserved when a loose word is kept and when the flags of a word are taken, the taking of
all words preserves. -/
theorem takeWords_preserves {P : Taken → Prop} {all : List Word}
    (hleave : ∀ word ∈ all, ∀ text ∈ word.loose?, ∀ taken, P taken → P (taken.leave text))
    (hflag : ∀ {spelling attached cluster next settled taken after},
      .flag spelling attached ∈ all → clusterOf spelling attached = .ok cluster →
        (∀ word ∈ next, word ∈ all) → settle cluster next = .ok settled →
          takeSettled settled taken = .ok after → P taken → P after)
    {words : List Word} (hwords : words ⊆ all) {taken final : Taken} (h : P taken)
    (hfinal : takeWords taken words = .ok final) : P final := by
  induction words using words_induction generalizing taken with
  | nil =>
    cases hfinal
    exact h
  | loose word text rest hloose ih =>
    obtain ⟨hword, hrest⟩ := List.cons_subset.mp hwords
    rw [takeWords_loose hloose] at hfinal
    exact ih hrest (hleave word hword text hloose taken h) hfinal
  | flag spelling attached rest ih ihNext =>
    obtain ⟨hword, hrest⟩ := List.cons_subset.mp hwords
    rw [takeWords_flag] at hfinal
    obtain ⟨cluster, hcluster, hfinal⟩ := bind_eq_ok_iff.mp hfinal
    obtain ⟨settled, hsettled, hfinal⟩ := bind_eq_ok_iff.mp hfinal
    obtain ⟨after, hafter, hfinal⟩ := bind_eq_ok_iff.mp hfinal
    rw [mapError_eq_ok_iff] at hcluster hsettled
    have hnext : ∀ next ∈ rest.head?, next ∈ all := fun next hmem =>
      hrest (List.mem_of_head? hmem)
    have hP := hflag hword hcluster hnext hsettled hafter h
    split at hfinal
    · exact ihNext (List.Subset.trans (List.drop_subset 1 rest) hrest) hP hfinal
    · exact ih hrest hP hfinal

theorem failsAs_takeWords (words : List Word) (taken : Taken) :
    FailsAs (Stop.AboutSettings []) (takeWords taken words) := by
  induction words using words_induction generalizing taken with
  | nil => exact .ok _
  | loose word text rest hloose ih =>
    rw [takeWords_loose hloose]
    exact ih _
  | flag spelling attached rest ih ihNext =>
    rw [takeWords_flag]
    refine .bind (.mapError fun failure h => .failure ?_) fun cluster _ => ?_
    · cases attached with
      | none => cases h
      | some text => exact failsAs_attach spelling text failure h
    refine .bind (.mapError fun failure h => .failure (failsAs_settle _ _ failure h))
      fun settled _ => ?_
    refine .bind (failsAs_takeSettled settled taken) fun next _ => ?_
    split
    · exact ihNext next
    · exact ih next

/-! ## Settings -/

/-- The words that a failure to read a command line repeats as they are. -/
def repeated (fallbacks : Settings) (arguments : List String) : List String :=
  match classify (arguments.map String.toList) with
  | .error _ => (ambiguousWord? (arguments.map String.toList)).toList.map String.ofList
  | .ok words =>
    match takeWords { draft := { settings := fallbacks } } words with
    | .error _ => []
    | .ok taken => taken.extras.map String.ofList

theorem mem_of_ambiguousWord? {words : List (List Char)} {word : List Char}
    (h : ambiguousWord? words = some word) : word ∈ words := by
  induction words with
  | nil => cases h
  | cons first rest ih =>
    unfold ambiguousWord? at h
    split at h
    · cases h
    split at h
    · cases h
      exact List.mem_cons_self
    · exact List.mem_cons_of_mem _ (ih h)

/-- A word that belongs to no flag is what it was. -/
theorem loose?_classifyWord {text left : List Char} {word : Word}
    (hword : classifyWord text = .ok word) (h : word.loose? = some left) : left = text := by
  have hcandidates : ∀ candidate ∈ (if text.take 2 = ['-', '-'] then abbreviated text
      else clustered text), candidate.loose? = none := by
    intro candidate hmem
    split at hmem
    · obtain ⟨_, _, rfl⟩ := List.mem_map.mp hmem
      rfl
    · obtain ⟨_, _, rfl⟩ := List.mem_map.mp hmem
      rfl
  unfold classifyWord at hword
  split at hword
  · cases hword
    exact (Option.some.inj h).symm
  split at hword
  · cases hword
    cases h
  split at hword
  · cases hword
    exact (Option.some.inj h).symm
  split at hword
  · next assigned hassigned =>
    cases hword
    obtain ⟨_, _, hassigned⟩ := Option.bind_eq_some_iff.mp hassigned
    obtain ⟨_, _, hassigned⟩ := Option.bind_eq_some_iff.mp hassigned
    cases hassigned
    cases h
  · unfold guess at hword
    dsimp only at hword
    split at hword
    · next heq =>
      cases hword
      rw [hcandidates word (heq ▸ List.mem_singleton_self word)] at h
      cases h
    · split at hword
      · cases hword
        exact (Option.some.inj h).symm
      · cases hword
        exact (Option.some.inj h).symm
    · cases hword

theorem loose?_classify {texts : List (List Char)} {words : List Word}
    (hwords : classify texts = .ok words) :
    ∀ word ∈ words, ∀ left ∈ word.loose?, left ∈ texts := by
  induction texts generalizing words with
  | nil =>
    cases hwords
    exact List.forall_mem_nil _
  | cons text rest ih =>
    unfold classify at hwords
    split at hwords
    · next hseparator =>
      cases hwords
      refine List.forall_mem_cons.mpr ⟨?_, ?_⟩
      · intro left h
        cases h
        exact hseparator ▸ List.mem_cons_self
      · refine List.forall_mem_map.mpr fun word hword left h => ?_
        cases h
        exact List.mem_cons_of_mem _ hword
    · obtain ⟨first, hfirst, hwords⟩ := bind_eq_ok_iff.mp hwords
      obtain ⟨others, hothers, hwords⟩ := bind_eq_ok_iff.mp hwords
      cases hwords
      refine List.forall_mem_cons.mpr ⟨?_, ?_⟩
      · intro left h
        rw [loose?_classifyWord hfirst h]
        exact List.mem_cons_self
      · exact fun word hword left h => List.mem_cons_of_mem _ (ih hothers word hword left h)

theorem extras_takeSettled {settled : Settled} {taken after : Taken}
    (hafter : takeSettled settled taken = .ok after) : after.extras = taken.extras := by
  obtain ⟨turned, hturned, hafter⟩ := bind_eq_ok_iff.mp hafter
  have hextras : turned.extras = taken.extras := by
    refine foldlM_preserves (P := fun state => state.extras = taken.extras) ?_ rfl hturned
    intro state next spelling hstate hnext
    unfold takeSwitch at hnext
    split at hnext
    · cases hnext
    · cases hnext
      exact hstate
    · cases hnext
      exact hstate
  rw [← hextras]
  split at hafter
  · cases hafter
    rfl
  · next setting text _ =>
    unfold give at hafter
    split at hafter
    · cases hafter
      unfold leave
      split <;> rfl
    split at hafter
    · cases hafter
      rfl
    split at hafter
    · cases hafter
    split at hafter
    · cases hafter
      rfl
    · cases hafter

/-- The words that are repeated are words of the command line. -/
theorem mem_of_mem_repeated {fallbacks : Settings} {arguments : List String} {word : String}
    (h : word ∈ repeated fallbacks arguments) : word ∈ arguments := by
  have hargument {text : List Char} (htext : text ∈ arguments.map String.toList) :
      String.ofList text ∈ arguments := by
    obtain ⟨argument, hargument, rfl⟩ := List.mem_map.mp htext
    rw [String.ofList_toList]
    exact hargument
  unfold repeated at h
  split at h
  · obtain ⟨text, htext, rfl⟩ := List.mem_map.mp h
    exact hargument (mem_of_ambiguousWord? (Option.mem_toList.mp htext))
  · next words hwords =>
    split at h
    · exact absurd h List.not_mem_nil
    · next final hfinal =>
      obtain ⟨text, htext, rfl⟩ := List.mem_map.mp h
      have hextras : ∀ left ∈ final.extras, left ∈ arguments.map String.toList := by
        refine takeWords_preserves
          (P := fun taken => ∀ left ∈ taken.extras, left ∈ arguments.map String.toList) ?_ ?_
          (List.Subset.refl words) (List.forall_mem_nil _) hfinal
        · intro word hword left hleft taken htaken other hother
          rcases List.mem_append.mp hother with hbefore | hlast
          · exact htaken other hbefore
          · rw [List.mem_singleton.mp hlast]
            exact loose?_classify hwords word hword left hleft
        · intro _ _ _ _ _ taken after _ _ _ _ hafter htaken
          rw [extras_takeSettled hafter]
          exact htaken
      exact hargument (hextras text htext)

theorem tellsSettings_extras (extras : List (List Char)) :
    (Failure.ofSettings ("unrecognized arguments: "
      ++ String.intercalate " " (extras.map String.ofList))).TellsSettings
        (extras.map String.ofList) := by
  have hstart : Text.Unbroken "unrecognized arguments: " := .literal rfl (by decide)
  refine .of ?_
  rw [Text.unbroken_append, and_iff_right hstart, Text.unbroken_intercalate (by decide)]

theorem failsAs_apply (fallbacks : Settings) (arguments : List String) :
    FailsAs (Stop.AboutSettings (repeated fallbacks arguments)) (apply fallbacks arguments) := by
  unfold apply repeated
  have hclassify := failsAs_classify (arguments.map String.toList)
  cases hwords : classify (arguments.map String.toList) with
  | error failure =>
    rw [hwords] at hclassify
    exact .error (.failure (hclassify failure rfl))
  | ok words =>
    have htake := failsAs_takeWords words { draft := { settings := fallbacks } }
    simp only [mapError_ok, bind, Except.bind]
    cases htaken : takeWords { draft := { settings := fallbacks } } words with
    | error stop =>
      rw [htaken] at htake
      exact .error (htake stop rfl)
    | ok taken =>
      dsimp only
      split
      · exact .error (.failure (tellsSettings_extras taken.extras))
      · split
        · exact .ok _
        · exact .ok _

/-- A command line that can be read has no words to repeat. -/
theorem repeated_of_apply {fallbacks : Settings} {arguments : List String} {draft : Draft}
    (h : apply fallbacks arguments = .ok draft) : repeated fallbacks arguments = [] := by
  unfold apply at h
  unfold repeated
  cases hwords : classify (arguments.map String.toList) with
  | error failure =>
    rw [hwords] at h
    cases h
  | ok words =>
    rw [hwords] at h
    simp only [mapError_ok, bind, Except.bind] at h
    dsimp only
    cases htaken : takeWords { draft := { settings := fallbacks } } words with
    | error stop => rfl
    | ok taken =>
      rw [htaken] at h
      dsimp only at h ⊢
      split at h
      · cases h
      · next hextras =>
        rw [Decidable.not_not.mp hextras]
        rfl

end Flags

namespace Program

/-- The words of the command line that the trouble with a request repeats as they are. -/
def repeatedWords (arguments : List String) (environment : Environment) : List String :=
  match Settings.ofEnvironment environment with
  | .error _ => []
  | .ok fallbacks => Flags.repeated fallbacks arguments

theorem mem_of_mem_repeatedWords {arguments : List String} {environment : Environment}
    {word : String} (h : word ∈ repeatedWords arguments environment) : word ∈ arguments := by
  unfold repeatedWords at h
  split at h
  · exact absurd h List.not_mem_nil
  · exact Flags.mem_of_mem_repeated h

end Program

theorem Settings.failsAs_read (arguments : List String) (environment : Environment) :
    FailsAs (Trouble.AboutSettings (Program.repeatedWords arguments environment))
      (read arguments environment) := by
  unfold read Program.repeatedWords
  have henvironment := failsAs_ofEnvironment environment
  cases hfallbacks : ofEnvironment environment with
  | error trouble =>
    rw [hfallbacks] at henvironment
    exact .error (henvironment trouble rfl)
  | ok fallbacks =>
    have hflags := Flags.failsAs_apply fallbacks arguments
    simp only [bind, Except.bind]
    cases hdraft : Flags.apply fallbacks arguments with
    | error stop =>
      rw [hdraft] at hflags
      cases hflags stop rfl with
      | help => exact .ok _
      | failure h => exact .error (.failure h)
    | ok draft =>
      dsimp only
      rw [Flags.repeated_of_apply hdraft]
      exact .bind draft.failsAs_validate fun _ _ => .ok _

/-- A command line that can be read has no words to repeat. -/
theorem Settings.repeatedWords_of_read {arguments : List String} {environment : Environment}
    {draft : Draft} (h : read arguments environment = .ok (.check draft)) :
    Program.repeatedWords arguments environment = [] := by
  unfold read at h
  unfold Program.repeatedWords
  cases hfallbacks : ofEnvironment environment with
  | error trouble => rfl
  | ok fallbacks =>
    rw [hfallbacks] at h
    simp only [bind, Except.bind] at h
    dsimp only
    cases hdraft : Flags.apply fallbacks arguments with
    | error stop =>
      rw [hdraft] at h
      cases stop <;> cases h
    | ok given => exact Flags.repeated_of_apply hdraft

theorem Program.failsAs_request (arguments : List String) (environment : Environment)
    (event : Option String) :
    FailsAs (Trouble.AboutSettings (repeatedWords arguments environment))
      (request arguments environment event) := by
  refine .bind (Settings.failsAs_read arguments environment) fun asked hasked => ?_
  split
  · rw [Settings.repeatedWords_of_read hasked]
    exact .bind (failsAs_readEvent _) fun _ _ => .bind (Draft.failsAs_overriddenBy _ _) fun _ _ =>
      .ok _
  · exact .ok _

end SqlGauge
