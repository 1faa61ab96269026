import SqlGauge.Proofs.Result
import SqlGauge.Proofs.Settings.Words

/-!
# Settings that are left blank

A flag leaves its setting blank if two dashes stand in the place of the value. They have to be attached
to the flag, as a word of two dashes is no value but ends the flags. So a command line on which no word
ends in two dashes leaves nothing blank (`Flags.blanks_of_apply`).

The texts of a command line are handed on from words to values, and what is handed on is always the
end of a word.
-/

namespace SqlGauge.Flags

/-- The text ends in two dashes. -/
def Dashed (text : List Char) : Prop :=
  noValue.toList <:+ text

theorem not_dashed_of_suffix {part text : List Char} (hpart : part <:+ text) (h : ¬ Dashed text) :
    ¬ Dashed part :=
  fun hdashed => h (List.IsSuffix.trans hdashed hpart)

theorem ne_noValue {text : List Char} (h : ¬ Dashed text) : String.ofList text ≠ noValue := by
  intro heq
  have htext : noValue.toList = text := by rw [← heq, String.toList_ofList]
  exact h ⟨[], htext⟩

/-! ## Words -/

/-- A word whose text does not end in two dashes, and that is no separator. -/
inductive Word.Given : Word → Prop where
  | plain {text : List Char} (h : ¬ Dashed text) : Given (.plain text)
  | unknown (text : List Char) : Given (.unknown text)
  | bare (spelling : Spelling) : Given (.flag spelling none)
  | attached (spelling : Spelling) {text : List Char} (h : ¬ Dashed text) :
      Given (.flag spelling (some text))

theorem not_dashed_of_cut? {text before after : List Char} (h : ¬ Dashed text)
    (hcut : Text.cut? '=' text = some (before, after)) : ¬ Dashed after := by
  refine not_dashed_of_suffix ?_ h
  rw [Text.eq_of_cut? hcut]
  exact ⟨before ++ ['='], by simp⟩

theorem given_abbreviated {text : List Char} (h : ¬ Dashed text) :
    ∀ word ∈ abbreviated text, word.Given := by
  intro word hword
  unfold abbreviated at hword
  split at hword
  next start attached hstart =>
  obtain ⟨spelling, _, rfl⟩ := List.mem_map.mp hword
  split at hstart
  · next before after hcut =>
    cases hstart
    exact .attached spelling (not_dashed_of_cut? h hcut)
  · cases hstart
    exact .bare spelling

theorem given_clustered {text : List Char} (h : ¬ Dashed text) :
    ∀ word ∈ clustered text, word.Given := by
  intro word hword
  obtain ⟨spelling, _, rfl⟩ := List.mem_map.mp hword
  exact .attached spelling (not_dashed_of_suffix (List.drop_suffix 2 text) h)

theorem given_guess {text : List Char} {word : Word} (h : ¬ Dashed text)
    (hword : guess text = .ok word) : word.Given := by
  have hcandidates : ∀ candidate ∈ (if text.take 2 = ['-', '-'] then abbreviated text
      else clustered text), candidate.Given := by
    split
    · exact given_abbreviated h
    · exact given_clustered h
  unfold guess at hword
  dsimp only at hword
  split at hword
  · next heq =>
    cases hword
    exact hcandidates word (heq ▸ List.mem_singleton_self word)
  · split at hword
    · cases hword
      exact .plain h
    · cases hword
      exact .unknown text
  · cases hword

theorem given_classifyWord {text : List Char} {word : Word} (h : ¬ Dashed text)
    (hword : classifyWord text = .ok word) : word.Given := by
  unfold classifyWord at hword
  split at hword
  · cases hword
    exact .plain h
  split at hword
  · cases hword
    exact .bare _
  split at hword
  · cases hword
    exact .plain h
  split at hword
  · next assigned hassigned =>
    cases hword
    obtain ⟨⟨before, after⟩, hcut, hassigned⟩ := Option.bind_eq_some_iff.mp hassigned
    obtain ⟨spelling, _, hassigned⟩ := Option.bind_eq_some_iff.mp hassigned
    cases hassigned
    exact .attached spelling (not_dashed_of_cut? h hcut)
  · exact given_guess h hword

theorem given_classify {texts : List (List Char)} {words : List Word}
    (h : ∀ text ∈ texts, ¬ Dashed text) (hwords : classify texts = .ok words) :
    ∀ word ∈ words, word.Given := by
  induction texts generalizing words with
  | nil =>
    cases hwords
    exact List.forall_mem_nil _
  | cons text rest ih =>
    obtain ⟨htext, hrest⟩ := List.forall_mem_cons.mp h
    unfold classify at hwords
    split at hwords
    · next hseparator =>
      subst hseparator
      exact absurd (List.suffix_refl _) htext
    · obtain ⟨first, hfirst, hwords⟩ := bind_eq_ok_iff.mp hwords
      obtain ⟨others, hothers, hwords⟩ := bind_eq_ok_iff.mp hwords
      cases hwords
      exact List.forall_mem_cons.mpr ⟨given_classifyWord htext hfirst, ih hrest hothers⟩

/-! ## Values -/

/-- The value that follows in a word, if there is one, does not end in two dashes. -/
def Cluster.Given (cluster : Cluster) : Prop :=
  ∀ spelling setting text, cluster.valued = some (spelling, setting, some text) → ¬ Dashed text

theorem given_bare (spelling : Spelling) : (bare spelling).Given := by
  intro valued setting text h
  unfold bare at h
  split at h <;> cases h

theorem given_attach {spelling : Spelling} {attached : List Char} {cluster : Cluster}
    (h : ¬ Dashed attached) (hcluster : attach spelling attached = .ok cluster) :
    cluster.Given := by
  fun_induction attach spelling attached generalizing cluster with
  | case1 attached spelling setting =>
    cases hcluster
    intro valued other text hvalued
    cases hvalued
    exact h
  | case2 => cases hcluster
  | case3 => cases hcluster
  | case4 spelling letter next =>
    cases hcluster
    exact given_bare next
  | case5 spelling letter rest next =>
    rename_i ih
    obtain ⟨inner, hinner, hcluster⟩ := bind_eq_ok_iff.mp hcluster
    cases hcluster
    show inner.Given
    exact ih (not_dashed_of_suffix (List.suffix_cons letter rest) h) hinner

theorem given_clusterOf {spelling : Spelling} {attached : Option (List Char)} {cluster : Cluster}
    (h : (Word.flag spelling attached).Given) (hcluster : clusterOf spelling attached = .ok cluster) :
    cluster.Given := by
  cases h with
  | bare =>
    cases hcluster
    exact given_bare spelling
  | attached spelling h => exact given_attach h hcluster

/-- The value of the flags of a word is attached, or it is the next word. -/
theorem given_settle {cluster : Cluster} {next : Option Word} {settled : Settled}
    (hcluster : cluster.Given) (hnext : ∀ word ∈ next, word.Given)
    (hsettled : settle cluster next = .ok settled) :
    ∀ spelling setting text, settled.valued = some (spelling, setting, text) → ¬ Dashed text := by
  intro spelling setting text hvalued
  unfold settle at hsettled
  split at hsettled
  · cases hsettled
    cases hvalued
  · next heq =>
    cases hsettled
    cases hvalued
    exact hcluster _ _ _ heq
  · split at hsettled
    · cases hsettled
      cases hvalued
      cases hnext _ rfl with
      | plain h => exact h
    · cases hsettled

/-! ## Taking the flags -/

theorem blanks_set {draft : Draft} (h : draft.blanks = []) (setting : Setting)
    (value : setting.Value) : (draft.set setting value).blanks = [] := by
  unfold Draft.set
  rw [h]
  rfl

theorem blanks_takeSwitch {taken next : Taken} {spelling : Spelling}
    (h : taken.draft.blanks = []) (hnext : takeSwitch taken spelling = .ok next) :
    next.draft.blanks = [] := by
  unfold takeSwitch at hnext
  split at hnext
  · cases hnext
  · cases hnext
    exact h
  · next switch on _ =>
    cases hnext
    cases switch with
    | unquote => exact blanks_set h .unquote on
    | debug => exact blanks_set h .debug on

theorem blanks_give {taken next : Taken} {spelling : Spelling} {setting : Setting}
    {text : List Char} (hgiven : ¬ Dashed text) (h : taken.draft.blanks = [])
    (hnext : give spelling setting (String.ofList text) taken = .ok next) :
    next.draft.blanks = [] := by
  unfold give at hnext
  rw [if_neg (ne_noValue hgiven)] at hnext
  split at hnext
  · cases hnext
    exact h
  split at hnext
  · cases hnext
  split at hnext
  · next value _ =>
    cases hnext
    exact blanks_set h setting value
  · cases hnext

theorem blanks_takeSettled {settled : Settled} {taken next : Taken}
    (hgiven : ∀ spelling setting text,
      settled.valued = some (spelling, setting, text) → ¬ Dashed text)
    (h : taken.draft.blanks = []) (hnext : takeSettled settled taken = .ok next) :
    next.draft.blanks = [] := by
  obtain ⟨turned, hturned, hnext⟩ := bind_eq_ok_iff.mp hnext
  have hblanks : turned.draft.blanks = [] :=
    foldlM_preserves (P := fun state => state.draft.blanks = []) blanks_takeSwitch h hturned
  split at hnext
  · cases hnext
    exact hblanks
  · next heq => exact blanks_give (hgiven _ _ _ heq) hblanks hnext

theorem blanks_takeWords {words : List Word} {taken final : Taken}
    (hgiven : ∀ word ∈ words, word.Given) (h : taken.draft.blanks = [])
    (hfinal : takeWords taken words = .ok final) : final.draft.blanks = [] := by
  refine takeWords_preserves (P := fun taken => taken.draft.blanks = []) ?_ ?_
    (List.Subset.refl words) h hfinal
  · intro _ _ _ _ taken htaken
    exact htaken
  · intro _ _ cluster next settled taken after hword hcluster hnext hsettled hafter htaken
    have hcluster := given_clusterOf (hgiven _ hword) hcluster
    have hnext : ∀ word ∈ next, word.Given := fun word hmem => hgiven word (hnext word hmem)
    exact blanks_takeSettled (given_settle hcluster hnext hsettled) htaken hafter

/-! ## Command lines -/

/-- A command line without a word that ends in two dashes leaves nothing blank. -/
theorem blanks_of_apply {fallbacks : Settings} {arguments : List String} {draft : Draft}
    (hgiven : ∀ argument ∈ arguments, ¬ Dashed argument.toList)
    (hdraft : apply fallbacks arguments = .ok draft) : draft.blanks = [] := by
  obtain ⟨words, hwords, hdraft⟩ := bind_eq_ok_iff.mp hdraft
  obtain ⟨taken, htaken, hdraft⟩ := bind_eq_ok_iff.mp hdraft
  rw [mapError_eq_ok_iff] at hwords
  have hblanks : taken.draft.blanks = [] :=
    blanks_takeWords (given_classify (List.forall_mem_map.mpr hgiven) hwords) rfl htaken
  split at hdraft
  · cases hdraft
  split at hdraft
  · cases hdraft
    exact hblanks
  · next items _ =>
    cases hdraft
    exact blanks_set hblanks .queryArgs items

end SqlGauge.Flags
