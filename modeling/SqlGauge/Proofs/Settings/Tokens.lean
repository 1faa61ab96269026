import SqlGauge.Proofs.Settings.Words

/-!
# Flags written in one word

A `Token` is a flag written in one word: its long spelling with a value after an equals sign, or that
of a switch. A command line of tokens is told apart into just these flags (`classify_tokens`), and
they are taken one by one (`apply_tokens`). None of them can be ambiguous or need the next word.
-/

namespace SqlGauge

namespace Flags

/-! ## Tokens -/

/-- A flag in one word: one with its value after an equals sign, or a switch. -/
inductive Token where
  | assign (setting : Setting) (valued : switch? setting = none) (text : String)
  | turn (switch : Switch) (on : Bool)

namespace Token

/-- The spelling in full. -/
def spelling : Token → Spelling
  | assign setting _ _ => long setting.longName (.give setting)
  | turn switch true => long switch.setting.longName (.turn switch true)
  | turn switch false => long ("no-" ++ switch.setting.longName) (.turn switch false)

/-- The word of a command line. -/
def text : Token → String
  | assign setting valued text =>
    String.ofList (spelling (assign setting valued text)).text ++ "=" ++ text
  | turn switch on => String.ofList (spelling (turn switch on)).text

example : (assign .queryArgs rfl "a,b").text = "--query-args=a,b" ∧
    (turn .debug false).text = "--no-debug" := by
  decide

/-- The setting that is given. -/
def setting : Token → Setting
  | assign setting _ _ => setting
  | turn switch _ => switch.setting

/-- What the word is. -/
def word : Token → Word
  | assign setting valued text => .flag (spelling (assign setting valued text)) (some text.toList)
  | turn switch on => .flag (spelling (turn switch on)) none

theorem spelling?_spelling (token : Token) : spelling? token.spelling.text = some token.spelling := by
  cases token with
  | assign setting valued text =>
    show spelling? (long setting.longName (.give setting)).text = some (long setting.longName _)
    cases setting <;> first | decide | cases valued
  | turn switch on => cases switch <;> cases on <;> decide

end Token

theorem not_mem_spelling : ∀ spelling ∈ spellings, '=' ∉ spelling.text := by
  decide

theorem text_of_spelling? {text : List Char} {spelling : Spelling}
    (h : spelling? text = some spelling) : spelling.text = text := by
  unfold spelling? at h
  simpa using List.find?_some h

theorem spelling?_eq_none {text : List Char} (h : '=' ∈ text) : spelling? text = none := by
  refine List.find?_eq_none.mpr fun spelling hspelling heq => ?_
  exact not_mem_spelling spelling hspelling (of_decide_eq_true heq ▸ h)

theorem classifyWord_spelling {text : List Char} {spelling : Spelling}
    (h : spelling? text = some spelling) (hdash : text.head? = some '-') :
    classifyWord text = .ok (.flag spelling none) := by
  unfold classifyWord
  rw [if_neg (not_not_intro hdash), h]

theorem classifyWord_assigned {before : List Char} {spelling : Spelling}
    (h : spelling? before = some spelling) (hdash : before.head? = some '-') (after : List Char) :
    classifyWord (before ++ '=' :: after) = .ok (.flag spelling (some after)) := by
  have hmark : '=' ∈ before ++ '=' :: after := List.mem_append_right _ List.mem_cons_self
  have hbefore : '=' ∉ before := by
    rw [← text_of_spelling? h]
    exact not_mem_spelling spelling (List.mem_of_find?_eq_some h)
  have hhead : (before ++ '=' :: after).head? = some '-' := by
    rw [List.head?_append, hdash]
    rfl
  have hne : before ++ '=' :: after ≠ ['-'] := by
    intro heq
    rw [heq] at hmark
    simp at hmark
  have hassigned : assigned? (before ++ '=' :: after) = some (.flag spelling (some after)) := by
    unfold assigned?
    rw [Text.cut?_append after hbefore]
    show (spelling? before >>= fun spelling => pure (Word.flag spelling (some after))) = _
    rw [h]
    rfl
  unfold classifyWord
  rw [if_neg (not_not_intro hhead), spelling?_eq_none hmark, if_neg hne, hassigned]

namespace Token

theorem head?_spelling (token : Token) : token.spelling.text.head? = some '-' := by
  cases token with
  | assign => rfl
  | turn switch on => cases on <;> rfl

theorem classifyWord_text (token : Token) : classifyWord token.text.toList = .ok token.word := by
  have hspelling := token.spelling?_spelling
  have hdash := token.head?_spelling
  cases token with
  | assign setting valued text =>
    rw [Token.text, String.toList_append, String.toList_append, String.toList_ofList,
      List.append_assoc]
    exact classifyWord_assigned hspelling hdash text.toList
  | turn switch on =>
    rw [Token.text, String.toList_ofList]
    exact classifyWord_spelling hspelling hdash

/-- No flag is the word that ends the flags. -/
theorem text_ne_separator (token : Token) : token.text.toList ≠ ['-', '-'] := by
  intro h
  cases token with
  | assign setting valued text =>
    have hmark : '=' ∈ (assign setting valued text).text.toList := by
      rw [Token.text, String.toList_append, String.toList_append]
      exact List.mem_append_left _ (List.mem_append_right _ List.mem_cons_self)
    rw [h] at hmark
    simp at hmark
  | turn switch on =>
    rw [Token.text, String.toList_ofList] at h
    cases switch <;> cases on <;> exact absurd h (by decide)

end Token

theorem classify_tokens (tokens : List Token) :
    classify ((tokens.map Token.text).map String.toList) = .ok (tokens.map Token.word) := by
  induction tokens with
  | nil => rfl
  | cons token rest ih =>
    rw [List.map_cons, List.map_cons, classify, if_neg token.text_ne_separator,
      token.classifyWord_text, ih]
    rfl

/-! ## Taking tokens -/

namespace Token

/-- The flags of the word with their values. -/
def settled : Token → Settled
  | assign setting valued text =>
    ⟨[], some (spelling (assign setting valued text), setting, text.toList), false⟩
  | turn switch on => ⟨[spelling (turn switch on)], none, false⟩

/-- Takes a token. -/
def take (taken : Taken) (token : Token) : Except Stop Taken :=
  takeSettled token.settled taken

theorem take_assign (taken : Taken) (setting : Setting) (valued : switch? setting = none)
    (text : String) :
    take taken (assign setting valued text) =
      give (spelling (assign setting valued text)) setting text taken := by
  show give _ setting (String.ofList text.toList) taken = _
  rw [String.ofList_toList]

theorem take_turn (taken : Taken) (switch : Switch) (on : Bool) :
    take taken (turn switch on) = .ok { taken with draft := switch.turn taken.draft on } := by
  cases on <;> rfl

/-- Taking the words takes the tokens one by one. -/
theorem takeWords_word (taken : Taken) (token : Token) (rest : List Word) :
    takeWords taken (token.word :: rest) = (do
      let next ← token.take taken
      takeWords next rest) := by
  cases token with
  | assign setting valued text =>
    have hcluster : clusterOf (spelling (assign setting valued text)) (some text.toList) =
        .ok { valued := some (spelling (assign setting valued text), setting, some text.toList) } := by
      unfold clusterOf attach
      rfl
    rw [word, takeWords_flag, hcluster]
    rfl
  | turn switch on =>
    rw [word, takeWords_flag]
    cases on <;> rfl

end Token

theorem takeWords_tokens (taken : Taken) (tokens : List Token) :
    takeWords taken (tokens.map Token.word) = tokens.foldlM Token.take taken := by
  induction tokens generalizing taken with
  | nil => rfl
  | cons token rest ih =>
    rw [List.map_cons, Token.takeWords_word, List.foldlM_cons]
    refine bind_congr fun next => ?_
    exact ih next

/-- The settings that were taken, with the list if its flag was there. -/
def Taken.result (taken : Taken) : Draft :=
  match taken.items with
  | none => taken.draft
  | some items => taken.draft.set .queryArgs items

/-- A command line of tokens is taken token by token. -/
theorem apply_tokens (fallbacks : Settings) (tokens : List Token) :
    apply fallbacks (tokens.map Token.text) =
      (tokens.foldlM Token.take { draft := { settings := fallbacks } }).map Taken.result := by
  unfold apply
  rw [classify_tokens]
  show (takeWords _ (tokens.map Token.word) >>= _) = _
  rw [takeWords_tokens]
  cases htaken : tokens.foldlM Token.take { draft := { settings := fallbacks } } with
  | error stop => rfl
  | ok taken =>
    have hextras : taken.extras = [] :=
      foldlM_preserves (P := fun taken : Taken => taken.extras = [])
        (fun h hnext => (extras_takeSettled hnext).trans h) rfl htaken
    show (if taken.extras ≠ [] then _ else _) = _
    rw [if_neg (not_not_intro hextras)]
    unfold Taken.result
    show (match taken.items with | none => _ | some items => _) = _
    cases hitems : taken.items <;> simp [Except.map, hitems, pure, Except.pure]

end Flags

end SqlGauge
