import Mathlib.Data.List.TakeWhile
import SqlGauge.Text.Blank
import SqlGauge.Text.Split

/-!
# Where a text is cut

A run of characters of one kind ends where the text does or a character of another kind follows
(`Text.takeWhile_eq_iff`). A cut at the first mark leaves no mark before it, and a cut at the last one
leaves none after it (`Text.cut?_eq_some_iff`, `Text.cutLast?_eq_some_iff`); there is a cut just if there
is a mark. What is left of a trimmed text starts and ends with a character of another kind
(`Text.trimBy_eq_iff`).
-/

namespace SqlGauge.Text

variable {mark : Char} {text before after : List Char}

/-! ## Runs -/

/-- No character of the kind comes next. -/
def Stops (isPart : Char → Bool) (text : List Char) : Prop :=
  ∀ c ∈ text.head?, isPart c = false

theorem stops_nil (isPart : Char → Bool) : Stops isPart [] := nofun

theorem stops_cons {isPart : Char → Bool} {c : Char} {rest : List Char} :
    Stops isPart (c :: rest) ↔ isPart c = false :=
  ⟨fun h => h c rfl, by rintro h _ ⟨⟩; exact h⟩

theorem Stops.of_append {isPart : Char → Bool} {front rest : List Char}
    (h : Stops isPart (front ++ rest)) : Stops isPart front := by
  cases front with
  | nil => exact stops_nil isPart
  | cons c front => exact h

theorem Stops.append {isPart : Char → Bool} {front : List Char} (h : Stops isPart front)
    (some : front ≠ []) (rest : List Char) : Stops isPart (front ++ rest) := by
  cases front with
  | nil => exact absurd rfl some
  | cons c front => exact h

/-- What is taken off a text are characters of the kind, and no further one comes next in the rest. -/
theorem takeWhile_eq_iff {isPart : Char → Bool} {front rest : List Char} :
    text.takeWhile isPart = front ∧ text.dropWhile isPart = rest ↔
      text = front ++ rest ∧ (∀ c ∈ front, isPart c = true) ∧ Stops isPart rest := by
  constructor
  · rintro ⟨rfl, rfl⟩
    refine ⟨List.takeWhile_append_dropWhile.symm, fun c hc => List.mem_takeWhile_imp hc, ?_⟩
    intro c hc
    have hnext := List.head?_dropWhile_not isPart text
    rwa [Option.mem_def.mp hc] at hnext
  · rintro ⟨rfl, hfront, hrest⟩
    rw [List.takeWhile_append_of_pos hfront, List.dropWhile_append_of_pos hfront]
    cases rest with
    | nil => simp
    | cons c rest => simp [hrest c rfl]

theorem trimBy_eq_iff {drop : Char → Bool} {core : List Char} :
    trimBy drop text = core ↔ ∃ before after, text = before ++ (core ++ after) ∧
      (∀ c ∈ before, drop c = true) ∧ (∀ c ∈ after, drop c = true) ∧
      Stops drop core ∧ Stops drop core.reverse := by
  constructor
  · rintro rfl
    obtain ⟨htext, hbefore, hstart⟩ := takeWhile_eq_iff.mp ⟨@rfl _ (text.takeWhile drop), rfl⟩
    obtain ⟨hrest, hafter, hend⟩ := takeWhile_eq_iff.mp
      ⟨@rfl _ ((text.dropWhile drop).reverse.takeWhile drop), rfl⟩
    rw [← List.reverse_inj, List.reverse_reverse, List.reverse_append] at hrest
    refine ⟨_, ((text.dropWhile drop).reverse.takeWhile drop).reverse, ?_, hbefore, ?_, ?_, ?_⟩
    · exact htext.trans (congrArg _ hrest)
    · exact fun c hc => hafter c (List.mem_reverse.mp hc)
    · rw [hrest] at hstart
      exact hstart.of_append
    · unfold trimBy
      rwa [List.reverse_reverse]
  · rintro ⟨before, after, rfl, hbefore, hafter, hstart, hend⟩
    unfold trimBy
    by_cases hcore : core = []
    · -- nothing but blanks: they all belong to the front
      subst hcore
      have hall : ∀ c ∈ before ++ ([] ++ after), drop c = true :=
        List.forall_mem_append.mpr ⟨hbefore, hafter⟩
      rw [List.dropWhile_eq_nil_iff.mpr hall]
      rfl
    · rw [(takeWhile_eq_iff.mpr ⟨rfl, hbefore, hstart.append hcore after⟩).2, List.reverse_append]
      have hreverse : ∀ c ∈ after.reverse, drop c = true :=
        fun c hc => hafter c (List.mem_reverse.mp hc)
      rw [(takeWhile_eq_iff.mpr ⟨rfl, hreverse, hend⟩).2, List.reverse_reverse]

/-! ## Cuts -/

theorem pieces_of_notMem (h : mark ∉ text) : pieces mark text = [text] := by
  induction text with
  | nil => rfl
  | cons c rest ih =>
    obtain ⟨hc, hrest⟩ := List.ne_and_not_mem_of_not_mem_cons h
    simp only [pieces, ih hrest, if_neg (Ne.symm hc)]

theorem cut?_eq_none_iff : cut? mark text = none ↔ mark ∉ text := by
  induction text with
  | nil => simp [cut?]
  | cons c rest ih =>
    by_cases hc : c = mark
    · simp [cut?, hc]
    · simp [cut?, hc, ih, Ne.symm hc]

theorem cut?_eq_some_iff :
    cut? mark text = some (before, after) ↔ text = before ++ mark :: after ∧ mark ∉ before := by
  constructor
  · intro h
    refine ⟨eq_of_cut? h, ?_⟩
    induction text generalizing before with
    | nil => cases h
    | cons c rest ih =>
      by_cases hc : c = mark
      · simp only [cut?, if_pos hc, Option.some.injEq, Prod.mk.injEq] at h
        rw [← h.1]
        exact List.not_mem_nil
      · simp only [cut?, if_neg hc, Option.map_eq_some_iff] at h
        obtain ⟨⟨front, _⟩, hcut, heq⟩ := h
        cases heq
        exact List.not_mem_cons_of_ne_of_not_mem (Ne.symm hc) (ih hcut)
  · rintro ⟨rfl, h⟩
    exact cut?_append after h

theorem cutLast?_eq_none_iff : cutLast? mark text = none ↔ mark ∉ text := by
  induction text with
  | nil => simp [cutLast?]
  | cons c rest ih =>
    rw [cutLast?]
    split
    · next heq =>
      rw [heq] at ih
      simpa using fun _ => ih
    · next heq =>
      have hrest : mark ∉ rest := ih.mp heq
      by_cases hc : c = mark
      · simp [hc]
      · simp [hc, hrest, Ne.symm hc]

theorem cutLast?_append (before : List Char) (h : mark ∉ after) :
    cutLast? mark (before ++ mark :: after) = some (before, after) := by
  induction before with
  | nil =>
    rw [List.nil_append, cutLast?, cutLast?_eq_none_iff.mpr h]
    exact if_pos rfl
  | cons c before ih => rw [List.cons_append, cutLast?, ih]

theorem cutLast?_eq_some_iff :
    cutLast? mark text = some (before, after) ↔ text = before ++ mark :: after ∧ mark ∉ after := by
  constructor
  · intro h
    induction text generalizing before with
    | nil => cases h
    | cons c rest ih =>
      rw [cutLast?] at h
      split at h
      · next hrest =>
        cases h
        obtain ⟨rfl, hafter⟩ := ih hrest
        exact ⟨rfl, hafter⟩
      · next hrest =>
        split at h
        · next hc =>
          cases h
          cases hc
          exact ⟨rfl, cutLast?_eq_none_iff.mp hrest⟩
        · cases h
  · rintro ⟨rfl, h⟩
    exact cutLast?_append before h

end SqlGauge.Text
