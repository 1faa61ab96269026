/-!
# Cutting a text at a mark

`pieces` cuts a text at every occurrence of a mark, `cut?` at the first one and `cutLast?` at the
last one. Putting the mark back between the parts gives the text again.
-/

namespace SqlGauge.Text

/-- The pieces between the marks. There is always one more than there are marks. -/
def pieces (mark : Char) : List Char → List (List Char)
  | [] => [[]]
  | c :: rest =>
    match pieces mark rest with
    | [] => [[c]]
    | first :: others => if c = mark then [] :: first :: others else (c :: first) :: others

/-- The parts before and after the first mark. -/
def cut? (mark : Char) : List Char → Option (List Char × List Char)
  | [] => none
  | c :: rest =>
    if c = mark then some ([], rest)
    else (cut? mark rest).map fun (before, after) => (c :: before, after)

/-- The parts before and after the last mark. -/
def cutLast? (mark : Char) : List Char → Option (List Char × List Char)
  | [] => none
  | c :: rest =>
    match cutLast? mark rest with
    | some (before, after) => some (c :: before, after)
    | none => if c = mark then some ([], rest) else none

theorem eq_of_cut? {mark : Char} {text before after : List Char}
    (h : cut? mark text = some (before, after)) : text = before ++ mark :: after := by
  induction text generalizing before with
  | nil => simp [cut?] at h
  | cons c rest ih =>
    by_cases hc : c = mark
    · simp [cut?, hc] at h
      simp [hc, ← h.1, ← h.2]
    · simp only [cut?, hc, if_false, Option.map_eq_some_iff, Prod.exists] at h
      obtain ⟨a, b, hcut, heq⟩ := h
      obtain ⟨rfl, rfl⟩ := Prod.mk.inj heq
      simp [ih hcut]

theorem cut?_append {mark : Char} {before : List Char} (after : List Char) (h : mark ∉ before) :
    cut? mark (before ++ mark :: after) = some (before, after) := by
  induction before with
  | nil => rw [List.nil_append, cut?, if_pos rfl]
  | cons c rest ih =>
    have hc : c ≠ mark := fun heq => h (heq ▸ List.mem_cons_self)
    have hrest : mark ∉ rest := fun hmem => h (List.mem_cons_of_mem _ hmem)
    rw [List.cons_append, cut?, if_neg hc, ih hrest]
    rfl

end SqlGauge.Text
