import SqlGauge.Proofs.Number.Numeral
import SqlGauge.Proofs.Result
import SqlGauge.Threshold

/-!
# How a threshold is taken apart

A range with one colon is read as the two sides of it (`Threshold.readBounds_sides`), one without as
its upper bound (`Threshold.readBounds_alone`); other ranges are not read
(`Threshold.readBounds_eq_ok_iff`). An `@` in front of a range changes the alert side and nothing else
(`Threshold.read_of_bounds`, `Threshold.read_inverted_of_bounds`).
-/

namespace SqlGauge.Threshold

/-! ## Sides -/

/-- Reads what stands before the colon. -/
def readStart (start : List Char) : Except Flaw Binary64 :=
  if start = [] ∨ start = ['~'] then .ok (.infinite true) else readBound start

/-- Reads what stands after the colon. -/
def readStop (stop : List Char) : Except Flaw Binary64 :=
  if stop = [] then .ok (.infinite false) else readBound stop

theorem takeWhile_of_notMem {start : List Char} (rest : List Char) (h : ':' ∉ start) :
    (start ++ ':' :: rest).takeWhile (· ≠ ':') = start ∧
      (start ++ ':' :: rest).dropWhile (· ≠ ':') = ':' :: rest := by
  have hpass : ∀ c ∈ start, decide (c ≠ ':') = true := by
    intro c hc
    exact decide_eq_true fun heq => h (heq ▸ hc)
  constructor
  · rw [List.takeWhile_append_of_pos hpass]
    exact List.append_nil start
  · rw [List.dropWhile_append_of_pos hpass]
    rfl

/-- A range with one colon is read as its two sides. -/
theorem readBounds_sides {start stop : List Char} (hstart : ':' ∉ start) (hstop : ':' ∉ stop) :
    readBounds (start ++ ':' :: stop) =
      if start = [] ∧ stop = [] then .error .noBounds
      else do
        let lower ← readStart start
        let upper ← readStop stop
        return (lower, upper) := by
  have hcount : (start ++ ':' :: stop).count ':' = 1 := by
    rw [List.count_append, List.count_cons_self, List.count_eq_zero.mpr hstart,
      List.count_eq_zero.mpr hstop]
  have hcolon : (start ++ ':' :: stop).contains ':' = true := by
    rw [List.contains_iff_mem]
    exact List.mem_append_right start List.mem_cons_self
  obtain ⟨htake, hdrop⟩ := takeWhile_of_notMem stop hstart
  unfold readBounds
  rw [hcount, if_neg (Nat.lt_irrefl 1), if_pos hcolon]
  simp only [htake, hdrop, List.drop_succ_cons, List.drop_zero, readStart, readStop]
  -- a side that is left out needs no reading, on either hand
  by_cases hnone : start = [] ∧ stop = []
  · rw [if_pos hnone, if_pos hnone]
  · rw [if_neg hnone, if_neg hnone]
    by_cases hopen : start = [] ∨ start = ['~']
    · by_cases hend : stop = []
      · simp only [if_pos hopen, if_pos hend]
      · simp only [if_pos hopen, if_neg hend]
    · by_cases hend : stop = []
      · simp only [if_neg hopen, if_pos hend]
      · simp only [if_neg hopen, if_neg hend]

/-- A range without a colon is its upper bound. -/
theorem readBounds_alone {body : List Char} (h : ':' ∉ body) :
    readBounds body =
      if body = [] then .error .noRange
      else do
        let upper ← readBound body
        return (.zero false, upper) := by
  have hcolon : ¬ body.contains ':' = true := by
    rw [List.contains_iff_mem]
    exact h
  unfold readBounds
  rw [List.count_eq_zero.mpr h, if_neg (Nat.not_lt_zero 1), if_neg hcolon]

/-- What is read has one colon and something beside it, or none and a number. -/
theorem readBounds_eq_ok_iff {body : List Char} {lower upper : Binary64} :
    readBounds body = .ok (lower, upper) ↔
      (∃ start stop, body = start ++ ':' :: stop ∧ ':' ∉ start ∧ ':' ∉ stop ∧
        ¬ (start = [] ∧ stop = []) ∧ readStart start = .ok lower ∧ readStop stop = .ok upper) ∨
      (':' ∉ body ∧ body ≠ [] ∧ lower = .zero false ∧ readBound body = .ok upper) := by
  by_cases hcolon : ':' ∈ body
  · obtain ⟨start, stop, rfl, hstart⟩ := List.eq_append_cons_of_mem hcolon
    rw [or_iff_left fun h => h.1 hcolon]
    by_cases hstop : ':' ∈ stop
    · -- of two colons each side would have one
      have hcount : 1 < (start ++ ':' :: stop).count ':' := by
        have hpos := List.count_pos_iff.mpr hstop
        rw [List.count_append, List.count_cons_self]
        omega
      unfold readBounds
      rw [if_pos hcount]
      refine iff_of_false (fun h => nomatch h) ?_
      rintro ⟨start', stop', heq, hstart', hstop', _⟩
      rw [heq, List.count_append, List.count_cons_self, List.count_eq_zero.mpr hstart',
        List.count_eq_zero.mpr hstop'] at hcount
      omega
    · rw [readBounds_sides hstart hstop]
      by_cases hnone : start = [] ∧ stop = []
      · rw [if_pos hnone]
        refine iff_of_false (fun h => nomatch h) ?_
        obtain ⟨rfl, rfl⟩ := hnone
        rintro ⟨start', stop', heq, _, _, hsome, _⟩
        cases start' with
        | nil => exact hsome ⟨rfl, (List.cons.inj heq).2.symm⟩
        | cons c start' => exact absurd (List.cons.inj heq).2.symm (by simp)
      · rw [if_neg hnone]
        constructor
        · intro h
          obtain ⟨low, hlow, h⟩ := bind_eq_ok_iff.mp h
          obtain ⟨high, hhigh, h⟩ := bind_eq_ok_iff.mp h
          cases h
          exact ⟨start, stop, rfl, hstart, hstop, hnone, hlow, hhigh⟩
        · rintro ⟨start', stop', heq, hstart', _, _, hlow, hhigh⟩
          -- the first colon is at one place
          obtain ⟨htake, hdrop⟩ := takeWhile_of_notMem stop hstart
          obtain ⟨htake', hdrop'⟩ := takeWhile_of_notMem stop' hstart'
          rw [heq] at htake hdrop
          rw [htake'] at htake
          rw [hdrop'] at hdrop
          cases htake
          cases hdrop
          exact bind_eq_ok_iff.mpr ⟨_, hlow, bind_eq_ok_iff.mpr ⟨_, hhigh, rfl⟩⟩
  · rw [readBounds_alone hcolon, or_iff_right]
    · by_cases hnone : body = []
      · rw [if_pos hnone]
        exact iff_of_false (fun h => nomatch h) fun h => h.2.1 hnone
      · rw [if_neg hnone]
        constructor
        · intro h
          obtain ⟨high, hhigh, h⟩ := bind_eq_ok_iff.mp h
          cases h
          exact ⟨hcolon, hnone, rfl, hhigh⟩
        · rintro ⟨_, _, rfl, hhigh⟩
          exact bind_eq_ok_iff.mpr ⟨_, hhigh, rfl⟩
    · rintro ⟨start, stop, rfl, _⟩
      exact hcolon (List.mem_append_right _ List.mem_cons_self)

theorem readBound_eq_ok_iff {token : List Char} {bound : Binary64} :
    readBound token = .ok bound ↔ ∃ d, Decimal.read? token = some d ∧ d.toBinary64 = bound := by
  unfold readBound
  cases Decimal.read? token <;> simp

/-! ## The alert side -/

/-- The range of a threshold, without the mark for its alert side. -/
def bodyOf (spec : String) : List Char :=
  if spec.toList.head? = some '@' then spec.toList.drop 1 else spec.toList

/-- Either there is no text, or its body has bounds in order. -/
theorem read_eq_ok_iff {spec : String} {threshold : Threshold} :
    read spec = .ok threshold ↔
      (spec = "" ∧ threshold = .unset) ∨
      (spec ≠ "" ∧ ∃ lower upper, readBounds (bodyOf spec) = .ok (lower, upper) ∧
        upper.lt lower = false ∧
        threshold = .range ⟨spec.toList.head? = some '@', lower, upper, spec⟩) := by
  unfold read
  by_cases hempty : spec = ""
  · rw [if_pos hempty, or_iff_left fun h => h.1 hempty]
    exact ⟨fun h => ⟨hempty, (Except.ok.inj h).symm⟩, fun h => by rw [h.2]⟩
  · rw [if_neg hempty, or_iff_right fun h => hempty h.1]
    show (readBounds (bodyOf spec) >>= _) = .ok threshold ↔ _
    rw [bind_eq_ok_iff]
    constructor
    · rintro ⟨⟨lower, upper⟩, hbounds, h⟩
      dsimp only at h
      split at h
      · cases h
      · next hordered =>
        cases h
        exact ⟨hempty, lower, upper, hbounds, Bool.eq_false_iff.mpr hordered, rfl⟩
    · rintro ⟨_, lower, upper, hbounds, hordered, rfl⟩
      refine ⟨(lower, upper), hbounds, ?_⟩
      dsimp only
      rw [hordered]
      rfl

/-- Without an `@`, the alert side is outside. -/
theorem read_of_bounds {spec : String} {lower upper : Binary64} (hempty : spec.toList ≠ [])
    (hplain : spec.toList.head? ≠ some '@') (hbounds : readBounds spec.toList = .ok (lower, upper))
    (hordered : upper.lt lower = false) :
    read spec = .ok (range { inverted := false, lower, upper, spec }) := by
  have hspec : spec ≠ "" := by
    rintro rfl
    exact hempty rfl
  unfold read
  rw [if_neg hspec]
  simp only [hplain, decide_false, Bool.false_eq_true, if_false, hbounds, bind, Except.bind,
    hordered]
  rfl

/-- After an `@`, the alert side is inside. -/
theorem read_inverted_of_bounds {spec : String} {lower upper : Binary64}
    (hbounds : readBounds spec.toList = .ok (lower, upper)) (hordered : upper.lt lower = false) :
    read ("@" ++ spec) = .ok (range { inverted := true, lower, upper, spec := "@" ++ spec }) := by
  have hchars : ("@" ++ spec).toList = '@' :: spec.toList := String.toList_append
  have hspec : "@" ++ spec ≠ "" := by
    intro heq
    rw [heq] at hchars
    cases hchars
  unfold read
  rw [if_neg hspec]
  simp only [hchars, List.head?_cons, decide_true, if_true, List.drop_succ_cons, List.drop_zero,
    hbounds, bind, Except.bind, hordered, Bool.false_eq_true, if_false]
  rfl

end SqlGauge.Threshold
