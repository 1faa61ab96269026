import SqlGauge.Proofs.Number.General
import SqlGauge.Proofs.Threshold.Sameness

/-!
# Ranges written anew

A range is rebuilt from its bounds, in the form that fits them: a number alone where the lower bound is
zero and the upper one finite, and two sides otherwise, of which an infinite one is left out or marked. As
long as no bound has gone to the infinity on the other side, each of these forms is in the grammar and
gives the bounds that it was rebuilt from (`Range.exists_body_rebuilt`). So the text that is rebuilt of a
range is read as the same range, provided that six digits are enough for its finite bounds
(`Threshold.read_rebuilt`).
-/

namespace SqlGauge

/-- Six significant digits are enough for a bound, if it is finite. -/
def Binary64.ReadsBack (bound : Binary64) : Prop :=
  bound.isInfinite = false → Lenient.real bound.generalText = .ok bound

open Binary64 (ReadsBack)

namespace Range

/-! ## Bounds -/

section bounds

variable {bound : Binary64} (number : bound ≠ .nan) (back : bound.ReadsBack)
include number back

/-- A lower bound is written as something that stands for it before a colon. -/
theorem start_boundText (below : bound ≠ .infinite false) :
    Threshold.Start (boundText bound).toList bound ∧ (boundText bound).toList ≠ [] := by
  cases bound with
  | nan => exact absurd rfl number
  | infinite negative =>
    cases negative with
    | false => exact absurd rfl below
    | true => exact ⟨.mark, List.cons_ne_nil _ _⟩
  | finite negative m =>
    obtain ⟨d, hnumeral, hvalue⟩ := Binary64.exists_numeral_of_real (back rfl)
    have hstart := Threshold.Start.number hnumeral
    rw [hvalue] at hstart
    exact ⟨hstart, Decimal.ne_nil_of_read? (Decimal.read?_eq_some_iff_numeral.mpr hnumeral)⟩

/-- An upper bound is written as something that stands for it after a colon. -/
theorem stop_boundText (above : bound ≠ .infinite true) :
    Threshold.Stop (boundText bound).toList bound := by
  cases bound with
  | nan => exact absurd rfl number
  | infinite negative =>
    cases negative with
    | false => exact .absent
    | true => exact absurd rfl above
  | finite negative m =>
    obtain ⟨d, hnumeral, hvalue⟩ := Binary64.exists_numeral_of_real (back rfl)
    have hstop := Threshold.Stop.number hnumeral
    rwa [hvalue] at hstop

/-- A finite bound may stand alone. -/
theorem body_boundText (finite : bound.isInfinite = false) :
    Threshold.Body (boundText bound).toList (.zero false) bound := by
  cases bound with
  | nan => exact absurd rfl number
  | infinite negative => cases finite
  | finite negative m =>
    obtain ⟨d, hnumeral, hvalue⟩ := Binary64.exists_numeral_of_real (back rfl)
    have hbody := Threshold.Body.alone hnumeral
    rwa [hvalue] at hbody

end bounds

/-! ## Ranges -/

/-- A range rebuilt from its bounds, without the mark for its alert side. -/
def rebuiltBody (range : Range) : String :=
  if range.lower.equals (.zero false) && !range.upper.isInfinite then boundText range.upper
  else boundText range.lower ++ ":" ++ boundText range.upper

theorem rebuilt_eq (range : Range) :
    range.rebuilt = (if range.inverted then "@" else "") ++ range.rebuiltBody := by
  unfold rebuilt rebuiltBody
  dsimp only
  split
  · rfl
  · rw [String.append_assoc, String.append_assoc, String.append_assoc]

variable {range : Range}

/-- The body is one of a range with the same bounds. -/
theorem exists_body_rebuilt (proper : range.Proper) (below : range.lower ≠ .infinite false)
    (above : range.upper ≠ .infinite true) (lowerBack : range.lower.ReadsBack)
    (upperBack : range.upper.ReadsBack) :
    ∃ lower, lower.equals range.lower = true ∧
      Threshold.Body range.rebuiltBody.toList lower range.upper := by
  obtain ⟨hlower, hupper⟩ := Binary64.ne_nan_of_le proper
  unfold rebuiltBody
  split
  · next halone =>
    -- the lower bound that is left out may be the other zero
    rw [Bool.and_eq_true, Bool.not_eq_true'] at halone
    refine ⟨.zero false, ?_, body_boundText hupper upperBack halone.2⟩
    exact Binary64.equals_eq_true_iff.mpr (Binary64.equals_eq_true_iff.mp halone.1).symm
  · obtain ⟨hstart, hsome⟩ := start_boundText hlower lowerBack below
    refine ⟨range.lower, Binary64.equals_self hlower, ?_⟩
    rw [String.append_assoc, String.toList_append, String.toList_append]
    exact .sides hstart (stop_boundText hupper upperBack above) fun hnone => hsome hnone.1

/-- The text that is rebuilt denotes the range. -/
theorem exists_denotes_rebuilt (proper : range.Proper) (below : range.lower ≠ .infinite false)
    (above : range.upper ≠ .infinite true) (lowerBack : range.lower.ReadsBack)
    (upperBack : range.upper.ReadsBack) :
    ∃ again, Threshold.Denotes range.rebuilt (.range again) ∧ again.same range = true := by
  obtain ⟨lower, hlower, hbody⟩ := exists_body_rebuilt proper below above lowerBack upperBack
  have hordered : lower.le range.upper = true :=
    Binary64.le_trans (Binary64.equals_eq_true_iff.mp hlower).1 proper
  have hupper := Binary64.equals_self (Binary64.ne_nan_of_le proper).2
  rw [rebuilt_eq]
  cases hside : range.inverted with
  | false =>
    have hdenotes := Threshold.Denotes.outside hbody hordered
    rw [← @String.empty_append range.rebuiltBody] at hdenotes
    exact ⟨_, hdenotes, same_eq_true_iff.mpr ⟨hside.symm, hlower, hupper⟩⟩
  | true =>
    have hmark : ("@" ++ range.rebuiltBody).toList = '@' :: range.rebuiltBody.toList :=
      String.toList_append
    exact ⟨_, .inside hmark hbody hordered, same_eq_true_iff.mpr ⟨hside.symm, hlower, hupper⟩⟩

end Range

namespace Threshold

/-- A range that was read, and whose text is forgotten, is described by another text, which is read as the
same range: if the lower bound is not above all numbers and the upper one not below them, and if six digits
are enough for those bounds that are finite. -/
theorem read_rebuilt {spec : String} {r : Range} (h : read spec = .ok (range r))
    (below : r.lower.lt (.infinite false) = true) (above : (Binary64.infinite true).lt r.upper = true)
    (back : r.lower.ReadsBack ∧ r.upper.ReadsBack) :
    ∃ again, read { r with spec := "" }.text = .ok (range again) ∧ again.same r = true := by
  have hproper := (read_eq_ok_iff_denotes.mp h).proper
  have hlower : r.lower ≠ .infinite false := by
    intro heq
    rw [heq] at below
    exact absurd below (by decide +kernel)
  have hupper : r.upper ≠ .infinite true := by
    intro heq
    rw [heq] at above
    exact absurd above (by decide +kernel)
  have htext : ({ r with spec := "" } : Range).text = r.rebuilt := rfl
  obtain ⟨again, hdenotes, hsame⟩ :=
    Range.exists_denotes_rebuilt hproper hlower hupper back.1 back.2
  rw [htext]
  exact ⟨again, read_eq_ok_iff_denotes.mpr hdenotes, hsame⟩

/-- A lower bound that is rebuilt with an exponent mark, and an upper one that went to infinity and is left
out. -/
theorem read_rebuilt_exponent :
    ∃ r again, read "@-0.00001:1e400" = .ok (range r) ∧ { r with spec := "" }.text = "@-1e-05:" ∧
      read "@-1e-05:" = .ok (range again) ∧ again.same r = true := by
  obtain ⟨r, hr⟩ : ∃ r : Range,
      r = ⟨true, Decimal.toBinary64 ⟨true, 1, -5⟩, .infinite false, "@-0.00001:1e400"⟩ := ⟨_, rfl⟩
  have hread : read "@-0.00001:1e400" = .ok (range r) := by
    rw [hr]
    decide +kernel
  have htext : ({ r with spec := "" } : Range).text = "@-1e-05:" := by
    rw [hr]
    decide +kernel
  have hbelow : r.lower.lt (.infinite false) = true ∧ (Binary64.infinite true).lt r.upper = true := by
    rw [hr]
    decide +kernel
  have hback : r.lower.ReadsBack ∧ r.upper.ReadsBack := by
    rw [hr]
    unfold ReadsBack
    decide +kernel
  obtain ⟨again, hagain, hsame⟩ := read_rebuilt hread hbelow.1 hbelow.2 hback
  rw [htext] at hagain
  exact ⟨r, again, hread, htext, hagain, hsame⟩

end Threshold

end SqlGauge
