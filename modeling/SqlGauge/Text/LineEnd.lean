/-!
# Line ends

A line may end with a line feed, a carriage return, or both. `foldLineEnds` writes each of these ends
as a line feed, and makes no text longer (`length_foldLineEnds_le`).
-/

namespace SqlGauge.Text

/-- Writes every line end as a line feed. -/
def foldLineEnds : List Char → List Char
  | [] => []
  | '\r' :: '\n' :: rest => '\n' :: foldLineEnds rest
  | c :: rest => (if c = '\r' then '\n' else c) :: foldLineEnds rest

theorem length_foldLineEnds_le (text : List Char) : (foldLineEnds text).length ≤ text.length := by
  fun_induction foldLineEnds text with
  | case1 => exact Nat.le_refl _
  | case2 rest ih =>
    simp only [List.length_cons]
    omega
  | case3 c rest _ ih => exact Nat.succ_le_succ ih

end SqlGauge.Text
