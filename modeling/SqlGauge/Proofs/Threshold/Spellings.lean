import SqlGauge.Proofs.Threshold.Sameness

/-!
# Spellings of one threshold

A threshold may be written in more than one way. A number alone stands for the range from zero to it, a
lower bound that is left out may be marked by a tilde, and an `@` in front changes the alert side and
nothing else. In each case the two texts have the same bounds, whether these can be read or not
(`Threshold.readBounds_zero`, `Threshold.readBounds_tilde`), so they are read alike: either both are
ranges, or both are refused, and for the same reason (`Threshold.readAlike_spellings`).
-/

namespace SqlGauge.Threshold

/-! ## Texts with the same bounds -/

/-- Both texts are read as ranges, which are related, or both are refused for the same reason. -/
inductive ReadAlike (related : Range → Range → Prop) (a b : String) : Prop where
  | read {first second : Range} (hfirst : read a = .ok (range first))
      (hsecond : read b = .ok (range second)) (h : related first second) :
      ReadAlike related a b
  | refused {flaw : Flaw} (hfirst : read a = .error flaw) (hsecond : read b = .error flaw) :
      ReadAlike related a b

/-- Whether a text starts with the mark that changes the alert side. -/
def isMarked (spec : String) : Bool :=
  spec.toList.head? = some '@'

/-- A text that is not empty is read by its bounds. -/
theorem read_of_ne_empty {spec : String} (h : spec ≠ "") :
    read spec = do
      let (lower, upper) ← readBounds (bodyOf spec)
      if upper.lt lower then .error .reversed
      else return range ⟨isMarked spec, lower, upper, spec⟩ := by
  unfold read
  rw [if_neg h]
  rfl

/-- What is read of two texts with the same bounds differs in the alert side only. -/
theorem readAlike_of_bounds {related : Range → Range → Prop} {a b : String} (ha : a ≠ "")
    (hb : b ≠ "") (hbounds : readBounds (bodyOf a) = readBounds (bodyOf b))
    (hrelated : ∀ {lower upper : Binary64}, lower ≠ .nan → upper ≠ .nan →
      related ⟨isMarked a, lower, upper, a⟩ ⟨isMarked b, lower, upper, b⟩) :
    ReadAlike related a b := by
  have hreadFirst := read_of_ne_empty ha
  have hreadSecond := read_of_ne_empty hb
  rw [hbounds] at hreadFirst
  cases hbody : readBounds (bodyOf b) with
  | error flaw =>
    rw [hbody] at hreadFirst hreadSecond
    exact .refused hreadFirst hreadSecond
  | ok bounds =>
    obtain ⟨lower, upper⟩ := bounds
    obtain ⟨hlower, hupper⟩ := (readBounds_eq_ok_iff_body.mp hbody).ne_nan
    rw [hbody] at hreadFirst hreadSecond
    cases hordered : upper.lt lower with
    | true =>
      simp only [bind, Except.bind, hordered, if_true] at hreadFirst hreadSecond
      exact .refused hreadFirst hreadSecond
    | false =>
      simp only [bind, Except.bind, hordered, Bool.false_eq_true, if_false] at hreadFirst hreadSecond
      exact .read hreadFirst hreadSecond (hrelated hlower hupper)

/-! ## The mark for the alert side -/

theorem ne_empty_of_cons {spec : String} {c : Char} {rest : List Char}
    (h : spec.toList = c :: rest) : spec ≠ "" := by
  rintro rfl
  cases h

theorem unmarked_of_cons {spec : String} {c : Char} {rest : List Char}
    (h : spec.toList = c :: rest) (hc : c ≠ '@') : isMarked spec = false := by
  unfold isMarked
  rw [h, List.head?_cons]
  exact decide_eq_false fun heq => hc (Option.some.inj heq)

theorem bodyOf_of_unmarked {spec : String} (h : isMarked spec = false) :
    bodyOf spec = spec.toList :=
  if_neg (of_decide_eq_false h)

section mark

variable (s : String)

theorem toList_at : ("@" ++ s).toList = '@' :: s.toList :=
  String.toList_append

theorem ne_empty_at : "@" ++ s ≠ "" :=
  ne_empty_of_cons (toList_at s)

theorem isMarked_at : isMarked ("@" ++ s) = true := by
  unfold isMarked
  rw [toList_at]
  rfl

theorem bodyOf_at : bodyOf ("@" ++ s) = s.toList := by
  unfold bodyOf
  rw [toList_at]
  rfl

end mark

/-- An `@` turns the alert of every double around. -/
theorem readAlike_at {s : String} (hs : s ≠ "") (hplain : isMarked s = false) :
    ReadAlike (fun first second => ∀ value, second.alerts value = !first.alerts value) s
      ("@" ++ s) := by
  refine readAlike_of_bounds hs (ne_empty_at s) ?_ ?_
  · rw [bodyOf_of_unmarked hplain, bodyOf_at]
  · intro lower upper _ _ value
    rw [hplain, isMarked_at]
    exact Range.alerts_invert ⟨false, lower, upper, s⟩ value

/-! ## Bounds that may be left out -/

/-- A number alone is the upper bound of a range from zero. -/
theorem readBounds_zero {token : List Char} (hsome : token ≠ []) (hcolon : ':' ∉ token) :
    readBounds ('0' :: ':' :: token) = readBounds token := by
  have hsides := @readBounds_sides ['0'] token (by decide) hcolon
  have hstop : readStop token = readBound token := if_neg hsome
  have hzero : readStart ['0'] = .ok (.zero false) := by decide +kernel
  rw [if_neg fun h => hsome h.2, hstop, hzero] at hsides
  rw [readBounds_alone hcolon, if_neg hsome]
  exact hsides

/-- A tilde stands for the lower bound that is left out. -/
theorem readBounds_tilde {token : List Char} (hsome : token ≠ []) (hcolon : ':' ∉ token) :
    readBounds ('~' :: ':' :: token) = readBounds (':' :: token) := by
  have hmarked := @readBounds_sides ['~'] token (by decide) hcolon
  have hopen := @readBounds_sides [] token (by decide) hcolon
  rw [if_neg fun h => hsome h.2] at hmarked hopen
  exact hmarked.trans hopen.symm

theorem same_of_bounds {inverted : Bool} {lower upper : Binary64} {a b : String}
    (hlower : lower ≠ .nan) (hupper : upper ≠ .nan) :
    Range.same ⟨inverted, lower, upper, a⟩ ⟨inverted, lower, upper, b⟩ = true :=
  Range.same_eq_true_iff.mpr
    ⟨rfl, Binary64.equals_self hlower, Binary64.equals_self hupper⟩

/-- Texts with the same bounds are the same threshold, and stay so after an `@`. -/
theorem readAlike_same {a b : String} (ha : a ≠ "") (hb : b ≠ "") (haplain : isMarked a = false)
    (hbplain : isMarked b = false) (hbounds : readBounds a.toList = readBounds b.toList)
    {mark : String} (hmark : mark ∈ ["", "@"]) :
    ReadAlike (fun first second => first.same second = true) (mark ++ a) (mark ++ b) := by
  rcases List.mem_pair.mp hmark with rfl | rfl
  · rw [String.empty_append, String.empty_append]
    refine readAlike_of_bounds ha hb ?_ ?_
    · rw [bodyOf_of_unmarked haplain, bodyOf_of_unmarked hbplain, hbounds]
    · intro lower upper hlower hupper
      rw [haplain, hbplain]
      exact same_of_bounds hlower hupper
  · refine readAlike_of_bounds (ne_empty_at a) (ne_empty_at b) ?_ ?_
    · rw [bodyOf_at, bodyOf_at, hbounds]
    · intro lower upper hlower hupper
      rw [isMarked_at, isMarked_at]
      exact same_of_bounds hlower hupper

/-- Whatever a text is, it is read alike without and with an `@`, the alerts turned around. A text
without a colon is read alike alone and after a zero and a colon, and a text without one after a colon
is read alike with a tilde before that; these are the same thresholds, and so they are after an `@`. -/
theorem readAlike_spellings (s : String) (hs : s ≠ "") :
    (isMarked s = false →
      ReadAlike (fun first second => ∀ value, second.alerts value = !first.alerts value) s
        ("@" ++ s)) ∧
      (':' ∉ s.toList → ∀ mark ∈ ["", "@"],
        (isMarked s = false →
          ReadAlike (fun first second => first.same second = true) (mark ++ s)
            (mark ++ ("0:" ++ s))) ∧
          ReadAlike (fun first second => first.same second = true) (mark ++ (":" ++ s))
            (mark ++ ("~:" ++ s))) := by
  have hsome : s.toList ≠ [] := fun h => hs (String.toList_eq_nil_iff.mp h)
  have hzero : ("0:" ++ s).toList = '0' :: ':' :: s.toList := String.toList_append
  have hopen : (":" ++ s).toList = ':' :: s.toList := String.toList_append
  have htilde : ("~:" ++ s).toList = '~' :: ':' :: s.toList := String.toList_append
  refine ⟨readAlike_at hs, fun hcolon mark hmark => ⟨fun hplain => ?_, ?_⟩⟩
  · have hbounds : readBounds s.toList = readBounds ("0:" ++ s).toList := by
      rw [hzero, readBounds_zero hsome hcolon]
    exact readAlike_same hs (ne_empty_of_cons hzero) hplain (unmarked_of_cons hzero (by decide))
      hbounds hmark
  · have hbounds : readBounds (":" ++ s).toList = readBounds ("~:" ++ s).toList := by
      rw [hopen, htilde, readBounds_tilde hsome hcolon]
    exact readAlike_same (ne_empty_of_cons hopen) (ne_empty_of_cons htilde)
      (unmarked_of_cons hopen (by decide)) (unmarked_of_cons htilde (by decide)) hbounds hmark

/-- The negative zero, which is read as the range from zero to zero. -/
theorem readAlike_spellings_negative_zero :
    ReadAlike (fun first second => ∀ value, second.alerts value = !first.alerts value) "-0" "@-0" ∧
      (∀ mark ∈ ["", "@"],
        ReadAlike (fun first second => first.same second = true) (mark ++ "-0") (mark ++ "0:-0") ∧
          ReadAlike (fun first second => first.same second = true) (mark ++ ":-0")
            (mark ++ "~:-0")) ∧
      ∃ threshold, read "0:-0" = .ok threshold := by
  obtain ⟨hmarked, hbounds⟩ := readAlike_spellings "-0" (by decide)
  refine ⟨hmarked (by decide), fun mark hmark => ?_, ?_⟩
  · obtain ⟨hzero, htilde⟩ := hbounds (by decide) mark hmark
    exact ⟨hzero (by decide), htilde⟩
  · have hread : read "0:-0" = .ok (.range ⟨false, .zero false, .zero true, "0:-0"⟩) := by
      decide +kernel
    exact ⟨_, hread⟩

end SqlGauge.Threshold
