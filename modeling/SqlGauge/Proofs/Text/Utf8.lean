import SqlGauge.Text.Utf8

/-!
# What bytes stand for

`Utf8.Stands` says which text bytes stand for, without a decoder: the form of a character stands for
it, and where no form can be read, the longest start of one stands for a replacement, or else a single
byte that no form starts with. The decoder follows it on all bytes (`Utf8.stands_iff`), so it reads
back what was encoded (`Utf8.decode_encode`).

The decoder keeps a sequence whose end it has not read. `Utf8.completed?` is the character that further
bytes make of one, and the decoder is right because the forms that go on from the bytes read so far
are those it still allows (`Utf8.Open`).
-/

namespace SqlGauge.Text.Utf8

open String (utf8EncodeChar)

/-! ## What bytes stand for -/

/-- The form of some character starts with these bytes. -/
def Starts (bytes : List UInt8) : Prop :=
  ∃ c, bytes <+: utf8EncodeChar c

/-- The bytes in front of the others are replaced: no form starts with the one that is there, or they
are the start of a form that the next byte breaks off, or that nothing follows. -/
inductive Broken : List UInt8 → List UInt8 → Prop where
  | stray {byte : UInt8} {rest : List UInt8} (alien : ¬ Starts [byte]) : Broken [byte] rest
  | cut {bad rest : List UInt8} (nonempty : bad ≠ []) (start : Starts bad)
      (unfinished : ∀ c, utf8EncodeChar c ≠ bad)
      (next : ∀ byte ∈ rest.head?, ¬ Starts (bad ++ [byte])) : Broken bad rest

/-- Bytes and the text that they stand for. -/
inductive Stands : List UInt8 → List Char → Prop where
  | nil : Stands [] []
  | char {c : Char} {rest : List UInt8} {text : List Char} (more : Stands rest text) :
      Stands (utf8EncodeChar c ++ rest) (c :: text)
  | replaced {bad rest : List UInt8} {text : List Char} (broken : Broken bad rest)
      (more : Stands rest text) : Stands (bad ++ rest) (replacement :: text)

/-! ## The form of a character -/

/-- The values of the bytes of a code point. -/
def form (code : Nat) : List Nat :=
  if code ≤ 0x7f then [code]
  else if code ≤ 0x7ff then [0xc0 + code / 64, 0x80 + code % 64]
  else if code ≤ 0xffff then [0xe0 + code / 4096, 0x80 + code / 64 % 64, 0x80 + code % 64]
  else [0xf0 + code / 262144, 0x80 + code / 4096 % 64, 0x80 + code / 64 % 64, 0x80 + code % 64]

theorem toNat_lt (c : Char) : c.toNat < 0xd800 ∨ 0xdfff < c.toNat ∧ c.toNat < 0x110000 :=
  c.valid

theorem map_toNat_utf8EncodeChar (c : Char) :
    (utf8EncodeChar c).map UInt8.toNat = form c.toNat := by
  have hcode := toNat_lt c
  unfold utf8EncodeChar form
  simp only [Char.toNat_val]
  -- no byte is cut off, because the code point is below the limit of its length
  by_cases hone : c.toNat ≤ 0x7f
  · simp only [hone, if_true, List.map_cons, List.map_nil, UInt8.toNat_ofNat', List.cons.injEq,
      and_true]
    omega
  by_cases htwo : c.toNat ≤ 0x7ff
  · simp only [hone, htwo, if_true, if_false, List.map_cons, List.map_nil, UInt8.toNat_ofNat',
      List.cons.injEq, and_true]
    omega
  by_cases hthree : c.toNat ≤ 0xffff
  · simp only [hone, htwo, hthree, if_true, if_false, List.map_cons, List.map_nil,
      UInt8.toNat_ofNat', List.cons.injEq,
      and_true]
    omega
  · simp only [hone, htwo, hthree, if_false, List.map_cons, List.map_nil, UInt8.toNat_ofNat',
      List.cons.injEq, and_true]
    omega

/-- Bytes are the form of a character just if they have its values. -/
theorem utf8EncodeChar_eq_iff {c : Char} {bytes : List UInt8} :
    utf8EncodeChar c = bytes ↔ form c.toNat = bytes.map UInt8.toNat := by
  rw [← map_toNat_utf8EncodeChar]
  constructor
  · exact congrArg _
  · exact (List.map_inj_right fun _ _ => UInt8.toNat_inj.mp).mp

/-- A code point that is one of a character is that character's. -/
theorem eq_ofNat_iff {c : Char} {code : Nat}
    (h : code < 0xd800 ∨ 0xdfff < code ∧ code < 0x110000) :
    c = Char.ofNat code ↔ c.toNat = code := by
  constructor
  · rintro rfl
    unfold Char.ofNat
    rw [dif_pos h]
    rfl
  · rintro rfl
    exact (Char.ofNat_toNat c).symm

/-- The four lengths of a form. -/
theorem form_cases (code : Nat) :
    (code ≤ 0x7f ∧ form code = [code]) ∨
      (0x80 ≤ code ∧ code ≤ 0x7ff ∧ form code = [0xc0 + code / 64, 0x80 + code % 64]) ∨
      (0x800 ≤ code ∧ code ≤ 0xffff ∧
        form code = [0xe0 + code / 4096, 0x80 + code / 64 % 64, 0x80 + code % 64]) ∨
      (0x10000 ≤ code ∧
        form code = [0xf0 + code / 262144, 0x80 + code / 4096 % 64, 0x80 + code / 64 % 64,
          0x80 + code % 64]) := by
  unfold form
  by_cases hone : code ≤ 0x7f
  · exact .inl ⟨hone, if_pos hone⟩
  rw [if_neg hone]
  by_cases htwo : code ≤ 0x7ff
  · exact .inr (.inl ⟨by omega, htwo, if_pos htwo⟩)
  rw [if_neg htwo]
  by_cases hthree : code ≤ 0xffff
  · exact .inr (.inr (.inl ⟨by omega, hthree, if_pos hthree⟩))
  · exact .inr (.inr (.inr ⟨by omega, if_neg hthree⟩))

theorem form_one_iff {code byte : Nat} {rest : List Nat} (h : byte ≤ 0x7f) :
    form code = byte :: rest ↔ rest = [] ∧ code = byte := by
  rcases form_cases code with ⟨_, hform⟩ | ⟨_, _, hform⟩ | ⟨_, _, hform⟩ | ⟨_, hform⟩
  · rw [hform, List.cons.injEq, and_comm, @eq_comm _ []]
  · rw [hform, List.cons.injEq]
    omega
  · rw [hform, List.cons.injEq]
    omega
  · rw [hform, List.cons.injEq]
    omega

/-- No form starts with a byte of these. -/
theorem form_ne_stray {code byte : Nat} {rest : List Nat}
    (hcode : code < 0x110000) (h : 0x80 ≤ byte) (h' : byte < 0xc2 ∨ 0xf5 ≤ byte) :
    form code ≠ byte :: rest := by
  rcases form_cases code with ⟨_, hform⟩ | ⟨_, _, hform⟩ | ⟨_, _, hform⟩ | ⟨_, hform⟩
  all_goals
    rw [hform, ne_eq, List.cons.injEq]
    omega

theorem form_two_iff {code byte : Nat} {rest : List Nat} (h : 0xc2 ≤ byte) (h' : byte ≤ 0xdf) :
    form code = byte :: rest ↔
      ∃ second, rest = [second] ∧ (0x80 ≤ second ∧ second ≤ 0xbf) ∧
        code = (byte - 0xc0) * 64 + second % 64 := by
  constructor
  · intro heq
    rcases form_cases code with ⟨_, hform⟩ | ⟨_, _, hform⟩ | ⟨_, _, hform⟩ | ⟨_, hform⟩
    all_goals
      rw [hform] at heq
      obtain ⟨hbyte, hrest⟩ := List.cons.inj heq
    · omega
    · exact ⟨_, hrest.symm, by omega, by omega⟩
    · omega
    · omega
  · rintro ⟨second, rfl, hrange, hcode⟩
    rcases form_cases code with ⟨_, hform⟩ | ⟨_, _, hform⟩ | ⟨_, _, hform⟩ | ⟨_, hform⟩
    · omega
    · rw [hform]
      simp only [List.cons.injEq, and_true]
      omega
    · omega
    · omega

theorem form_three_iff {code byte : Nat} {rest : List Nat}
    (hcode : code < 0xd800 ∨ 0xdfff < code) (h : 0xe0 ≤ byte) (h' : byte ≤ 0xef) :
    form code = byte :: rest ↔
      ∃ second third, rest = [second, third] ∧
        ((if byte = 0xe0 then 0xa0 else 0x80) ≤ second ∧
          second ≤ if byte = 0xed then 0x9f else 0xbf) ∧ (0x80 ≤ third ∧ third ≤ 0xbf) ∧
        code = ((byte - 0xe0) * 64 + second % 64) * 64 + third % 64 := by
  constructor
  · intro heq
    rcases form_cases code with ⟨_, hform⟩ | ⟨_, _, hform⟩ | ⟨_, _, hform⟩ | ⟨_, hform⟩
    all_goals
      rw [hform] at heq
      obtain ⟨hbyte, hrest⟩ := List.cons.inj heq
    · omega
    · omega
    · refine ⟨_, _, hrest.symm, ⟨?_, ?_⟩, by omega, by omega⟩
      · split <;> omega
      · split <;> omega
    · omega
  · rintro ⟨second, third, rfl, ⟨hlow, hhigh⟩, hthird, hvalue⟩
    have hsecond : 0x80 ≤ second ∧ second ≤ 0xbf ∧ (byte = 0xe0 → 0xa0 ≤ second) := by
      split at hlow <;> split at hhigh <;> omega
    rcases form_cases code with ⟨_, hform⟩ | ⟨_, _, hform⟩ | ⟨_, _, hform⟩ | ⟨_, hform⟩
    · omega
    · omega
    · rw [hform]
      simp only [List.cons.injEq, and_true]
      omega
    · omega

theorem form_four_iff {code byte : Nat} {rest : List Nat} (hcode : code < 0x110000)
    (h : 0xf0 ≤ byte) (h' : byte ≤ 0xf4) :
    form code = byte :: rest ↔
      ∃ second third fourth, rest = [second, third, fourth] ∧
        ((if byte = 0xf0 then 0x90 else 0x80) ≤ second ∧
          second ≤ if byte = 0xf4 then 0x8f else 0xbf) ∧ (0x80 ≤ third ∧ third ≤ 0xbf) ∧
        (0x80 ≤ fourth ∧ fourth ≤ 0xbf) ∧
        code = (((byte - 0xf0) * 64 + second % 64) * 64 + third % 64) * 64 + fourth % 64 := by
  constructor
  · intro heq
    rcases form_cases code with ⟨_, hform⟩ | ⟨_, _, hform⟩ | ⟨_, _, hform⟩ | ⟨_, hform⟩
    all_goals
      rw [hform] at heq
      obtain ⟨hbyte, hrest⟩ := List.cons.inj heq
    · omega
    · omega
    · omega
    · refine ⟨_, _, _, hrest.symm, ⟨?_, ?_⟩, by omega, by omega, by omega⟩
      · split <;> omega
      · split <;> omega
  · rintro ⟨second, third, fourth, rfl, ⟨hlow, hhigh⟩, hthird, hfourth, hvalue⟩
    have hsecond : 0x80 ≤ second ∧ second ≤ 0xbf ∧ (byte = 0xf0 → 0x90 ≤ second) := by
      split at hlow <;> split at hhigh <;> omega
    rcases form_cases code with ⟨_, hform⟩ | ⟨_, _, hform⟩ | ⟨_, _, hform⟩ | ⟨_, hform⟩
    · omega
    · omega
    · omega
    · rw [hform]
      simp only [List.cons.injEq, and_true]
      omega

/-! ## First bytes -/

theorem first_one {byte : Nat} (h : byte ≤ 0x7f) : first byte = ([Char.ofNat byte], none) := by
  unfold first
  exact if_pos (by omega)

theorem first_stray {byte : Nat} (h : 0x80 ≤ byte) (h' : byte < 0xc2 ∨ 0xf5 ≤ byte) :
    first byte = ([replacement], none) := by
  unfold first
  rw [if_neg (by omega)]
  rcases h' with hlow | hhigh
  · exact if_pos hlow
  · rw [if_neg (by omega), if_neg (by omega), if_neg (by omega), if_neg (by omega),
      if_neg (by omega), if_neg (by omega), if_neg (by omega), if_neg (by omega)]

theorem first_two {byte : Nat} (h : 0xc2 ≤ byte) (h' : byte ≤ 0xdf) :
    first byte = ([], some ⟨byte - 0xc0, 1, 0x80, 0xbf⟩) := by
  unfold first
  rw [if_neg (by omega), if_neg (by omega), if_pos (by omega)]

/-- Of three bytes, the second one is bounded so that the form is not overlong and is no surrogate. -/
theorem first_three {byte : Nat} (h : 0xe0 ≤ byte) (h' : byte ≤ 0xef) :
    first byte = ([], some ⟨byte - 0xe0, 2, if byte = 0xe0 then 0xa0 else 0x80,
      if byte = 0xed then 0x9f else 0xbf⟩) := by
  unfold first
  rw [if_neg (by omega), if_neg (by omega), if_neg (by omega)]
  by_cases hlow : byte = 0xe0
  · subst hlow
    rfl
  by_cases hsurrogate : byte = 0xed
  · subst hsurrogate
    rfl
  · rw [if_neg hlow, if_neg hsurrogate, if_pos (by omega), if_neg hlow, if_neg hsurrogate]

/-- Of four bytes, the second one is bounded so that the form is not overlong and in range. -/
theorem first_four {byte : Nat} (h : 0xf0 ≤ byte) (h' : byte ≤ 0xf4) :
    first byte = ([], some ⟨byte - 0xf0, 3, if byte = 0xf0 then 0x90 else 0x80,
      if byte = 0xf4 then 0x8f else 0xbf⟩) := by
  unfold first
  rw [if_neg (by omega), if_neg (by omega), if_neg (by omega), if_neg (by omega),
    if_neg (by omega), if_neg (by omega)]
  by_cases hlow : byte = 0xf0
  · subst hlow
    rfl
  by_cases hhigh : byte = 0xf4
  · subst hhigh
    rfl
  · rw [if_neg hlow, if_pos (by omega), if_neg hlow, if_neg hhigh]

/-! ## Sequences -/

/-- The character that bytes make of a sequence whose end has not been read. -/
def completed? : Pending → List UInt8 → Option Char
  | _, [] => none
  | p, byte :: rest =>
    if p.low ≤ byte.toNat ∧ byte.toNat ≤ p.high then
      if p.missing ≤ 1 then
        if rest = [] then some (Char.ofNat (p.bits * 64 + byte.toNat % 64)) else none
      else completed? ⟨p.bits * 64 + byte.toNat % 64, p.missing - 1, 0x80, 0xbf⟩ rest
    else none

section

variable {bytes : List UInt8} {c : Char}

/-- The last byte of a sequence gives its character. -/
theorem completed?_one_iff {bits low high : Nat} :
    completed? ⟨bits, 1, low, high⟩ bytes = some c ↔
      ∃ byte, bytes = [byte] ∧ (low ≤ byte.toNat ∧ byte.toNat ≤ high) ∧
        c = Char.ofNat (bits * 64 + byte.toNat % 64) := by
  cases bytes with
  | nil => simp [completed?]
  | cons byte rest =>
    simp only [completed?, Nat.le_refl, if_true, List.cons.injEq]
    by_cases hrange : low ≤ byte.toNat ∧ byte.toNat ≤ high
    · by_cases hrest : rest = []
      · simp [hrange, hrest, eq_comm]
      · simp [hrest]
    · rw [if_neg hrange]
      refine iff_of_false (Option.some_ne_none _).symm ?_
      rintro ⟨_, ⟨rfl, _⟩, hbyte, _⟩
      exact hrange hbyte

/-- A byte that is not the last one leaves the sequence open. -/
theorem completed?_more_iff {p : Pending} (hmore : 1 < p.missing) :
    completed? p bytes = some c ↔
      ∃ byte rest, bytes = byte :: rest ∧ (p.low ≤ byte.toNat ∧ byte.toNat ≤ p.high) ∧
        completed? ⟨p.bits * 64 + byte.toNat % 64, p.missing - 1, 0x80, 0xbf⟩ rest = some c := by
  cases bytes with
  | nil => simp [completed?]
  | cons byte rest =>
    simp only [completed?, if_neg (Nat.not_le.mpr hmore), List.cons.injEq]
    by_cases hrange : p.low ≤ byte.toNat ∧ byte.toNat ≤ p.high
    · rw [if_pos hrange]
      exact ⟨fun h => ⟨byte, rest, ⟨rfl, rfl⟩, hrange, h⟩,
        fun ⟨_, _, ⟨rfl, rfl⟩, _, h⟩ => h⟩
    · rw [if_neg hrange]
      refine iff_of_false (Option.some_ne_none _).symm ?_
      rintro ⟨_, _, ⟨rfl, rfl⟩, hbyte, _⟩
      exact hrange hbyte

theorem completed?_two_iff {bits low high : Nat} :
    completed? ⟨bits, 2, low, high⟩ bytes = some c ↔
      ∃ byte rest, bytes = byte :: rest ∧ (low ≤ byte.toNat ∧ byte.toNat ≤ high) ∧
        completed? ⟨bits * 64 + byte.toNat % 64, 1, 0x80, 0xbf⟩ rest = some c :=
  @completed?_more_iff _ _ ⟨bits, 2, low, high⟩ Nat.one_lt_two

theorem completed?_three_iff {bits low high : Nat} :
    completed? ⟨bits, 3, low, high⟩ bytes = some c ↔
      ∃ byte rest, bytes = byte :: rest ∧ (low ≤ byte.toNat ∧ byte.toNat ≤ high) ∧
        completed? ⟨bits * 64 + byte.toNat % 64, 2, 0x80, 0xbf⟩ rest = some c :=
  @completed?_more_iff _ _ ⟨bits, 3, low, high⟩ (Nat.lt_of_succ_lt Nat.le.refl)

end

/-! ## Forms by their first byte -/

/-- Values of bytes are listed just if the bytes are. -/
theorem map_toNat_eq_cons_iff {bytes : List UInt8} {value : Nat} {values : List Nat} :
    bytes.map UInt8.toNat = value :: values ↔
      ∃ byte rest, bytes = byte :: rest ∧ byte.toNat = value ∧ rest.map UInt8.toNat = values :=
  List.map_eq_cons_iff

section

variable {c : Char} {byte : UInt8} {rest : List UInt8}

theorem form_eq_iff_of_two (h : 0xc2 ≤ byte.toNat) (h' : byte.toNat ≤ 0xdf) :
    form c.toNat = byte.toNat :: rest.map UInt8.toNat ↔
      completed? ⟨byte.toNat - 0xc0, 1, 0x80, 0xbf⟩ rest = some c := by
  have hvalid : ∀ second : Nat, (byte.toNat - 0xc0) * 64 + second % 64 < 0xd800 := by
    intro second
    omega
  rw [form_two_iff h h', completed?_one_iff]
  constructor
  · rintro ⟨_, hrest, hrange, hcode⟩
    obtain ⟨second, _, rfl, rfl, hnil⟩ := map_toNat_eq_cons_iff.mp hrest
    obtain rfl := List.map_eq_nil_iff.mp hnil
    exact ⟨second, rfl, hrange, (eq_ofNat_iff (.inl (hvalid _))).mpr hcode⟩
  · rintro ⟨second, rfl, hrange, hc⟩
    exact ⟨second.toNat, rfl, hrange, (eq_ofNat_iff (.inl (hvalid _))).mp hc⟩

theorem form_eq_iff_of_three (h : 0xe0 ≤ byte.toNat) (h' : byte.toNat ≤ 0xef) :
    form c.toNat = byte.toNat :: rest.map UInt8.toNat ↔
      completed? ⟨byte.toNat - 0xe0, 2, if byte.toNat = 0xe0 then 0xa0 else 0x80,
        if byte.toNat = 0xed then 0x9f else 0xbf⟩ rest = some c := by
  have hcode := toNat_lt c
  -- the bounds on the second byte leave out the surrogates
  have hvalid : ∀ second third : Nat,
      (if byte.toNat = 0xe0 then 0xa0 else 0x80) ≤ second ∧
        second ≤ (if byte.toNat = 0xed then 0x9f else 0xbf) →
      let code := ((byte.toNat - 0xe0) * 64 + second % 64) * 64 + third % 64
      code < 0xd800 ∨ 0xdfff < code ∧ code < 0x110000 := by
    rintro second third ⟨hlow, hhigh⟩
    dsimp only
    split at hlow <;> split at hhigh <;> omega
  rw [form_three_iff (by omega) h h']
  simp only [completed?_two_iff, completed?_one_iff]
  constructor
  · rintro ⟨_, _, hrest, hsecond, hthird, hvalue⟩
    obtain ⟨second, _, rfl, rfl, hmore⟩ := map_toNat_eq_cons_iff.mp hrest
    obtain ⟨third, _, rfl, rfl, hnil⟩ := map_toNat_eq_cons_iff.mp hmore
    obtain rfl := List.map_eq_nil_iff.mp hnil
    exact ⟨second, [third], rfl, hsecond, third, rfl, hthird,
      (eq_ofNat_iff (hvalid _ _ hsecond)).mpr hvalue⟩
  · rintro ⟨second, _, rfl, hsecond, third, rfl, hthird, hc⟩
    exact ⟨second.toNat, third.toNat, rfl, hsecond, hthird,
      (eq_ofNat_iff (hvalid _ _ hsecond)).mp hc⟩

theorem form_eq_iff_of_four (h : 0xf0 ≤ byte.toNat) (h' : byte.toNat ≤ 0xf4) :
    form c.toNat = byte.toNat :: rest.map UInt8.toNat ↔
      completed? ⟨byte.toNat - 0xf0, 3, if byte.toNat = 0xf0 then 0x90 else 0x80,
        if byte.toNat = 0xf4 then 0x8f else 0xbf⟩ rest = some c := by
  have hcode := toNat_lt c
  -- the bounds on the second byte leave out what is overlong and what is out of range
  have hvalid : ∀ second third fourth : Nat,
      (if byte.toNat = 0xf0 then 0x90 else 0x80) ≤ second ∧
        second ≤ (if byte.toNat = 0xf4 then 0x8f else 0xbf) →
      let code := (((byte.toNat - 0xf0) * 64 + second % 64) * 64 + third % 64) * 64 + fourth % 64
      code < 0xd800 ∨ 0xdfff < code ∧ code < 0x110000 := by
    rintro second third fourth ⟨hlow, hhigh⟩
    dsimp only
    split at hlow <;> split at hhigh <;> omega
  rw [form_four_iff (by omega) h h']
  simp only [completed?_three_iff, completed?_two_iff, completed?_one_iff]
  constructor
  · rintro ⟨_, _, _, hrest, hsecond, hthird, hfourth, hvalue⟩
    obtain ⟨second, _, rfl, rfl, hmore⟩ := map_toNat_eq_cons_iff.mp hrest
    obtain ⟨third, _, rfl, rfl, hlast⟩ := map_toNat_eq_cons_iff.mp hmore
    obtain ⟨fourth, _, rfl, rfl, hnil⟩ := map_toNat_eq_cons_iff.mp hlast
    obtain rfl := List.map_eq_nil_iff.mp hnil
    exact ⟨second, [third, fourth], rfl, hsecond, third, [fourth], rfl, hthird, fourth, rfl,
      hfourth, (eq_ofNat_iff (hvalid _ _ _ hsecond)).mpr hvalue⟩
  · rintro ⟨second, _, rfl, hsecond, third, _, rfl, hthird, fourth, rfl, hfourth, hc⟩
    exact ⟨second.toNat, third.toNat, fourth.toNat, rfl, hsecond, hthird, hfourth,
      (eq_ofNat_iff (hvalid _ _ _ hsecond)).mp hc⟩

/-- The form of a character is a single byte, or a first one and those that complete its
sequence. -/
theorem utf8EncodeChar_eq_cons_iff :
    utf8EncodeChar c = byte :: rest ↔
      (rest = [] ∧ first byte.toNat = ([c], none) ∧ byte.toNat ≤ 0x7f) ∨
        ∃ p, first byte.toNat = ([], some p) ∧ completed? p rest = some c := by
  have hcode := toNat_lt c
  rw [utf8EncodeChar_eq_iff, List.map_cons]
  by_cases hone : byte.toNat ≤ 0x7f
  · rw [form_one_iff hone, first_one hone, List.map_eq_nil_iff, ← eq_ofNat_iff (by omega)]
    simp [hone, eq_comm]
  by_cases hstray : byte.toNat < 0xc2 ∨ 0xf5 ≤ byte.toNat
  · rw [first_stray (by omega) hstray]
    refine iff_of_false (form_ne_stray (by omega) (by omega) hstray) ?_
    rintro (⟨_, _, hsmall⟩ | ⟨p, hp, _⟩)
    · exact hone hsmall
    · cases hp
  rw [or_iff_right fun h => hone h.2.2]
  by_cases htwo : byte.toNat ≤ 0xdf
  · rw [first_two (by omega) htwo, form_eq_iff_of_two (by omega) htwo]
    simp
  by_cases hthree : byte.toNat ≤ 0xef
  · rw [first_three (by omega) hthree, form_eq_iff_of_three (by omega) hthree]
    simp
  · rw [first_four (by omega) (by omega), form_eq_iff_of_four (by omega) (by omega)]
    simp

end

/-! ## Prefixes -/

theorem completed?_append_eq {p : Pending} {bytes more : List UInt8} {c c' : Char}
    (h : completed? p bytes = some c) (h' : completed? p (bytes ++ more) = some c') : more = [] := by
  induction bytes generalizing p with
  | nil => cases h
  | cons byte rest ih =>
    simp only [List.cons_append, completed?] at h h'
    split at h
    · next hrange =>
      rw [if_pos hrange] at h'
      split at h
      · next hlast =>
        rw [if_pos hlast] at h'
        split at h
        · next hnil =>
          split at h'
          · next hboth => exact (List.append_eq_nil_iff.mp hboth).2
          · cases h'
        · cases h
      · next hlast =>
        rw [if_neg hlast] at h'
        exact ih h h'
    · cases h

/-- No form is the start of another one. -/
theorem eq_nil_of_form_append {c c' : Char} {more : List UInt8}
    (h : utf8EncodeChar c' = utf8EncodeChar c ++ more) : more = [] := by
  cases hform : utf8EncodeChar c with
  | nil => exact absurd hform String.utf8EncodeChar_ne_nil
  | cons byte rest =>
    rw [hform, List.cons_append] at h
    rcases utf8EncodeChar_eq_cons_iff.mp hform with ⟨rfl, hfirst, _⟩ | ⟨p, hfirst, hrest⟩
    · rcases utf8EncodeChar_eq_cons_iff.mp h with ⟨hmore, _⟩ | ⟨p, hfirst', _⟩
      · exact hmore
      · rw [hfirst] at hfirst'
        cases hfirst'
    · rcases utf8EncodeChar_eq_cons_iff.mp h with ⟨_, hfirst', _⟩ | ⟨p', hfirst', hmore⟩
      · rw [hfirst] at hfirst'
        cases hfirst'
      · rw [hfirst] at hfirst'
        cases hfirst'
        exact completed?_append_eq hrest hmore

theorem Starts.of_append {bytes more : List UInt8} (h : Starts (bytes ++ more)) : Starts bytes := by
  obtain ⟨c, hc⟩ := h
  exact ⟨c, (List.prefix_append bytes more).trans hc⟩

/-- A sequence that allows a byte can be completed. -/
theorem exists_completed? (missing : Nat) {bits low high : Nat} (hlow : low ≤ high)
    (hhigh : high ≤ 0xff) : ∃ rest c, completed? ⟨bits, missing + 1, low, high⟩ rest = some c := by
  have hbyte : (UInt8.ofNat low).toNat = low := by
    rw [UInt8.toNat_ofNat']
    omega
  induction missing generalizing bits low high with
  | zero =>
    refine ⟨[UInt8.ofNat low], _, completed?_one_iff.mpr ⟨_, rfl, ?_, rfl⟩⟩
    rw [hbyte]
    exact ⟨Nat.le_refl low, hlow⟩
  | succ missing ih =>
    obtain ⟨rest, c, h⟩ := @ih (bits * 64 + low % 64) 0x80 0xbf (by omega) (by omega) rfl
    refine ⟨UInt8.ofNat low :: rest, c, (completed?_more_iff (by dsimp only; omega)).mpr ?_⟩
    refine ⟨_, _, rfl, ?_, ?_⟩
    · rw [hbyte]
      exact ⟨Nat.le_refl low, hlow⟩
    · rw [hbyte]
      exact h

/-! ## Open sequences -/

/-- The sequence is what the decoder keeps of these bytes: the forms that go on from them are those
that complete it, and there are some. -/
structure Open (bytes : List UInt8) (p : Pending) : Prop where
  nonempty : bytes ≠ []
  missing : 1 ≤ p.missing
  low : p.low ≤ p.high
  high : p.high ≤ 0xff
  forms : ∀ rest c, utf8EncodeChar c = bytes ++ rest ↔ completed? p rest = some c

namespace Open

variable {bytes : List UInt8} {p : Pending}

theorem starts (h : Open bytes p) : Starts bytes := by
  obtain ⟨missing, hmissing⟩ := Nat.exists_eq_add_of_le' h.missing
  obtain ⟨rest, c, hrest⟩ := @exists_completed? missing p.bits p.low p.high h.low h.high
  rw [← hmissing] at hrest
  exact ⟨c, rest, ((h.forms rest c).mpr hrest).symm⟩

/-- An open sequence is no whole form. -/
theorem unfinished (h : Open bytes p) (c : Char) : utf8EncodeChar c ≠ bytes := by
  intro hform
  have hnone := (h.forms [] c).mp (hform.trans (List.append_nil bytes).symm)
  cases hnone

/-- A byte completes an open sequence, leaves it open, or breaks it off. -/
theorem feed_cases (h : Open bytes p) (byte : UInt8) :
    (∃ c, utf8EncodeChar c = bytes ++ [byte] ∧ feed (some p) byte.toNat = ([c], none)) ∨
      (∃ p', Open (bytes ++ [byte]) p' ∧ feed (some p) byte.toNat = ([], some p')) ∨
      (¬ Starts (bytes ++ [byte]) ∧
        feed (some p) byte.toNat = (replacement :: (first byte.toNat).1, (first byte.toNat).2)) := by
  by_cases hrange : p.low ≤ byte.toNat ∧ byte.toNat ≤ p.high
  · by_cases hlast : p.missing ≤ 1
    · refine .inl ⟨Char.ofNat (p.bits * 64 + byte.toNat % 64), ?_, ?_⟩
      · rw [h.forms]
        simp only [completed?, if_pos hrange, if_pos hlast, if_true]
      · simp only [feed, if_pos hrange, if_pos hlast]
    · refine .inr (.inl ⟨⟨p.bits * 64 + byte.toNat % 64, p.missing - 1, 0x80, 0xbf⟩, ?_, ?_⟩)
      · refine ⟨List.append_ne_nil_of_right_ne_nil _ (List.cons_ne_nil _ _), by dsimp only; omega,
          by dsimp only; omega, by dsimp only; omega, fun rest c => ?_⟩
        rw [List.append_assoc, List.singleton_append, h.forms]
        simp only [completed?, if_pos hrange, if_neg hlast]
      · simp only [feed, if_pos hrange, if_neg hlast]
  · refine .inr (.inr ⟨?_, ?_⟩)
    · rintro ⟨c, rest, hform⟩
      rw [List.append_assoc, List.singleton_append] at hform
      have hsome := (h.forms _ c).mp hform.symm
      simp only [completed?, if_neg hrange] at hsome
      cases hsome
    · simp only [feed, if_neg hrange]

end Open

/-- A byte is a form, starts a longer one, or starts none. -/
theorem first_cases (byte : UInt8) :
    (∃ c, utf8EncodeChar c = [byte] ∧ first byte.toNat = ([c], none)) ∨
      (∃ p, Open [byte] p ∧ first byte.toNat = ([], some p)) ∨
      (¬ Starts [byte] ∧ first byte.toNat = ([replacement], none)) := by
  have hbyte := byte.toNat_lt
  by_cases hone : byte.toNat ≤ 0x7f
  · have hfirst := first_one hone
    exact .inl ⟨_, utf8EncodeChar_eq_cons_iff.mpr (.inl ⟨rfl, hfirst, hone⟩), hfirst⟩
  by_cases hstray : byte.toNat < 0xc2 ∨ 0xf5 ≤ byte.toNat
  · have hfirst := first_stray (by omega) hstray
    refine .inr (.inr ⟨?_, hfirst⟩)
    rintro ⟨c, rest, hform⟩
    rcases utf8EncodeChar_eq_cons_iff.mp hform.symm with ⟨_, _, hsmall⟩ | ⟨p, hp, _⟩
    · exact hone hsmall
    · rw [hfirst] at hp
      cases hp
  -- every other byte leaves a sequence open, and its forms are those that complete the sequence
  have hopen : ∀ bits missing low high : Nat,
      first byte.toNat = ([], some ⟨bits, missing, low, high⟩) → 1 ≤ missing → low ≤ high →
        high ≤ 0xff → Open [byte] ⟨bits, missing, low, high⟩ := by
    intro bits missing low high hfirst hmissing hlow hhigh
    refine ⟨List.cons_ne_nil _ _, hmissing, hlow, hhigh, fun rest c => ?_⟩
    rw [List.singleton_append, utf8EncodeChar_eq_cons_iff, or_iff_right fun h => hone h.2.2, hfirst]
    simp
  by_cases htwo : byte.toNat ≤ 0xdf
  · have hfirst := first_two (by omega) htwo
    exact .inr (.inl ⟨_, hopen _ _ _ _ hfirst (by omega) (by omega) (by omega), hfirst⟩)
  by_cases hthree : byte.toNat ≤ 0xef
  · have hfirst := first_three (by omega) hthree
    refine .inr (.inl ⟨_, hopen _ _ _ _ hfirst (by omega) ?_ ?_, hfirst⟩)
    · split <;> split <;> omega
    · split <;> omega
  · have hfirst := @first_four byte.toNat (by omega) (by omega)
    refine .inr (.inl ⟨_, hopen _ _ _ _ hfirst (by omega) ?_ ?_, hfirst⟩)
    · split <;> split <;> omega
    · split <;> omega

/-! ## The decoder -/

theorem decodeFrom_cons (pending : Option Pending) (byte : UInt8) (rest : List UInt8) :
    decodeFrom pending (byte :: rest) =
      (feed pending byte.toNat).1 ++ decodeFrom (feed pending byte.toNat).2 rest := by
  cases pending <;> rfl

theorem decodeFrom_completed {p : Pending} {bytes : List UInt8} {c : Char}
    (h : completed? p bytes = some c) (rest : List UInt8) :
    decodeFrom (some p) (bytes ++ rest) = c :: decodeFrom none rest := by
  induction bytes generalizing p with
  | nil => cases h
  | cons byte tail ih =>
    simp only [completed?] at h
    rw [List.cons_append, decodeFrom_cons]
    split at h
    · next hrange =>
      split at h
      · next hlast =>
        split at h
        · next hnil =>
          cases h
          cases hnil
          simp only [feed, if_pos hrange, if_pos hlast]
          rfl
        · cases h
      · next hlast =>
        simp only [feed, if_pos hrange, if_neg hlast]
        exact ih h
    · cases h

/-- The form of a character is decoded to it. -/
theorem decodeFrom_form (c : Char) (rest : List UInt8) :
    decodeFrom none (utf8EncodeChar c ++ rest) = c :: decodeFrom none rest := by
  cases hform : utf8EncodeChar c with
  | nil => exact absurd hform String.utf8EncodeChar_ne_nil
  | cons byte tail =>
    rw [List.cons_append, decodeFrom_cons]
    show (first byte.toNat).1 ++ decodeFrom (first byte.toNat).2 (tail ++ rest) = _
    rcases utf8EncodeChar_eq_cons_iff.mp hform with ⟨rfl, hfirst, _⟩ | ⟨p, hfirst, htail⟩
    · rw [hfirst]
      rfl
    · rw [hfirst]
      exact decodeFrom_completed htail rest

/-- The start of a form leaves a sequence open. -/
theorem decodeFrom_start {bytes : List UInt8} {p : Pending} (h : Open bytes p) {tail : List UInt8}
    (hstart : Starts (bytes ++ tail)) (hunfinished : ∀ c, utf8EncodeChar c ≠ bytes ++ tail) :
    ∃ p', Open (bytes ++ tail) p' ∧
      ∀ rest, decodeFrom (some p) (tail ++ rest) = decodeFrom (some p') rest := by
  induction tail generalizing bytes p with
  | nil =>
    rw [List.append_nil]
    exact ⟨p, h, fun _ => rfl⟩
  | cons byte tail ih =>
    rw [← List.singleton_append, ← List.append_assoc] at hstart hunfinished ⊢
    rcases h.feed_cases byte with ⟨c, hform, _⟩ | ⟨p', hopen, hfeed⟩ | ⟨hnone, _⟩
    · -- a whole form starts no longer one, so nothing follows it, and then it is not unfinished
      obtain ⟨c', more, hlonger⟩ := hstart
      rw [← hform, List.append_assoc] at hlonger
      obtain ⟨rfl, rfl⟩ := List.append_eq_nil_iff.mp (eq_nil_of_form_append hlonger.symm)
      rw [List.append_nil] at hunfinished
      exact absurd hform (hunfinished c)
    · obtain ⟨p'', hopen', hrest⟩ := ih hopen hstart hunfinished
      refine ⟨p'', hopen', fun rest => ?_⟩
      rw [List.append_assoc, List.singleton_append, decodeFrom_cons, hfeed]
      exact hrest rest
    · exact absurd hstart.of_append hnone

/-- Bytes that are broken are decoded to a replacement. -/
theorem decodeFrom_broken {bad rest : List UInt8} (h : Broken bad rest) :
    decodeFrom none (bad ++ rest) = replacement :: decodeFrom none rest := by
  cases h with
  | @stray byte _ hnone =>
    rw [List.singleton_append, decodeFrom_cons]
    show (first byte.toNat).1 ++ decodeFrom (first byte.toNat).2 rest = _
    rcases first_cases byte with ⟨c, hform, _⟩ | ⟨p, hopen, _⟩ | ⟨_, hfirst⟩
    · exact absurd ⟨c, [], hform.symm⟩ hnone
    · exact absurd hopen.starts hnone
    · rw [hfirst]
      rfl
  | cut hsome hstart hunfinished hnext =>
    obtain ⟨byte, tail, rfl⟩ := List.exists_cons_of_ne_nil hsome
    rw [List.cons_append, decodeFrom_cons]
    show (first byte.toNat).1 ++ decodeFrom (first byte.toNat).2 (tail ++ rest) = _
    rw [← List.singleton_append] at hstart hunfinished
    rcases first_cases byte with ⟨c, hform, _⟩ | ⟨p, hopen, hfirst⟩ | ⟨hnone, _⟩
    · obtain ⟨c', more, hlonger⟩ := hstart
      rw [← hform, List.append_assoc] at hlonger
      obtain ⟨rfl, rfl⟩ := List.append_eq_nil_iff.mp (eq_nil_of_form_append hlonger.symm)
      exact absurd hform (hunfinished c)
    · obtain ⟨p', hopen', hdecode⟩ := decodeFrom_start hopen hstart hunfinished
      rw [hfirst]
      show decodeFrom (some p) (tail ++ rest) = _
      rw [hdecode]
      cases rest with
      | nil => rfl
      | cons next rest =>
        rw [decodeFrom_cons]
        rcases hopen'.feed_cases next with ⟨c, hform, _⟩ | ⟨p'', hopen'', _⟩ | ⟨_, hfeed⟩
        · exact absurd ⟨c, [], by rw [List.append_nil]; exact hform.symm⟩ (hnext next rfl)
        · exact absurd hopen''.starts (hnext next rfl)
        · rw [hfeed]
          rfl
    · exact absurd hstart.of_append hnone

/-- What the decoder gives is what the bytes stand for, also after the start of a form. -/
theorem stands_decodeFrom (rest : List UInt8) :
    Stands rest (decodeFrom none rest) ∧
      ∀ bytes p, Open bytes p → Stands (bytes ++ rest) (decodeFrom (some p) rest) := by
  induction rest with
  | nil =>
    refine ⟨.nil, fun bytes p h => .replaced (.cut h.nonempty h.starts h.unfinished ?_) .nil⟩
    intro byte hbyte
    cases hbyte
  | cons byte rest ih =>
    obtain ⟨hclosed, hopen⟩ := ih
    have hnone : Stands (byte :: rest) (decodeFrom none (byte :: rest)) := by
      rw [decodeFrom_cons]
      show Stands _ ((first byte.toNat).1 ++ decodeFrom (first byte.toNat).2 rest)
      rcases first_cases byte with ⟨c, hform, hfirst⟩ | ⟨p, hp, hfirst⟩ | ⟨hstray, hfirst⟩
      · rw [hfirst, ← List.singleton_append, ← hform]
        exact .char hclosed
      · rw [hfirst]
        exact hopen [byte] p hp
      · rw [hfirst]
        exact .replaced (.stray hstray) hclosed
    refine ⟨hnone, fun bytes p h => ?_⟩
    rw [decodeFrom_cons]
    rcases h.feed_cases byte with ⟨c, hform, hfeed⟩ | ⟨p', hp', hfeed⟩ | ⟨hbroken, hfeed⟩
    · rw [hfeed, ← List.singleton_append, ← List.append_assoc, ← hform]
      exact .char hclosed
    · rw [hfeed, ← List.singleton_append, ← List.append_assoc]
      exact hopen _ p' hp'
    · -- the byte that broke the sequence off is read anew
      rw [hfeed]
      refine .replaced (.cut h.nonempty h.starts h.unfinished ?_) hnone
      rintro _ ⟨⟩
      exact hbroken

/-- Bytes stand for the text that they are decoded to, and for no other. -/
theorem stands_iff {bytes : List UInt8} {text : List Char} :
    Stands bytes text ↔ decode bytes = text := by
  constructor
  · intro h
    show decodeFrom none bytes = text
    induction h with
    | nil => rfl
    | char _ ih => rw [decodeFrom_form, ih]
    | replaced broken _ ih => rw [decodeFrom_broken broken, ih]
  · rintro rfl
    exact (stands_decodeFrom bytes).1

/-- What was encoded is decoded again. -/
theorem decode_encode (text : List Char) : decode (encode text) = text := by
  rw [← stands_iff]
  induction text with
  | nil => exact .nil
  | cons c text ih => exact .char ih

end SqlGauge.Text.Utf8
