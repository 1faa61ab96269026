/-!
# Bytes as text

`Utf8.decode` reads bytes as UTF-8. Bytes that are no part of a well-formed sequence are replaced
by U+FFFD, one for each longest start of a sequence that could not be completed, and reading goes
on with the byte that broke it off.
-/

namespace SqlGauge.Text.Utf8

/-- Stands for bytes that could not be read. -/
def replacement : Char := '\uFFFD'

/-- A sequence whose end has not been read: the bits read so far, the number of bytes that are
missing, and the range in which the next one must lie. -/
structure Pending where
  bits : Nat
  missing : Nat
  low : Nat
  high : Nat

/-- What the first byte of a sequence gives: the character of a single byte, the start of a longer
sequence, or a replacement for a byte that starts none. The bounds on the second byte leave out
overlong forms, surrogates and what lies beyond U+10FFFF. -/
def first (byte : Nat) : List Char × Option Pending :=
  if byte < 0x80 then ([Char.ofNat byte], none)
  else if byte < 0xc2 then ([replacement], none)
  else if byte < 0xe0 then ([], some ⟨byte - 0xc0, 1, 0x80, 0xbf⟩)
  else if byte = 0xe0 then ([], some ⟨0, 2, 0xa0, 0xbf⟩)
  else if byte = 0xed then ([], some ⟨0xd, 2, 0x80, 0x9f⟩)
  else if byte < 0xf0 then ([], some ⟨byte - 0xe0, 2, 0x80, 0xbf⟩)
  else if byte = 0xf0 then ([], some ⟨0, 3, 0x90, 0xbf⟩)
  else if byte < 0xf4 then ([], some ⟨byte - 0xf0, 3, 0x80, 0xbf⟩)
  else if byte = 0xf4 then ([], some ⟨4, 3, 0x80, 0x8f⟩)
  else ([replacement], none)

/-- One more byte: the characters it completes or gives up, and the sequence it leaves open. -/
def feed (pending : Option Pending) (byte : Nat) : List Char × Option Pending :=
  match pending with
  | none => first byte
  | some p =>
    if p.low ≤ byte ∧ byte ≤ p.high then
      let bits := p.bits * 64 + byte % 64
      if p.missing ≤ 1 then ([Char.ofNat bits], none)
      else ([], some ⟨bits, p.missing - 1, 0x80, 0xbf⟩)
    else (replacement :: (first byte).1, (first byte).2)

/-- The characters of the bytes that follow an open sequence. -/
def decodeFrom : Option Pending → List UInt8 → List Char
  | none, [] => []
  | some _, [] => [replacement]
  | pending, byte :: rest =>
    (feed pending byte.toNat).1 ++ decodeFrom (feed pending byte.toNat).2 rest

/-- The text that bytes stand for. -/
def decode (bytes : List UInt8) : List Char :=
  decodeFrom none bytes

/-- The bytes of a text. -/
def encode (text : List Char) : List UInt8 :=
  text.flatMap String.utf8EncodeChar

end SqlGauge.Text.Utf8
