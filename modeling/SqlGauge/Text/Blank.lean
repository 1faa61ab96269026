/-!
# Blanks around a text

`trim` removes the blanks at both ends of a text and `isBlankText` holds of a text of nothing but
blanks. Blanks are the white space of every script and the four separator controls U+001C to
U+001F.
-/

namespace SqlGauge.Text

/-- White space and the separator controls. -/
def isBlank (c : Char) : Bool :=
  let code := c.toNat
  (0x09 ≤ code && code ≤ 0x0d) || (0x1c ≤ code && code ≤ 0x20) || code == 0x85 || code == 0xa0 ||
    code == 0x1680 || (0x2000 ≤ code && code ≤ 0x200a) || code == 0x2028 || code == 0x2029 ||
    code == 0x202f || code == 0x205f || code == 0x3000

/-- The blanks that may stand around a written number: the separator controls are not among
them. -/
def isNumberBlank (c : Char) : Bool :=
  isBlank c && !(0x1c ≤ c.toNat && c.toNat ≤ 0x1f)

/-- Removes the characters of one kind from both ends. -/
def trimBy (drop : Char → Bool) (text : List Char) : List Char :=
  ((text.dropWhile drop).reverse.dropWhile drop).reverse

/-- The text without the blanks at its ends. -/
def trim (text : List Char) : List Char :=
  trimBy isBlank text

/-- Whether nothing but blanks is there. -/
def isBlankText (text : String) : Bool :=
  text.toList.all isBlank

end SqlGauge.Text
