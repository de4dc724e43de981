/-!
# Blanks

The characters of the Unicode property White_Space, the two ways a text is trimmed to the word it
begins with, and a text without the blanks around it.
-/

namespace I2cTopology
namespace Text

/-- Is the character white space in the sense of the Unicode property White_Space? -/
def isBlank (c : Char) : Bool :=
  let code := c.toNat
  (0x9 ≤ code && code ≤ 0xd) || code == 0x20 || code == 0x85 || code == 0xa0 || code == 0x1680 ||
    (0x2000 ≤ code && code ≤ 0x200a) || code == 0x2028 || code == 0x2029 || code == 0x202f ||
    code == 0x205f || code == 0x3000

/-- The text without its leading blanks. -/
def skipBlanks (text : List Char) : List Char :=
  text.dropWhile isBlank

/-- The text without the blanks at its two ends. -/
def trimBlanks (text : List Char) : List Char :=
  (skipBlanks (skipBlanks text).reverse).reverse

/-- The first word of a text: leading blanks are skipped, and the word ends before the next blank
or before the character `stop`. -/
def firstWord (stop : Char) (text : List Char) : List Char :=
  (skipBlanks text).takeWhile fun c => !(c == stop || isBlank c)

end Text
end I2cTopology
