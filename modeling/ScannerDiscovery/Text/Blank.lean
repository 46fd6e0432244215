/-!
# Blanks

The characters that count as white space at the ends of a text, and the removal of a class of
characters from both ends.
-/

namespace ScannerDiscovery.Text

/-- White space of all scripts: the ASCII blanks, the four information separators, and the
Unicode space and line separators. -/
def isBlank (c : Char) : Bool :=
  let n := c.toNat
  (9 ≤ n && n ≤ 13) || (28 ≤ n && n ≤ 32) || n == 0x85 || n == 0xA0 || n == 0x1680 ||
    (0x2000 ≤ n && n ≤ 0x200A) || n == 0x2028 || n == 0x2029 || n == 0x202F || n == 0x205F ||
    n == 0x3000

/-- Blanks that may surround a number: white space without the information separators. -/
def isNumberBlank (c : Char) : Bool :=
  isBlank c && !(28 ≤ c.toNat && c.toNat ≤ 31)

/-- A text without the characters of a class at its end. -/
def trimEnd (class? : Char → Bool) (text : List Char) : List Char :=
  (text.reverse.dropWhile class?).reverse

/-- A text without the characters of a class at either end. -/
def trim (class? : Char → Bool) (text : List Char) : List Char :=
  trimEnd class? (text.dropWhile class?)

end ScannerDiscovery.Text
