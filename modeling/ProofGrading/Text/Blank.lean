/-!
# Text/Blank — white space at the ends of a text

Two classes of white space are in use: the Unicode property `White_Space`, which surrounds a number,
and the blanks that are stripped from a line, which are those and the four separators
`U+001C … U+001F`.
-/

namespace ProofGrading.Text

/-- The Unicode property `White_Space`. -/
def isSpace (c : Char) : Bool :=
  let n := c.toNat
  (0x09 ≤ n && n ≤ 0x0D) || n == 0x20 || n == 0x85 || n == 0xA0 || n == 0x1680 ||
    (0x2000 ≤ n && n ≤ 0x200A) || n == 0x2028 || n == 0x2029 || n == 0x202F || n == 0x205F ||
    n == 0x3000

/-- The blanks stripped from a line: white space and the four information separators. -/
def isBlank (c : Char) : Bool :=
  isSpace c || (0x1C ≤ c.toNat && c.toNat ≤ 0x1F)

/-- Drops what satisfies `p` from both ends. -/
def dropAround (p : Char → Bool) (cs : List Char) : List Char :=
  ((cs.dropWhile p).reverse.dropWhile p).reverse

/-- Drops blanks from both ends. -/
def trimBlanks (s : String) : String := String.ofList (dropAround isBlank s.toList)

end ProofGrading.Text
