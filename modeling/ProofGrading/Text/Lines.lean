/-!
# Text/Lines — a text as lines

A log is cut at every kind of line break, a file that is read as text has its line breaks turned
into `\n` first.
-/

namespace ProofGrading.Text

/-- The characters that end a line. -/
def isLineBreak (c : Char) : Bool :=
  let n := c.toNat
  (0x0A ≤ n && n ≤ 0x0D) || (0x1C ≤ n && n ≤ 0x1E) || n == 0x85 || n == 0x2028 || n == 0x2029

/-- The lines of what follows, after the characters of `line` (last one first).  `\r\n` is one
break, and a break at the very end starts no further line. -/
def splitLinesFrom (line : List Char) : List Char → List (List Char)
  | [] => if line.isEmpty then [] else [line.reverse]
  | '\r' :: '\n' :: rest => line.reverse :: splitLinesFrom [] rest
  | c :: rest =>
    if isLineBreak c then line.reverse :: splitLinesFrom [] rest
    else splitLinesFrom (c :: line) rest

/-- The lines of a text, without their breaks. -/
def splitLines (cs : List Char) : List (List Char) := splitLinesFrom [] cs

/-- The lines of a text, without their breaks. -/
def lines (s : String) : List String := (splitLines s.toList).map String.ofList

/-- Turns `\r\n` and `\r` into `\n`. -/
def unifyBreaks : List Char → List Char
  | [] => []
  | '\r' :: '\n' :: rest => '\n' :: unifyBreaks rest
  | c :: rest => (if c = '\r' then '\n' else c) :: unifyBreaks rest

/-- Whether `pattern` occurs in a text. -/
def occursIn (pattern : List Char) : List Char → Bool
  | [] => pattern.isEmpty
  | c :: rest => pattern.isPrefixOf (c :: rest) || occursIn pattern rest

end ProofGrading.Text
