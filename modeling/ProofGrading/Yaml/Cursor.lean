/-!
# Yaml/Cursor — a place in a YAML text

A cursor is the text that remains, with the index, line and column that were reached.  The end of
the text reads as the character `U+0000`, which no text holds.
-/

namespace ProofGrading.Yaml

/-- The character that the end of the text reads as. -/
def endMark : Char := '\x00'

/-- The characters that end a line. -/
def isBreak (c : Char) : Bool :=
  c == '\n' || c == '\r' || c == '\x85' || c == '\u2028' || c == '\u2029'

/-- A line break or the end. -/
def endsLine (c : Char) : Bool := c == endMark || isBreak c

/-- A blank, a line break or the end. -/
def endsField (c : Char) : Bool := c == ' ' || endsLine c

/-- A blank, a tab, a line break or the end. -/
def endsWord (c : Char) : Bool := c == '\t' || endsField c

/-- The characters that a YAML text may hold. -/
def isPrintable (c : Char) : Bool :=
  let n := c.toNat
  n == 0x09 || n == 0x0A || n == 0x0D || (0x20 ≤ n && n ≤ 0x7E) || n == 0x85 ||
    (0xA0 ≤ n && n ≤ 0xD7FF) || (0xE000 ≤ n && n ≤ 0xFFFD) || 0x10000 ≤ n

/-- A place in a text: what remains, and how far it is from the start. -/
structure Cursor where
  rest : List Char
  index : Nat := 0
  line : Nat := 0
  column : Nat := 0

namespace Cursor

/-- The next character. -/
def peek (c : Cursor) : Char := c.rest.headD endMark

/-- The character after `k` others. -/
def peekAt (c : Cursor) (k : Nat) : Char := (c.rest[k]?).getD endMark

/-- The place after the next character; a byte order mark takes no column. -/
def next (c : Cursor) : Cursor :=
  match c.rest with
  | [] => c
  | ch :: rest =>
    if isBreak ch && !(ch == '\r' && rest.head? == some '\n') then
      ⟨rest, c.index + 1, c.line + 1, 0⟩
    else ⟨rest, c.index + 1, c.line, if ch == '\uFEFF' then c.column else c.column + 1⟩

/-- The place after `n` characters. -/
def advance (c : Cursor) : Nat → Cursor
  | 0 => c
  | n + 1 => c.next.advance n

/-- The characters that satisfy `p`, and the place after them. -/
def takeWhile (c : Cursor) (p : Char → Bool) : List Char × Cursor :=
  let s := c.rest.takeWhile p
  (s, c.advance s.length)

/-- The place after characters that satisfy `p`. -/
def dropWhile (c : Cursor) (p : Char → Bool) : Cursor := (c.takeWhile p).2

/-- A line break, as it counts inside a text, and the place after it. -/
def lineBreak (c : Cursor) : List Char × Cursor :=
  let ch := c.peek
  if ch == '\r' && c.peekAt 1 == '\n' then (['\n'], c.advance 2)
  else if ch == '\r' || ch == '\n' || ch == '\x85' then (['\n'], c.next)
  else if ch == '\u2028' || ch == '\u2029' then ([ch], c.next)
  else ([], c)

/-- Whether a mark that separates documents stands here. -/
def atDocumentMark (c : Cursor) : Bool :=
  let mark := c.rest.take 3
  (mark == ['-', '-', '-'] || mark == ['.', '.', '.']) && endsWord (c.peekAt 3)

end Cursor

end ProofGrading.Yaml
