import ProofGrading.Text.Lines
import ProofGrading.Yaml.Cursor
import ProofGrading.Yaml.Flaw

/-!
# Yaml/Source — the part of a YAML text that can be read

A text is decoded and looked through block by block, while it is read.  What cannot be decoded, and
a character that no YAML text holds, count only when the block that they stand in is reached.
-/

namespace ProofGrading.Yaml

/-- The characters that can be read, and what is wrong after them. -/
structure Source where
  chars : List Char
  flaw : Option Flaw := none

namespace Source

/-- A block has this many characters; the first two blocks are taken together. -/
def blockSize : Nat := 4096

/-- The blocks before the one that the character at an index belongs to. -/
def before (chars : List Char) (index : Nat) (flaw : Flaw) : Source :=
  if index < 2 * blockSize then ⟨[], some flaw⟩
  else ⟨chars.take (index / blockSize * blockSize), some flaw⟩

/-- The part before the first character that no YAML text holds. -/
def printable (s : Source) : Source :=
  match s.chars.findIdx? fun c => !isPrintable c with
  | some index => before s.chars index .unprintable
  | none => s

/-- The source of a text. -/
def ofText (text : List Char) : Source := printable ⟨text, none⟩

/-- Bytes are decoded in pieces of this size. -/
def pieceSize : Nat := 8192

/-- The text of the first `n` bytes, but for a character that is cut off at the end. -/
def textOfFirst? (data : ByteArray) (n : Nat) : Option String :=
  [0, 1, 2, 3].findSome? fun cut => String.fromUTF8? (data.extract 0 (n - cut))

/-- The text of as many of the first `k` pieces as can be decoded. -/
def decodable (data : ByteArray) : Nat → String
  | 0 => ""
  | k + 1 => (textOfFirst? data (min (pieceSize * (k + 1)) data.size)).getD (decodable data k)

/-- The source of some bytes, every line break being `\n`. -/
def ofBytes (data : ByteArray) : Source :=
  match String.fromUTF8? data with
  | some s => ofText (Text.unifyBreaks s.toList)
  | none =>
    let chars := Text.unifyBreaks (decodable data (data.size / pieceSize + 1)).toList
    printable (before chars chars.length .undecodable)

end Source

end ProofGrading.Yaml
