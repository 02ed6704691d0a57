import ProofGrading.Text.CodePoint
import ProofGrading.Text.Hex
import ProofGrading.Text.Printable

/-!
# Text/Quoted — a text in quotes, for the reader

Single quotes stand around the text, or double quotes if it holds single ones only.  The quote that
is used and the backslash are escaped, and so is what does not show.
-/

namespace ProofGrading.Text

/-- A code point that does not show, as an escape. -/
def escapedCodePoint (n : Nat) : List Char :=
  if n = 0x0A then ['\\', 'n']
  else if n = 0x0D then ['\\', 'r']
  else if n = 0x09 then ['\\', 't']
  else if n < 0x100 then '\\' :: 'x' :: hexDigits 2 n
  else if n < 0x10000 then '\\' :: 'u' :: hexDigits 4 n
  else '\\' :: 'U' :: hexDigits 8 n

/-- One code point between two quotes of a kind. -/
def quotedCodePoint (quote : Char) (n : Nat) : List Char :=
  let c := Char.ofNat n
  if isHalf n || !isPrintable c then escapedCodePoint n
  else if c = quote ∨ c = '\\' then ['\\', c]
  else [c]

/-- The quotes that go around a text. -/
def quoteFor (cs : List Char) : Char :=
  if cs.contains '\'' && !cs.contains '"' then '"' else '\''

/-- **A text in quotes.** -/
def quoted (s : String) : String :=
  let quote := quoteFor s.toList
  String.ofList (quote :: ((codePoints s.toList).flatMap (quotedCodePoint quote) ++ [quote]))

end ProofGrading.Text
