import ProofGrading.Text.CodePoint
import ProofGrading.Text.Hex

/-!
# Text/Encoding — the bytes of a text

A text is written to a file in UTF-8, in which half of a surrogate pair has no bytes; an answer
names such a half by an escape, and in the name of a file it stands for a byte that is no text.
Main statements: a text without a mark holds no half (`holdsHalf_of_unmarked`); a path has the bytes
of its names and one for each slash (`nameSize_join`).
-/

namespace ProofGrading.Text

/-- The bytes of a text; there are none if it holds half of a pair. -/
def bytes? (s : String) : Option ByteArray :=
  if s.toList.contains mark then
    let ns := markedCodePoints s.toList
    if ns.any isHalf then none else some (String.ofList (ns.map Char.ofNat)).toUTF8
  else some s.toUTF8

/-- The text that some bytes encode. -/
def ofBytes? (data : ByteArray) : Option String :=
  (String.fromUTF8? data).map fun s =>
    if s.toList.contains mark then String.ofList (plainly s.toList) else s

/-- Whether a name can be looked up among files: it holds no half, but for those that stand for a
single byte. -/
def isFileName (s : String) : Bool :=
  (codePoints s.toList).all fun n => !isHalf n || decide (0xDC80 ≤ n ∧ n ≤ 0xDCFF)

/-- The bytes of a code point of a name; a half stands for a single one. -/
def codePointBytes (n : Nat) : List UInt8 :=
  if isHalf n then [UInt8.ofNat n] else String.utf8EncodeChar (Char.ofNat n)

/-- How many bytes a text has as the name of a file, or as the path to one. -/
def nameSize (s : String) : Nat :=
  if s.toList.contains mark then ((markedCodePoints s.toList).flatMap codePointBytes).length
  else s.utf8ByteSize

/-- Halves of pairs as escapes of four digits. -/
def withEscapedHalves (cs : List Char) : List Char :=
  if cs.contains mark then
    (markedCodePoints cs).flatMap fun n =>
      if isHalf n then '\\' :: 'u' :: hexDigits 4 n else [Char.ofNat n]
  else cs

/-- A text has the bytes of its characters. -/
theorem utf8ByteSize_eq_length (s : String) :
    s.utf8ByteSize = (s.toList.flatMap String.utf8EncodeChar).length := by
  rw [String.utf8ByteSize, ← String.utf8Encode_toList, List.utf8Encode, List.size_toByteArray]

/-- A name has the bytes of its code points. -/
theorem nameSize_eq_length (s : String) :
    nameSize s = ((codePoints s.toList).flatMap codePointBytes).length := by
  unfold nameSize codePoints
  split
  · rfl
  · have plain : ∀ c : Char, codePointBytes c.toNat = String.utf8EncodeChar c := by
      simp [codePointBytes, isHalf_toNat]
    rw [List.flatMap_map, utf8ByteSize_eq_length]
    simp only [plain]

/-- **A path has the bytes of its parts, and one for the slash between them.** -/
theorem nameSize_join (a b : String) : nameSize (a ++ "/" ++ b) = nameSize a + 1 + nameSize b := by
  have parts : (a ++ "/" ++ b).toList = a.toList ++ '/' :: b.toList := by simp
  have slash : (codePointBytes '/'.toNat).length = 1 := by decide
  simp only [nameSize_eq_length, parts, codePoints_append_slash, List.flatMap_append,
    List.flatMap_cons, List.length_append, slash]
  omega

/-- A text without a mark can be written. -/
theorem holdsHalf_of_unmarked {s : String} (h : mark ∉ s.toList) : holdsHalf s = false := by
  rw [holdsHalf, codePoints_eq, markedCodePoints_eq_map h]
  simp [isHalf_toNat]

end ProofGrading.Text
