import ProofGrading.Decimal.Numeral
import ProofGrading.Text.CodePoint
import ProofGrading.Yaml.Cursor
import ProofGrading.Yaml.Flaw
import ProofGrading.Yaml.Token

/-!
# Yaml/Lexeme — the tokens that have a text of their own

Directives, names of anchors, tags and scalars are read from a cursor, which is left after them.
Repeated parts are read under a bound of as many rounds as there are characters, since every round
takes one.
-/

namespace ProofGrading.Yaml

/-- What was read, and the place after it. -/
abbrev Lexed (α : Type) : Type := α × Cursor

namespace Lexeme

/-- Letters and digits without accents, hyphen and underscore. -/
def isNameChar (c : Char) : Bool := c.isAlphanum || c == '-' || c == '_'

/-- The end of a line after a directive or a block header: blanks and a comment. -/
def restOfLine (flaw : Flaw) (c : Cursor) : Except Flaw Cursor :=
  let c := c.dropWhile (· == ' ')
  let c := if c.peek == '#' then c.dropWhile (!endsLine ·) else c
  if endsLine c.peek then .ok c.lineBreak.2 else .error flaw

/-! ## Tags -/

/-- The bytes that escapes of the form `%41` stand for. -/
def escapedBytes : Nat → Cursor → Except Flaw (Lexed (List UInt8))
  | 0, c => .ok ([], c)
  | fuel + 1, c =>
    if c.peek == '%' then
      match Text.hexDigit? (c.peekAt 1), Text.hexDigit? (c.peekAt 2) with
      | some a, some b => do
        let (bytes, c) ← escapedBytes fuel (c.advance 3)
        pure (UInt8.ofNat (a * 16 + b) :: bytes, c)
      | _, _ => .error .badTag
    else .ok ([], c)

/-- The characters of a tag that stand for themselves. -/
def isTagChar (c : Char) : Bool :=
  c.isAlphanum || "-;/?:@&=+$,_.!~*'()[]".toList.contains c

/-- A tag's text, part by part. -/
def tagParts : Nat → Cursor → Except Flaw (Lexed (List Char))
  | 0, c => .ok ([], c)
  | fuel + 1, c => do
    let (plain, c) := c.takeWhile isTagChar
    if c.peek == '%' then
      let (bytes, c) ← escapedBytes c.rest.length c
      match String.fromUTF8? ⟨bytes.toArray⟩ with
      | none => .error .badTag
      | some s =>
        let (rest, c) ← tagParts fuel c
        pure (plain ++ s.toList ++ rest, c)
    else pure (plain, c)

/-- A tag's text; there must be some. -/
def tagText (c : Cursor) : Except Flaw (Lexed String) :=
  if isTagChar c.peek || c.peek == '%' then do
    let (s, c) ← tagParts (c.rest.length + 1) c
    pure (String.ofList s, c)
  else .error .badTag

/-- A handle: `!`, or a name between two of them. -/
def tagHandle (c : Cursor) : Except Flaw (Lexed String) :=
  if c.peek != '!' then .error .badTag
  else
    let c := c.next
    if c.peek == ' ' then .ok ("!", c)
    else
      let (name, c) := c.takeWhile isNameChar
      if c.peek == '!' then .ok (String.ofList ('!' :: name ++ ['!']), c.next)
      else .error .badTag

/-- Whether a second `!` stands before the word ends, so that the tag has a handle. -/
def hasHandle : List Char → Bool
  | [] => false
  | c :: rest => if endsField c then false else c == '!' || hasHandle rest

/-- A tag: its handle, if it has one, and the rest. -/
def tag (c : Cursor) : Except Flaw (Lexed (Option String × String)) := do
  let ch := c.peekAt 1
  let (handle, suffix, c) ←
    if ch == '<' then do
      let (s, c) ← tagText (c.advance 2)
      if c.peek == '>' then pure (none, s, c.next) else .error .badTag
    else if endsWord ch then pure (none, "!", c.next)
    else do
      let (handle, c) ← if hasHandle (c.rest.drop 1) then tagHandle c else pure ("!", c.next)
      let (s, c) ← tagText c
      pure (some handle, s, c)
  if endsField c.peek then pure ((handle, suffix), c) else .error .badTag

/-! ## Directives and anchors -/

/-- A number of a version. -/
def versionNumber (c : Cursor) : Except Flaw (Lexed Nat) :=
  let (digits, c) := c.takeWhile Char.isDigit
  if digits.isEmpty then .error .badDirective
  else
    match Decimal.Numeral.natOfDigits? 10 digits with
    | some n => .ok (n, c)
    | none => .error .noNumber

/-- The value of a directive. -/
def directiveValue (name : String) (c : Cursor) : Except Flaw (Lexed Directive) := do
  if name == "YAML" then
    let (major, c) ← versionNumber (c.dropWhile (· == ' '))
    if c.peek != '.' then .error .badDirective
    else
      let (minor, c) ← versionNumber c.next
      if endsField c.peek then pure (.version major minor, c) else .error .badDirective
  else if name == "TAG" then
    let (handle, c) ← tagHandle (c.dropWhile (· == ' '))
    if c.peek != ' ' then .error .badDirective
    else
      let (start, c) ← tagText (c.dropWhile (· == ' '))
      if endsField c.peek then pure (.handle handle start, c) else .error .badDirective
  else pure (.unknown, c.dropWhile (!endsLine ·))

/-- A directive with the rest of its line. -/
def directive (c : Cursor) : Except Flaw (Lexed Directive) := do
  let (name, c) := c.next.takeWhile isNameChar
  if name.isEmpty || !endsField c.peek then .error .badDirective
  else
    let (d, c) ← directiveValue (String.ofList name) c
    let c ← restOfLine .badDirective c
    pure (d, c)

/-- Whether a character may follow the name of an anchor. -/
def endsAnchor (c : Char) : Bool := endsWord c || "?:,]\x7d%@\x60".toList.contains c

/-- The name of an anchor, after its sign. -/
def anchorName (c : Cursor) : Except Flaw (Lexed String) :=
  let (name, c) := c.next.takeWhile isNameChar
  if name.isEmpty || !endsAnchor c.peek then .error .badAnchor else .ok (String.ofList name, c)

/-! ## Quoted scalars -/

/-- What a one-letter escape stands for. -/
def escape? : Char → Option Char
  | '0' => some '\x00'
  | 'a' => some '\x07'
  | 'b' => some '\x08'
  | 't' => some '\t'
  | '\t' => some '\t'
  | 'n' => some '\n'
  | 'v' => some '\x0b'
  | 'f' => some '\x0c'
  | 'r' => some '\r'
  | 'e' => some '\x1b'
  | ' ' => some ' '
  | '"' => some '"'
  | '\\' => some '\\'
  | '/' => some '/'
  | 'N' => some '\x85'
  | '_' => some '\xa0'
  | 'L' => some '\u2028'
  | 'P' => some '\u2029'
  | _ => none

/-- The letters of escapes that give a number, and its count of digits. -/
def escapeWidth? : Char → Option Nat
  | 'x' => some 2
  | 'u' => some 4
  | 'U' => some 8
  | _ => none

/-- The number of some hexadecimal digits. -/
def hexNumber? : List Char → Option Nat
  | cs => cs.foldl (fun n c => do pure ((← n) * 16 + (← Text.hexDigit? c))) (some 0)

/-- Line breaks inside a quoted scalar, and the blanks that start the lines. -/
def quotedBreaks : Nat → Cursor → Except Flaw (Lexed (List Char))
  | 0, c => .ok ([], c)
  | fuel + 1, c =>
    if c.atDocumentMark then .error .openScalar
    else
      let c := c.dropWhile fun ch => ch == ' ' || ch == '\t'
      if isBreak c.peek then do
        let (first, c) := c.lineBreak
        let (rest, c) ← quotedBreaks fuel c
        pure (first ++ rest, c)
      else .ok ([], c)

/-- A line break and those after it: the first one counts as a blank, unless others follow. -/
def foldBreaks (first breaks : List Char) : List Char :=
  if first != ['\n'] then first ++ breaks else if breaks.isEmpty then [' '] else breaks

/-- White space inside a quoted scalar. -/
def quotedSpaces (c : Cursor) : Except Flaw (Lexed (List Char)) := do
  let (blanks, c) := c.takeWhile fun ch => ch == ' ' || ch == '\t'
  if c.peek == endMark then .error .openScalar
  else if isBreak c.peek then
    let (first, c) := c.lineBreak
    let (breaks, c) ← quotedBreaks (c.rest.length + 1) c
    pure (foldBreaks first breaks, c)
  else pure (blanks, c)

/-- The code point of a number; most numbers beyond the last one are refused, the greatest do not
even count as numbers of characters. -/
def codePoint (n : Nat) : Except Flaw Nat :=
  if 0x7FFFFFFF < n then .error .hugeCharacter
  else if 0x10FFFF < n then .error .noSuchCharacter
  else .ok n

/-- The code points of an escape, after its backslash. -/
def escaped (c : Cursor) : Except Flaw (Lexed (List Nat)) := do
  match escape? c.peek, escapeWidth? c.peek with
  | some ch, _ => pure ([ch.toNat], c.next)
  | none, some width =>
    let digits := c.next.rest.take width
    if digits.length < width then .error .badEscape
    else
      match hexNumber? digits with
      | none => .error .badEscape
      | some n => pure ([← codePoint n], c.next.advance width)
  | none, none =>
    if isBreak c.peek then
      let c := c.lineBreak.2
      let (breaks, c) ← quotedBreaks (c.rest.length + 1) c
      pure (breaks.map Char.toNat, c)
    else .error .badEscape

/-- The code points of a quoted scalar up to white space or a quote. -/
def quotedWord (double : Bool) : Nat → Cursor → Except Flaw (Lexed (List Nat))
  | 0, c => .ok ([], c)
  | fuel + 1, c => do
    let (plain, c) := c.takeWhile fun ch =>
      !(ch == '\'' || ch == '"' || ch == '\\' || endsWord ch)
    let plain := plain.map Char.toNat
    let ch := c.peek
    if !double && ch == '\'' && c.peekAt 1 == '\'' then
      let (rest, c) ← quotedWord double fuel (c.advance 2)
      pure (plain ++ ch.toNat :: rest, c)
    else if (double && ch == '\'') || (!double && (ch == '"' || ch == '\\')) then
      let (rest, c) ← quotedWord double fuel c.next
      pure (plain ++ ch.toNat :: rest, c)
    else if double && ch == '\\' then
      let (e, c) ← escaped c.next
      let (rest, c) ← quotedWord double fuel c
      pure (plain ++ e ++ rest, c)
    else pure (plain, c)

/-- A quoted scalar after its first word, up to the closing quote. -/
def quotedRest (double : Bool) : Nat → Cursor → Except Flaw (Lexed (List Nat))
  | 0, _ => .error .openScalar
  | fuel + 1, c =>
    if c.peek == (if double then '"' else '\'') then .ok ([], c.next)
    else do
      let (spaces, c) ← quotedSpaces c
      let (word, c) ← quotedWord double (c.rest.length + 1) c
      let (rest, c) ← quotedRest double fuel c
      pure (spaces.map Char.toNat ++ word ++ rest, c)

/-- A quoted scalar. -/
def quoted (double : Bool) (c : Cursor) : Except Flaw (Lexed String) := do
  let c := c.next
  let (word, c) ← quotedWord double (c.rest.length + 1) c
  let (rest, c) ← quotedRest double (c.rest.length + 1) c
  pure (String.ofList (Text.ofCodePoints (word ++ rest)), c)

/-! ## Block scalars -/

/-- What happens to the line breaks at the end of a block scalar. -/
inductive Chomping where
  | clip
  | strip
  | keep
  deriving DecidableEq, Repr

/-- A sign for the breaks at the end. -/
def chomping? : Char → Option Chomping
  | '+' => some .keep
  | '-' => some .strip
  | _ => none

/-- A digit for the indentation; zero is none. -/
def increment (c : Cursor) : Except Flaw (Lexed (Option Nat)) :=
  if c.peek.isDigit then
    if c.peek == '0' then .error .badBlockHeader
    else .ok (some (c.peek.toNat - '0'.toNat), c.next)
  else .ok (none, c)

/-- The header of a block scalar: a sign and a digit, in any order, either may be missing. -/
def blockHeader (c : Cursor) : Except Flaw (Lexed (Chomping × Option Nat)) := do
  let (chomping, indent, c) ← match chomping? c.peek with
    | some chomping => do
      let (indent, c) ← increment c.next
      pure (chomping, indent, c)
    | none => do
      let (indent, c) ← increment c
      match indent, chomping? c.peek with
      | some n, some chomping => pure (chomping, some n, c.next)
      | _, _ => pure (.clip, indent, c)
  if endsField c.peek then
    let c ← restOfLine .badBlockHeader c
    pure ((chomping, indent), c)
  else .error .badBlockHeader

/-- Line breaks before the first line of a block scalar, and the deepest column of the blanks. -/
def blockIndentation : Nat → Nat → Cursor → List Char × Nat × Cursor
  | 0, deepest, c => ([], deepest, c)
  | fuel + 1, deepest, c =>
    if c.peek == ' ' then
      let c := c.next
      blockIndentation fuel (max deepest c.column) c
    else if isBreak c.peek then
      let (first, c) := c.lineBreak
      let (rest, deepest, c) := blockIndentation fuel deepest c
      (first ++ rest, deepest, c)
    else ([], deepest, c)

/-- Blanks up to a column. -/
def blanksTo (indent : Nat) (c : Cursor) : Cursor :=
  c.advance ((c.rest.take (indent - c.column)).takeWhile (· == ' ')).length

/-- Line breaks between the lines of a block scalar. -/
def blockBreaks (indent : Nat) : Nat → Cursor → List Char × Cursor
  | 0, c => ([], c)
  | fuel + 1, c =>
    let c := blanksTo indent c
    if isBreak c.peek then
      let (first, c) := c.lineBreak
      let (rest, c) := blockBreaks indent fuel c
      (first ++ rest, c)
    else ([], c)

/-- The lines of a block scalar.  `before` are the breaks before the next line; the result is the
text, the break after the last line, and the breaks after that. -/
def blockLines (folded : Bool) (indent : Nat) :
    Nat → List Char → Cursor → List Char × List Char × List Char × Cursor
  | 0, before, c => ([], [], before, c)
  | fuel + 1, before, c =>
    let indented := c.peek == ' ' || c.peek == '\t'
    let (line, c) := c.takeWhile (!endsLine ·)
    let (ended, c) := c.lineBreak
    let (breaks, c) := blockBreaks indent (c.rest.length + 1) c
    let text := before ++ line
    if c.column == indent && c.peek != endMark then
      let joint :=
        if folded && ended == ['\n'] && !indented && !(c.peek == ' ' || c.peek == '\t') then
          if breaks.isEmpty then [' '] else []
        else ended
      let (rest, ended, after, c) := blockLines folded indent fuel breaks c
      (text ++ joint ++ rest, ended, after, c)
    else (text, ended, breaks, c)

/-- A literal or folded block scalar inside a block at column `indent`. -/
def block (folded : Bool) (indent : Int) (c : Cursor) : Except Flaw (Lexed String) := do
  let ((chomping, increment), c) ← blockHeader c.next
  let least := (max 1 (indent + 1)).toNat
  let (before, column, c) := match increment with
    | none =>
      let (before, deepest, c) := blockIndentation (c.rest.length + 1) 0 c
      (before, max least deepest, c)
    | some n =>
      let column := least + n - 1
      let (before, c) := blockBreaks column (c.rest.length + 1) c
      (before, column, c)
  let (text, ended, after, c) :=
    if c.column == column && c.peek != endMark then
      blockLines folded column (c.rest.length + 1) before c
    else ([], [], before, c)
  let close := match chomping with
    | .clip => ended
    | .strip => []
    | .keep => ended ++ after
  pure (String.ofList (Text.plainly (text ++ close)), c)

/-! ## Plain scalars -/

/-- How many characters of a plain scalar follow without white space. -/
def plainRun (inFlow : Bool) : List Char → Nat
  | [] => 0
  | ch :: rest =>
    let next := rest.headD endMark
    let stops := endsWord ch
      || (ch == ':' && (endsWord next || (inFlow && ",[]\x7b\x7d".toList.contains next)))
      || (inFlow && ",?[]\x7b\x7d".toList.contains ch)
    if stops then 0 else plainRun inFlow rest + 1

/-- Line breaks inside a plain scalar; `none` at a mark that separates documents. -/
def plainBreaks : Nat → Cursor → Option (List Char) × Cursor
  | 0, c => (some [], c)
  | fuel + 1, c =>
    if c.peek == ' ' then plainBreaks fuel c.next
    else if isBreak c.peek then
      let (first, c) := c.lineBreak
      if c.atDocumentMark then (none, c)
      else
        let (rest, c) := plainBreaks fuel c
        (rest.map (first ++ ·), c)
    else (some [], c)

/-- White space inside a plain scalar, and whether it holds a line break. -/
def plainSpaces (c : Cursor) : List Char × Bool × Cursor :=
  let (blanks, c) := c.takeWhile (· == ' ')
  if isBreak c.peek then
    let (first, c) := c.lineBreak
    if c.atDocumentMark then ([], true, c)
    else
      match plainBreaks (c.rest.length + 1) c with
      | (none, c) => ([], true, c)
      | (some breaks, c) => (foldBreaks first breaks, true, c)
  else (blanks, false, c)

/-- A plain scalar inside a block at column `indent`, and whether a line break follows its last
word.  `text` is what was read, `spaces` the white space after it. -/
def plain (inFlow : Bool) (indent : Int) :
    Nat → List Char → List Char → Bool → Cursor → List Char × Bool × Cursor
  | 0, text, _, broken, c => (text, broken, c)
  | fuel + 1, text, spaces, broken, c =>
    let n := plainRun inFlow c.rest
    if c.peek == '#' || n == 0 then (text, broken, c)
    else
      let text := text ++ spaces ++ c.rest.take n
      let (spaces, broken, c) := plainSpaces (c.advance n)
      if spaces.isEmpty || c.peek == '#' || (!inFlow && (c.column : Int) ≤ indent) then
        (text, broken, c)
      else plain inFlow indent fuel text spaces broken c

end Lexeme

end ProofGrading.Yaml
