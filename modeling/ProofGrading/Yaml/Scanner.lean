import ProofGrading.Yaml.Lexeme
import ProofGrading.Yaml.Source

/-!
# Yaml/Scanner — the tokens of a YAML text, in order

A scanner keeps the columns of the open blocks and, for each level of flow brackets, the token that
would be a key if a colon followed it.  Where a colon turns such a token into a key, the key's
token, and the start of a block mapping if its column is deeper than the block's, are put before
it.

Tokens are read while they are needed, so a flaw counts after the tokens that are settled before it
is found.
-/

namespace ProofGrading.Yaml

/-- A token that would be a key if a colon followed it: how many tokens stand before it, where it
starts, and whether a colon has to follow. -/
structure PossibleKey where
  before : Nat
  required : Bool
  index : Nat
  line : Nat
  column : Nat

/-- The tokens of a text, and what is wrong after them. -/
structure TokenStream where
  tokens : List Token
  flaw : Option Flaw := none

/-- The state of reading tokens. -/
structure Scanner where
  cursor : Cursor
  tokens : Array Token := #[]
  flow : Nat := 0
  indent : Int := -1
  outer : List Int := []
  keyAllowed : Bool := true
  keys : List (Nat × PossibleKey) := []

namespace Scanner

/-- Adds a token. -/
def push (s : Scanner) (t : Token) : Scanner := { s with tokens := s.tokens.push t }

/-- Puts a token before all but the first `n`. -/
def insertAt (n : Nat) (t : Token) (ts : Array Token) : Array Token :=
  (ts.toList.take n ++ t :: ts.toList.drop n).toArray

/-- A key and its colon are at most this far apart. -/
def keyReach : Nat := 1024

/-- Whether a possible key is too far away, or on another line. -/
def isStale (s : Scanner) (k : PossibleKey) : Bool :=
  k.line != s.cursor.line || decide (keyReach < s.cursor.index - k.index)

/-- Forgets the possible keys that are too far away. -/
def dropStaleKeys (s : Scanner) : Except Flaw Scanner :=
  if s.keys.any fun k => s.isStale k.2 && k.2.required then .error .missingColon
  else .ok { s with keys := s.keys.filter fun k => !s.isStale k.2 }

/-- Forgets the possible key of the current level. -/
def dropKey (s : Scanner) : Except Flaw Scanner :=
  match s.keys.find? (·.1 == s.flow) with
  | some k =>
    if k.2.required then .error .missingColon
    else .ok { s with keys := s.keys.filter (·.1 != s.flow) }
  | none => .ok s

/-- Remembers that the next token would be a key if a colon followed it. -/
def saveKey (s : Scanner) : Except Flaw Scanner :=
  if s.keyAllowed then do
    let s ← s.dropKey
    let required := s.flow == 0 && s.indent == s.cursor.column
    let k : PossibleKey :=
      ⟨s.tokens.size, required, s.cursor.index, s.cursor.line, s.cursor.column⟩
    pure { s with keys := (s.flow, k) :: s.keys }
  else .ok s

/-- Ends the blocks that are deeper than a column. -/
def closeBlocks (column : Int) : List Int → Scanner → Scanner
  | [], s => s
  | outer :: rest, s =>
    if column < s.indent then
      closeBlocks column rest { s with
        tokens := s.tokens.push .blockEnd, indent := outer, outer := rest }
    else s

/-- Ends the blocks that are deeper than a column, outside of flow brackets. -/
def unwind (s : Scanner) (column : Int) : Scanner :=
  if s.flow == 0 then closeBlocks column s.outer s else s

/-- Opens a block at a column that is deeper than the current one. -/
def openBlock (s : Scanner) (column : Nat) (start : Token) : Scanner :=
  if s.indent < column then
    { s with tokens := s.tokens.push start, indent := column, outer := s.indent :: s.outer }
  else s

/-- The place of the next token: blanks, comments and line breaks are skipped.  After a line break
a key may follow, outside of flow brackets. -/
def skip : Nat → Scanner → Scanner
  | 0, s => s
  | fuel + 1, s =>
    let c := s.cursor.dropWhile (· == ' ')
    let c := if c.peek == '#' then c.dropWhile (!endsLine ·) else c
    if isBreak c.peek then
      skip fuel { s with cursor := c.lineBreak.2, keyAllowed := s.keyAllowed || s.flow == 0 }
    else { s with cursor := c }

/-- Ends all blocks for a token that stands outside of them. -/
def leaveBlocks (s : Scanner) : Except Flaw Scanner := do
  let s ← (s.unwind (-1)).dropKey
  pure { s with keyAllowed := false }

/-- A mark that separates documents. -/
def documentMark (s : Scanner) (t : Token) : Except Flaw Scanner := do
  let s ← s.leaveBlocks
  pure { s.push t with cursor := s.cursor.advance 3 }

/-- An opening bracket. -/
def openFlow (s : Scanner) (t : Token) : Except Flaw Scanner := do
  let s ← s.saveKey
  pure { s.push t with flow := s.flow + 1, keyAllowed := true, cursor := s.cursor.next }

/-- A closing bracket; one has to be open. -/
def closeFlow (s : Scanner) (t : Token) : Except Flaw Scanner := do
  let s ← s.dropKey
  if s.flow == 0 then .error .unexpectedToken
  else pure { s.push t with flow := s.flow - 1, keyAllowed := false, cursor := s.cursor.next }

/-- A comma. -/
def flowEntry (s : Scanner) : Except Flaw Scanner := do
  let s ← { s with keyAllowed := true : Scanner }.dropKey
  pure { s.push .flowEntry with cursor := s.cursor.next }

/-- A hyphen before an item. -/
def blockEntry (s : Scanner) : Except Flaw Scanner := do
  if s.flow == 0 && !s.keyAllowed then .error .misplaced
  else
    let s := if s.flow == 0 then s.openBlock s.cursor.column .blockSequenceStart else s
    let s ← { s with keyAllowed := true : Scanner }.dropKey
    pure { s.push .blockEntry with cursor := s.cursor.next }

/-- A question mark before a key. -/
def explicitKey (s : Scanner) : Except Flaw Scanner := do
  if s.flow == 0 && !s.keyAllowed then .error .misplaced
  else
    let s := if s.flow == 0 then s.openBlock s.cursor.column .blockMappingStart else s
    let s ← { s with keyAllowed := s.flow == 0 : Scanner }.dropKey
    pure { s.push .key with cursor := s.cursor.next }

/-- A colon that makes the token before it a key. -/
def valueOfKey (s : Scanner) (k : PossibleKey) : Scanner :=
  let s := { s with
    keys := s.keys.filter (·.1 != s.flow)
    tokens := insertAt k.before .key s.tokens
    keyAllowed := false }
  if s.flow == 0 && decide (s.indent < (k.column : Int)) then
    { s with
      tokens := insertAt k.before .blockMappingStart s.tokens
      indent := k.column
      outer := s.indent :: s.outer }
  else s

/-- A colon before a value. -/
def value (s : Scanner) : Except Flaw Scanner := do
  let s ← match s.keys.find? (·.1 == s.flow) with
    | some k => pure (s.valueOfKey k.2)
    | none =>
      if s.flow == 0 && !s.keyAllowed then .error .misplaced
      else
        let s := if s.flow == 0 then s.openBlock s.cursor.column .blockMappingStart else s
        { s with keyAllowed := s.flow == 0 : Scanner }.dropKey
  pure { s.push .value with cursor := s.cursor.next }

/-- A token with a text of its own, which may be a key. -/
def lexeme {α : Type} (s : Scanner) (read : Cursor → Except Flaw (Lexed α)) (token : α → Token) :
    Except Flaw Scanner := do
  let s ← s.saveKey
  let (a, c) ← read s.cursor
  pure { s.push (token a) with keyAllowed := false, cursor := c }

/-- A block scalar. -/
def blockScalar (s : Scanner) (folded : Bool) : Except Flaw Scanner := do
  let s ← { s with keyAllowed := true : Scanner }.dropKey
  let (text, c) ← Lexeme.block folded s.indent s.cursor
  pure { s.push (.scalar false text) with cursor := c }

/-- A plain scalar. -/
def plainScalar (s : Scanner) : Except Flaw Scanner := do
  let s ← s.saveKey
  let c := s.cursor
  let (text, broken, c) := Lexeme.plain (s.flow != 0) s.indent (c.rest.length + 1) [] [] false c
  let value := String.ofList (Text.plainly text)
  pure { s.push (.scalar true value) with keyAllowed := broken, cursor := c }

/-- Whether a plain scalar may start here. -/
def startsPlain (s : Scanner) : Bool :=
  let ch := s.cursor.peek
  let next := s.cursor.peekAt 1
  !(endsWord ch || "-?:,[]\x7b\x7d#&*!|>'\"%@\x60".toList.contains ch)
    || (!endsWord next && (ch == '-' || (s.flow == 0 && (ch == '?' || ch == ':'))))

/-- A directive. -/
def directive (s : Scanner) : Except Flaw Scanner := do
  let s ← s.leaveBlocks
  let (d, c) ← Lexeme.directive s.cursor
  pure { s.push (.directive d) with cursor := c }

/-- One token that is not the end. -/
def token (s : Scanner) : Except Flaw Scanner :=
  let c := s.cursor
  let apart := endsWord (c.peekAt 1)
  let inFlow := s.flow != 0
  match c.peek with
  | '[' => s.openFlow .flowSequenceStart
  | ']' => s.closeFlow .flowSequenceEnd
  | '\x7b' => s.openFlow .flowMappingStart
  | '\x7d' => s.closeFlow .flowMappingEnd
  | ',' => s.flowEntry
  | '*' => s.lexeme Lexeme.anchorName .alias
  | '&' => s.lexeme Lexeme.anchorName .anchor
  | '!' => s.lexeme Lexeme.tag fun t => .tag t.1 t.2
  | '\'' => s.lexeme (Lexeme.quoted false) (.scalar false)
  | '"' => s.lexeme (Lexeme.quoted true) (.scalar false)
  | ch =>
    if ch == '%' && c.column == 0 then s.directive
    else if c.column == 0 && c.atDocumentMark then
      s.documentMark (if ch == '-' then .documentStart else .documentEnd)
    else if ch == '-' && apart then s.blockEntry
    else if ch == '?' && (inFlow || apart) then s.explicitKey
    else if ch == ':' && (inFlow || apart) then s.value
    else if ch == '|' && !inFlow then s.blockScalar false
    else if ch == '>' && !inFlow then s.blockScalar true
    else if s.startsPlain then s.plainScalar
    else .error .noToken

/-- The next tokens, and whether they are the last ones.  Nothing is read beyond `limit`, which is
what is wrong after the characters that can be read. -/
def next (limit : Option Flaw) (s : Scanner) : Except Flaw (Scanner × Bool) := do
  let s := skip (s.cursor.rest.length + 1) s
  match limit, s.cursor.rest with
  | some flaw, [] => .error flaw
  | _, _ =>
    let s ← s.dropStaleKeys
    let s := s.unwind s.cursor.column
    if s.cursor.peek == endMark then
      let s ← s.leaveBlocks
      pure (s.push .streamEnd, true)
    else
      match limit, s.token with
      | some flaw, .ok s => if s.cursor.rest.isEmpty then .error flaw else pure (s, false)
      | some flaw, .error .openScalar => .error flaw
      | _, r => do pure (← r, false)

/-- How many of the tokens are settled: before the first one that may yet become a key. -/
def settled (s : Scanner) : Nat := s.keys.foldl (fun n k => min n k.2.before) s.tokens.size

/-- All tokens up to a flaw, of which `known` are settled; every round takes at least one
character. -/
def run (limit : Option Flaw) : Nat → Nat → Scanner → TokenStream
  | 0, known, s => ⟨s.tokens.toList.take known, some .noToken⟩
  | fuel + 1, known, s =>
    match s.dropStaleKeys with
    | .error flaw => ⟨s.tokens.toList.take known, some flaw⟩
    | .ok s =>
      let known := s.settled
      match s.next limit with
      | .error flaw => ⟨s.tokens.toList.take known, some flaw⟩
      | .ok (s, true) => ⟨s.tokens.toList, none⟩
      | .ok (s, false) => run limit fuel known s

end Scanner

/-- The tokens of a text. -/
def tokens (source : Source) : TokenStream :=
  let c : Cursor := ⟨source.chars, 0, 0, 0⟩
  let c := if c.peek == '\uFEFF' then c.next else c
  Scanner.run source.flaw (source.chars.length + 2) 0 { cursor := c }

end ProofGrading.Yaml
