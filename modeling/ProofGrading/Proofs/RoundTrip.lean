import ProofGrading.Proofs.NumberText
import ProofGrading.Proofs.WrittenText

/-!
# Proofs/RoundTrip — documents that are written are read

The reader finds in a document the value that was written: texts, arrays and objects as they were,
doubles as numbers or as `null` (`Json.reread`).  Each part of a document is read by itself, up to
what may follow it, and so is each text, escape by escape.  Main statement: a document is read as
the value that it was made from (`Json.decode_written_document`).
-/

namespace ProofGrading

namespace Json

open Text (written plainly namesHalf IsPlain StartsPlain)

/-! ## Texts -/

/-- A letter escape is one code point. -/
theorem scanString_letter {c d : Char} (escaped : escaped? d = some c) (other : d ≠ 'u')
    (start : List Char) (done : List Nat) (rest : List Char) :
    scanString start done ('\\' :: d :: rest) = scanString start (c.toNat :: done) rest := by
  rw [scanString, escaped]
  all_goals simp [other]

/-- An escape of four digits that name no half is one code point, whatever follows it. -/
theorem scanString_unit {a b c d : Char} {n : Nat} (unit : codeUnit? a b c d = some n)
    (whole : n < 0xD800) (start : List Char) (done : List Nat) (next : Char) (rest : List Char) :
    scanString start done ('\\' :: 'u' :: a :: b :: c :: d :: next :: rest) =
      scanString start (n :: done) (next :: rest) := by
  have low : ¬(0xD800 ≤ n ∧ n ≤ 0xDBFF) := by omega
  -- the reader looks ahead for a second escape
  by_cases pair : ∃ e f g h last tail, next = '\\' ∧ rest = 'u' :: e :: f :: g :: h :: last :: tail
  · obtain ⟨e, f, g, h, last, tail, rfl, rfl⟩ := pair
    rw [scanString, unit]
    dsimp only
    rw [if_neg low]
  · rw [scanString, unit]
    rintro e f g h last tail rfl rfl
    exact pair ⟨e, f, g, h, last, tail, rfl, rfl⟩

/-- Any other character stands for itself. -/
theorem scanString_plain {c : Char} (noQuote : c ≠ '"') (noEscape : c ≠ '\\')
    (noControl : ¬c.toNat < 0x20) (start : List Char) (done : List Nat) (rest : List Char) :
    scanString start done (c :: rest) = scanString start (c.toNat :: done) rest := by
  rw [scanString, if_neg noControl]
  all_goals simp [noQuote, noEscape]

theorem codeUnit?_hexDigits : ∀ n, n < 0x20 → ∃ a b c d, Text.hexDigits 4 n = [a, b, c, d] ∧
    codeUnit? a b c d = some n := by
  intro n small
  refine ⟨_, _, _, _, rfl, ?_⟩
  revert n
  decide

/-- **A character in quotes is read as its code point.** -/
theorem scanString_quoteChar (c : Char) (start : List Char) (done : List Nat) (next : Char)
    (rest : List Char) : scanString start done (quoteChar c ++ next :: rest) =
      scanString start (c.toNat :: done) (next :: rest) := by
  unfold quoteChar
  by_cases quote : c = '"'
  · subst quote
    exact scanString_letter rfl (by decide) start done (next :: rest)
  by_cases backslash : c = '\\'
  · subst backslash
    exact scanString_letter rfl (by decide) start done (next :: rest)
  rw [if_neg quote, if_neg backslash]
  repeat' split
  case isTrue h | isTrue h | isTrue h | isTrue h | isTrue h =>
    subst h
    exact scanString_letter rfl (by decide) start done (next :: rest)
  · next control =>
    obtain ⟨a, b, c', d, digits, unit⟩ := codeUnit?_hexDigits c.toNat control
    rw [digits]
    exact scanString_unit unit (by omega) start done next rest
  · next noControl => exact scanString_plain quote backslash noControl start done (next :: rest)

/-- **A text in quotes is read as its code points.** -/
theorem scanString_flatMap_quoteChar (cs start : List Char) (done : List Nat) (rest : List Char) :
    scanString start done (cs.flatMap quoteChar ++ '"' :: rest) =
      .ok (String.ofList (Text.ofCodePoints (done.reverse ++ cs.map Char.toNat)), rest) := by
  induction cs generalizing done with
  | nil => rw [List.flatMap_nil, List.nil_append, scanString, List.map_nil, List.append_nil]
  | cons c cs ih =>
    obtain ⟨next, more, follows⟩ : ∃ next more,
        cs.flatMap quoteChar ++ '"' :: rest = next :: more :=
      List.exists_cons_of_ne_nil (by simp)
    rw [List.flatMap_cons, List.append_assoc, follows, scanString_quoteChar, ← follows, ih,
      List.reverse_cons, List.append_assoc, List.map_cons]
    rfl

/-- **A text that was written in quotes is read.** -/
theorem scanString_written {s : String} (whole : Text.holdsHalf s = false) (start : List Char)
    (rest : List Char) :
    scanString start [] ((written s.toList).flatMap quoteChar ++ '"' :: rest) = .ok (s, rest) := by
  rw [Text.holdsHalf_eq] at whole
  have same : plainly (written s.toList) = s.toList := Text.plainly_written whole
  rw [plainly] at same
  rw [scanString_flatMap_quoteChar, List.reverse_nil, List.nil_append, same, String.ofList_toList]

theorem written_quote {s : String} (whole : Text.holdsHalf s = false) :
    written (quote s) = '"' :: ((written s.toList).flatMap quoteChar ++ ['"']) := by
  have plain : IsPlain '"' := by decide
  rw [Text.holdsHalf_eq] at whole
  rw [quote, Text.written_cons plain, (Text.startsPlain_cons plain []).written_append,
    written_flatMap_quoteChar whole, Text.written_cons plain]
  rfl

/-! ## Lines in brackets -/

/-- What stands after the first of some lines in brackets. -/
def closing (level : Nat) (bracket : Char) (parts : List (List Char)) : List Char :=
  parts.flatMap (fun part => ',' :: (newLine (level + 1) ++ part)) ++ (newLine level ++ [bracket])

theorem commaSeparated_cons (part : List Char) (parts : List (List Char)) :
    commaSeparated (part :: parts) = part ++ parts.flatMap (',' :: ·) := by
  induction parts generalizing part with
  | nil => simp [commaSeparated]
  | cons next rest ih => rw [commaSeparated, ih, List.flatMap_cons, List.cons_append]; simp

theorem block_cons (level : Nat) (opening bracket : Char) (part : List Char)
    (parts : List (List Char)) : block level opening bracket (part :: parts) =
      opening :: (newLine (level + 1) ++ (part ++ closing level bracket parts)) := by
  rw [block, if_neg (by simp), List.map_cons, commaSeparated_cons, closing, List.flatMap_map]
  simp

theorem closing_cons (level : Nat) (bracket : Char) (part : List Char) (parts : List (List Char)) :
    closing level bracket (part :: parts) =
      ',' :: (newLine (level + 1) ++ (part ++ closing level bracket parts)) := by
  simp [closing]

theorem startsPlain_closing (level : Nat) (bracket : Char) (parts : List (List Char)) :
    StartsPlain (closing level bracket parts) := by
  cases parts with
  | nil => exact Text.startsPlain_cons (by decide) _
  | cons part parts => exact Text.startsPlain_cons (by decide) _

theorem written_closing (level : Nat) {bracket : Char} (plain : IsPlain bracket)
    (parts : List (List Char)) :
    written (closing level bracket parts) = closing level bracket (parts.map written) := by
  induction parts with
  | nil =>
    refine Text.written_of_plain (List.forall_mem_append.2 ⟨List.forall_mem_nil _, ?_⟩)
    exact List.forall_mem_append.2 ⟨plain_newLine level, List.forall_mem_singleton.2 plain⟩
  | cons part parts ih =>
    rw [List.map_cons, closing_cons, closing_cons, Text.written_cons (by decide),
      Text.written_append_of_plain (plain_newLine _),
      (startsPlain_closing level bracket parts).written_append, ih]

/-- **Lines in brackets are written line by line.** -/
theorem written_block (level : Nat) {opening bracket : Char} (plain : IsPlain opening)
    (plain' : IsPlain bracket) (parts : List (List Char)) :
    written (block level opening bracket parts) =
      block level opening bracket (parts.map written) := by
  cases parts with
  | nil =>
    refine Text.written_of_plain (List.forall_mem_cons.2 ⟨plain, ?_⟩)
    exact List.forall_mem_singleton.2 plain'
  | cons part parts =>
    rw [List.map_cons, block_cons, block_cons, Text.written_cons plain,
      Text.written_append_of_plain (plain_newLine _),
      (startsPlain_closing level bracket parts).written_append, written_closing level plain']

theorem endsNumber_closing (level : Nat) (bracket : Char) (parts : List (List Char))
    (rest : List Char) : EndsNumber (closing level bracket parts ++ rest) := by
  cases parts with
  | nil =>
    rintro c ⟨⟩
    decide
  | cons part parts =>
    rintro c ⟨⟩
    decide

theorem skipGaps_of_not_isGap {c : Char} (h : isGap c = false) (cs : List Char) :
    skipGaps (c :: cs) = c :: cs := by
  rw [skipGaps, List.dropWhile_cons_of_neg (by simp [h])]

/-- A new line is white space. -/
theorem skipGaps_newLine (level : Nat) (cs : List Char) :
    skipGaps (newLine level ++ cs) = skipGaps cs := by
  have gaps : ∀ c ∈ newLine level, isGap c = true := by
    refine List.forall_mem_cons.2 ⟨by decide, fun c hc => ?_⟩
    rw [List.eq_of_mem_replicate hc]
    decide
  rw [skipGaps, skipGaps, List.dropWhile_append_of_pos gaps]

/-- After the last line comes the bracket. -/
theorem skipGaps_closing_nil (level : Nat) {bracket : Char} (solid : isGap bracket = false)
    (rest : List Char) : skipGaps (closing level bracket [] ++ rest) = bracket :: rest := by
  have last : closing level bracket [] ++ rest = newLine level ++ bracket :: rest := by
    simp [closing]
  rw [last, skipGaps_newLine, skipGaps_of_not_isGap solid]

/-- After any other line comes a comma. -/
theorem skipGaps_closing_cons (level : Nat) (bracket : Char) (part : List Char)
    (parts : List (List Char)) (rest : List Char) :
    skipGaps (closing level bracket (part :: parts) ++ rest) =
      ',' :: (newLine (level + 1) ++ (part ++ (closing level bracket parts ++ rest))) := by
  rw [closing_cons, List.cons_append, skipGaps_of_not_isGap (by decide)]
  simp

/-! ## Values -/

mutual
/-- What a value is read back as: its doubles are read, and the rest is as it was. -/
def reread : Json → Json
  | .float x => readBack x
  | .arr items => .arr (rereadItems items)
  | .obj fields => .obj (rereadFields fields)
  | j => j
/-- What the items of an array are read back as. -/
def rereadItems : List Json → List Json
  | [] => []
  | x :: rest => reread x :: rereadItems rest
/-- What the fields of an object are read back as. -/
def rereadFields : List (String × Json) → List (String × Json)
  | [] => []
  | (k, v) :: rest => (k, reread v) :: rereadFields rest
end

mutual
/-- A value that can be read under some brackets: no text holds half of a pair, no integer is too
long, and no object has two fields with one key. -/
def IsReadable : Nat → Json → Prop
  | _, .int n => (Decimal.natText n.natAbs).length ≤ integerDigitLimit
  | _, .str s => Text.holdsHalf s = false
  | 0, .arr _ => False
  | depth + 1, .arr items => AreReadable depth items
  | 0, .obj _ => False
  | depth + 1, .obj fields => (fields.map (·.1)).Nodup ∧ HaveReadable depth fields
  | _, _ => True
/-- The items of an array can be read. -/
def AreReadable : Nat → List Json → Prop
  | _, [] => True
  | depth, x :: rest => IsReadable depth x ∧ AreReadable depth rest
/-- The fields of an object can be read. -/
def HaveReadable : Nat → List (String × Json) → Prop
  | _, [] => True
  | depth, (k, v) :: rest =>
    Text.holdsHalf k = false ∧ IsReadable depth v ∧ HaveReadable depth rest
end

/-- A value in a document, as it is written. -/
def writtenValue (level : Nat) (j : Json) : List Char :=
  written (prettyChars documentFloat level j)

/-- A character that a value without brackets starts with. -/
def StartsScalar (c : Char) : Prop := c.isDigit = true ∨ c ∈ ['"', 'n', 't', 'f', '-']

/-- A character that a value starts with. -/
def StartsValue (c : Char) : Prop := StartsScalar c ∨ c ∈ ['[', '\x7b']

theorem StartsValue.ne {c d : Char} (h : StartsValue c) (digit : d.isDigit = false)
    (other : d ∉ ['"', 'n', 't', 'f', '-', '[', '\x7b']) : c ≠ d := by
  rintro rfl
  obtain (isDigit | scalar) | bracket := h
  · rw [digit] at isDigit
    cases isDigit
  · exact other (List.mem_append_left _ scalar)
  · exact other (List.mem_append_right ['"', 'n', 't', 'f', '-'] bracket)

theorem StartsValue.solid {c : Char} (h : StartsValue c) : isGap c = false := by
  simp [isGap, h.ne (d := ' ') (by decide) (by decide), h.ne (d := '\t') (by decide) (by decide),
    h.ne (d := '\n') (by decide) (by decide), h.ne (d := '\r') (by decide) (by decide)]

theorem StartsScalar.ne {c : Char} (h : StartsScalar c) : c ≠ '[' ∧ c ≠ '\x7b' := by
  refine ⟨?_, ?_⟩ <;>
  · rintro rfl
    obtain digit | scalar := h
    · exact absurd digit (by decide)
    · exact absurd scalar (by decide)

/-- A number starts with a digit or a minus. -/
theorem startsScalar_sign (negative : Bool) {c : Char} (digit : c.isDigit = true)
    (cs : List Char) : ∃ d ds, sign negative ++ c :: cs = d :: ds ∧ StartsScalar d := by
  cases negative with
  | true => exact ⟨'-', c :: cs, rfl, .inr (by decide)⟩
  | false => exact ⟨c, cs, rfl, .inl digit⟩

theorem startsScalar_intText (n : Int) : ∃ c cs, intText n = c :: cs ∧ StartsScalar c := by
  obtain ⟨c, cs, first, digit⟩ := Decimal.exists_natText n.natAbs
  rw [intText_eq, first]
  exact startsScalar_sign _ digit cs

theorem startsScalar_documentFloat (x : Float) :
    ∃ c cs, documentFloat x = c :: cs ∧ StartsScalar c := by
  unfold documentFloat Decimal.Style.write?
  cases Decimal.view x with
  | finite b =>
    obtain ⟨body, real, written⟩ := exists_isReal_binary .document b
    obtain ⟨c, cs, rfl, digit⟩ := exists_cons_of_isReal real
    dsimp only
    rw [written]
    exact startsScalar_sign b.negative digit cs
  | nan => exact ⟨'n', _, rfl, .inr (by decide)⟩
  | infinite negative => exact ⟨'n', _, rfl, .inr (by decide)⟩

/-- Lines in brackets start with the first one. -/
theorem exists_block (level : Nat) (opening bracket : Char) (parts : List (List Char)) :
    ∃ cs, block level opening bracket parts = opening :: cs := by
  cases parts with
  | nil => exact ⟨_, rfl⟩
  | cons part parts => exact ⟨_, block_cons ..⟩

theorem writtenValue_arr (level : Nat) (items : List Json) : writtenValue level (.arr items) =
    block level '[' ']' ((prettyItems documentFloat (level + 1) items).map written) := by
  rw [writtenValue, prettyChars, written_block level (by decide) (by decide)]

theorem writtenValue_obj (level : Nat) (fields : List (String × Json)) :
    writtenValue level (.obj fields) =
      block level '\x7b' '\x7d' ((prettyFields documentFloat (level + 1) fields).map written) := by
  rw [writtenValue, prettyChars, written_block level (by decide) (by decide)]

theorem writtenValue_int (level : Nat) (n : Int) : writtenValue level (.int n) = intText n := by
  rw [writtenValue, prettyChars, Text.written_of_plain (plain_intText n)]

theorem writtenValue_float (level : Nat) (x : Float) :
    writtenValue level (.float x) = documentFloat x := by
  rw [writtenValue, prettyChars, Text.written_of_plain (plain_documentFloat x)]

/-- **Every value starts with a character of its own.** -/
theorem startsValue_writtenValue (level : Nat) (j : Json) :
    ∃ c cs, writtenValue level j = c :: cs ∧ StartsValue c := by
  cases j with
  | null => exact ⟨'n', _, rfl, .inl (.inr (by decide))⟩
  | bool b =>
    cases b with
    | true => exact ⟨'t', _, rfl, .inl (.inr (by decide))⟩
    | false => exact ⟨'f', _, rfl, .inl (.inr (by decide))⟩
  | int n =>
    obtain ⟨c, cs, first, starts⟩ := startsScalar_intText n
    exact ⟨c, cs, (writtenValue_int level n).trans first, .inl starts⟩
  | float x =>
    obtain ⟨c, cs, first, starts⟩ := startsScalar_documentFloat x
    exact ⟨c, cs, (writtenValue_float level x).trans first, .inl starts⟩
  | str s => exact ⟨'"', _, Text.written_cons (by decide) _, .inl (.inr (by decide))⟩
  | arr items =>
    obtain ⟨cs, first⟩ := exists_block level '[' ']' _
    exact ⟨'[', cs, (writtenValue_arr level items).trans first, .inr (by decide)⟩
  | obj fields =>
    obtain ⟨cs, first⟩ := exists_block level '\x7b' '\x7d' _
    exact ⟨'\x7b', cs, (writtenValue_obj level fields).trans first, .inr (by decide)⟩

theorem scanValue_of_startsScalar {c : Char} (starts : StartsScalar c) (fuel depth : Nat)
    (cs : List Char) : scanValue (fuel + 1) depth (c :: cs) = scanScalar (c :: cs) := by
  obtain ⟨bracket, brace⟩ := starts.ne
  rw [scanValue] <;> simp [bracket, brace]

theorem setField_of_new {fields : List (String × Json)} {key : String}
    (new : key ∉ fields.map (·.1)) (value : Json) :
    setField fields key value = fields ++ [(key, value)] := by
  induction fields with
  | nil => rfl
  | cons field rest ih =>
    simp only [List.map_cons, List.mem_cons, not_or] at new
    rw [setField, if_neg (Ne.symm new.1), ih new.2, List.cons_append]

theorem scanScalar_quote {s : String} (whole : Text.holdsHalf s = false) (rest : List Char) :
    scanScalar ('"' :: ((written s.toList).flatMap quoteChar ++ '"' :: rest)) =
      .ok (.str s, rest) := by
  rw [scanScalar, scanString_written whole]
  rfl

/-- A new line before a value is white space, and the value is not. -/
theorem skipGaps_writtenValue (level : Nat) (j : Json) (rest : List Char) :
    skipGaps (writtenValue level j ++ rest) = writtenValue level j ++ rest := by
  obtain ⟨c, cs, first, starts⟩ := startsValue_writtenValue level j
  rw [first, List.cons_append, skipGaps_of_not_isGap starts.solid]

/-- A field in a document, as it is written. -/
def writtenField (level : Nat) (field : String × Json) : List Char :=
  '"' :: ((written field.1.toList).flatMap quoteChar ++
    '"' :: ':' :: ' ' :: writtenValue level field.2)

theorem skipGaps_writtenField (level : Nat) (field : String × Json) (rest : List Char) :
    skipGaps (writtenField level field ++ rest) = writtenField level field ++ rest :=
  skipGaps_of_not_isGap (by decide) _

theorem map_written_prettyItems (level : Nat) (items : List Json) :
    (prettyItems documentFloat level items).map written = items.map (writtenValue level) := by
  induction items with
  | nil => rfl
  | cons x rest ih => rw [prettyItems, List.map_cons, ih, List.map_cons, writtenValue]

theorem map_written_prettyFields (level : Nat) {depth : Nat} {fields : List (String × Json)}
    (readable : HaveReadable depth fields) :
    (prettyFields documentFloat level fields).map written = fields.map (writtenField level) := by
  induction fields with
  | nil => rfl
  | cons field rest ih =>
    obtain ⟨key, value⟩ := field
    rw [HaveReadable] at readable
    have colon : StartsPlain (':' :: ' ' :: prettyChars documentFloat level value) :=
      Text.startsPlain_cons (by decide) _
    rw [prettyFields, List.map_cons, ih readable.2.2, List.map_cons, colon.written_append,
      written_quote readable.1, Text.written_cons (by decide), Text.written_cons (by decide)]
    simp [writtenField, writtenValue]

/-- An array with items is read item by item. -/
theorem scanValue_bracket {lines rest : List Char} (first : skipGaps lines = rest)
    (some : rest.head? ≠ some ']') (fuel depth : Nat) :
    scanValue (fuel + 1) (depth + 1) ('[' :: lines) = scanItems fuel depth [] rest := by
  subst first
  rw [scanValue]
  split
  · next after closed => exact absurd (congrArg List.head? closed) some
  · rfl

/-- An object with fields is read field by field. -/
theorem scanValue_brace {lines rest : List Char} (first : skipGaps lines = rest)
    (some : rest.head? ≠ some '\x7d') (fuel depth : Nat) :
    scanValue (fuel + 1) (depth + 1) ('\x7b' :: lines) = scanFields fuel depth [] rest := by
  subst first
  rw [scanValue]
  split
  · next after closed => exact absurd (congrArg List.head? closed) some
  · rfl

/-- A field is read up to what follows it. -/
theorem scanFields_writtenField {key : String} {value j : Json} {level fuel depth : Nat}
    {rest : List Char} (whole : Text.holdsHalf key = false)
    (read : scanValue fuel depth (writtenValue level value ++ rest) = .ok (j, rest))
    (done : List (String × Json)) :
    scanFields (fuel + 1) depth done (writtenField level (key, value) ++ rest) =
      match skipGaps rest with
      | '\x7d' :: after => .ok (.obj (setField done key j), after)
      | ',' :: after => scanFields fuel depth (setField done key j) (skipGaps after)
      | other => .error (.flaw .expectedComma other) := by
  have space : skipGaps (' ' :: (writtenValue level value ++ rest)) =
      writtenValue level value ++ rest := by
    rw [skipGaps, List.dropWhile_cons_of_pos (by decide)]
    exact skipGaps_writtenValue level value rest
  simp only [writtenField, List.cons_append, List.append_assoc]
  rw [scanFields, scanString_written whole]
  dsimp only
  rw [skipGaps_of_not_isGap (by decide)]
  split
  · next after colon =>
    obtain ⟨-, rfl⟩ := List.cons.inj colon
    rewrite [space, read]
    rfl
  · next other => exact absurd rfl (other _)

mutual
/-- **A value that was written is read**, whatever follows it. -/
theorem scanValue_writtenValue (j : Json) {depth : Nat} (readable : j.IsReadable depth)
    (level : Nat) {fuel : Nat} (enough : (writtenValue level j).length < fuel) {rest : List Char}
    (ends : EndsNumber rest) :
    scanValue fuel depth (writtenValue level j ++ rest) = .ok (j.reread, rest) := by
  obtain ⟨fuel, rfl⟩ : ∃ n, fuel = n + 1 := ⟨fuel - 1, by omega⟩
  match j with
  | .null => rfl
  | .bool true => rfl
  | .bool false => rfl
  | .int n =>
    obtain ⟨c, cs, first, starts⟩ := startsScalar_intText n
    have read := scanScalar_intText (by simpa [IsReadable] using readable) ends
    rw [first, List.cons_append] at read
    rw [writtenValue_int, first, List.cons_append, scanValue_of_startsScalar starts, read, reread]
    all_goals simp
  | .float x =>
    obtain ⟨c, cs, first, starts⟩ := startsScalar_documentFloat x
    have read := scanScalar_documentFloat x ends
    rw [first, List.cons_append] at read
    rw [writtenValue_float, first, List.cons_append, scanValue_of_startsScalar starts, read,
      reread]
  | .str s =>
    have whole : Text.holdsHalf s = false := by simpa [IsReadable] using readable
    have quoted : writtenValue level (.str s) ++ rest =
        '"' :: ((written s.toList).flatMap quoteChar ++ '"' :: rest) := by
      rw [writtenValue, prettyChars, written_quote whole]
      simp
    rw [quoted, scanValue_of_startsScalar (.inr (by decide)), scanScalar_quote whole, reread]
    all_goals simp
  | .arr [] =>
    match depth, readable with
    | depth + 1, _ => rfl
  | .arr (x :: items) =>
    match depth, readable with
    | depth + 1, readable =>
      rw [IsReadable] at readable
      have lines : writtenValue level (.arr (x :: items)) = '[' :: (newLine (level + 1) ++
          (writtenValue (level + 1) x ++
            closing level ']' (items.map (writtenValue (level + 1))))) := by
        rw [writtenValue_arr, map_written_prettyItems, List.map_cons, block_cons]
      rw [lines] at enough ⊢
      obtain ⟨c, cs, first, starts⟩ := startsValue_writtenValue (level + 1) x
      have some : c ≠ ']' := starts.ne (by decide) (by decide)
      simp only [List.cons_append, List.append_assoc]
      rw [scanValue_bracket ((skipGaps_newLine _ _).trans (skipGaps_writtenValue ..))
        (by rw [first]; simpa using some)]
      exact scanItems_writtenItems (x :: items) readable level rfl
        (by simp only [List.length_cons, List.length_append] at enough ⊢; omega) [] rest
  | .obj [] =>
    match depth, readable with
    | depth + 1, _ => rfl
  | .obj (field :: fields) =>
    match depth, readable with
    | depth + 1, readable =>
      rw [IsReadable] at readable
      obtain ⟨distinct, readable⟩ := readable
      have lines : writtenValue level (.obj (field :: fields)) = '\x7b' :: (newLine (level + 1) ++
          (writtenField (level + 1) field ++
            closing level '\x7d' (fields.map (writtenField (level + 1))))) := by
        rw [writtenValue_obj, map_written_prettyFields _ readable, List.map_cons, block_cons]
      rw [lines] at enough ⊢
      simp only [List.cons_append, List.append_assoc]
      rw [scanValue_brace ((skipGaps_newLine _ _).trans (skipGaps_writtenField ..))
        (by rintro ⟨⟩)]
      exact scanFields_writtenFields (field :: fields) readable level rfl
        (by simp only [List.length_cons, List.length_append] at enough ⊢; omega) [] distinct rest
/-- The items of an array are read one by one. -/
theorem scanItems_writtenItems (items : List Json) {depth : Nat}
    (readable : AreReadable depth items) (level : Nat) {fuel : Nat} {first : List Char}
    {others : List (List Char)} (lines : items.map (writtenValue (level + 1)) = first :: others)
    (enough : (first ++ closing level ']' others).length < fuel) (done : List Json)
    (rest : List Char) :
    scanItems fuel depth done (first ++ (closing level ']' others ++ rest)) =
      .ok (.arr (done.reverse ++ rereadItems items), rest) := by
  obtain ⟨fuel, rfl⟩ : ∃ n, fuel = n + 1 := ⟨fuel - 1, by omega⟩
  match items with
  | [] => cases lines
  | [x] =>
    rw [AreReadable] at readable
    cases lines
    have short : (writtenValue (level + 1) x).length < fuel := by
      simp [closing] at enough
      omega
    have read := scanValue_writtenValue x readable.1 (level + 1) short
      (endsNumber_closing level ']' [] rest)
    rw [scanItems, List.map_nil, read]
    dsimp only
    rw [skipGaps_closing_nil level (by decide)]
    simp [rereadItems]
  | x :: y :: items =>
    rw [AreReadable] at readable
    cases lines
    have short : (writtenValue (level + 1) x).length < fuel := by
      simp [closing] at enough
      omega
    have read := scanValue_writtenValue x readable.1 (level + 1) short
      (endsNumber_closing level ']' ((y :: items).map (writtenValue (level + 1))) rest)
    rw [scanItems, read, List.map_cons]
    dsimp only
    rw [skipGaps_closing_cons]
    show scanItems fuel depth (x.reread :: done) (skipGaps (newLine (level + 1) ++ _)) = _
    rw [skipGaps_newLine, skipGaps_writtenValue, scanItems_writtenItems (y :: items) readable.2
      level rfl (by simp [closing] at enough ⊢; omega)]
    simp [rereadItems]
/-- The fields of an object are read one by one. -/
theorem scanFields_writtenFields (fields : List (String × Json)) {depth : Nat}
    (readable : HaveReadable depth fields) (level : Nat) {fuel : Nat} {first : List Char}
    {others : List (List Char)} (lines : fields.map (writtenField (level + 1)) = first :: others)
    (enough : (first ++ closing level '\x7d' others).length < fuel) (done : List (String × Json))
    (distinct : ((done ++ fields).map (·.1)).Nodup) (rest : List Char) :
    scanFields fuel depth done (first ++ (closing level '\x7d' others ++ rest)) =
      .ok (.obj (done ++ rereadFields fields), rest) := by
  obtain ⟨fuel, rfl⟩ : ∃ n, fuel = n + 1 := ⟨fuel - 1, by omega⟩
  have new {key : String} {value : Json} {fields : List (String × Json)}
      (distinct : ((done ++ (key, value) :: fields).map (·.1)).Nodup) : key ∉ done.map (·.1) := by
    rw [List.map_append, List.nodup_append] at distinct
    exact fun among => distinct.2.2 key among key (List.mem_cons_self ..) rfl
  match fields with
  | [] => cases lines
  | [(key, value)] =>
    rw [HaveReadable] at readable
    cases lines
    have short : (writtenValue (level + 1) value).length < fuel := by
      simp [writtenField, closing] at enough
      omega
    have read := scanValue_writtenValue value readable.2.1 (level + 1) short
      (endsNumber_closing level '\x7d' [] rest)
    rw [List.map_nil, scanFields_writtenField readable.1 read,
      skipGaps_closing_nil level (by decide), setField_of_new (new distinct)]
    rfl
  | (key, value) :: field :: fields =>
    rw [HaveReadable] at readable
    cases lines
    have short : (writtenValue (level + 1) value).length < fuel := by
      simp [writtenField, closing] at enough
      omega
    have read := scanValue_writtenValue value readable.2.1 (level + 1) short
      (endsNumber_closing level '\x7d' ((field :: fields).map (writtenField (level + 1))) rest)
    rw [scanFields_writtenField readable.1 read, List.map_cons, skipGaps_closing_cons]
    show scanFields fuel depth (setField done key value.reread)
      (skipGaps (newLine (level + 1) ++ _)) = _
    rw [skipGaps_newLine, skipGaps_writtenField, setField_of_new (new distinct),
      scanFields_writtenFields (field :: fields) readable.2.2 level rfl
        (by simp [closing] at enough ⊢; omega) _ (by simpa using distinct)]
    simp [rereadFields]
end

/-- **A document that was written is read as the value that it was made from.** -/
theorem decode_written_document {j : Json} (readable : j.IsReadable nestingLimit) :
    decode (String.ofList (written j.document.toList)) = .ok j.reread := by
  have text : written j.document.toList = writtenValue 0 j := by
    rw [document, String.toList_ofList, writtenValue]
  obtain ⟨c, cs, first, starts⟩ := startsValue_writtenValue 0 j
  have unmarked : (writtenValue 0 j).head? ≠ some '\uFEFF' := by
    rw [first]
    simpa using starts.ne (by decide) (by decide)
  have gapless := skipGaps_writtenValue 0 j []
  have short : (writtenValue 0 j).length < 2 * (writtenValue 0 j).length + 1 := by omega
  have read := scanValue_writtenValue j readable 0 short endsNumber_nil
  rw [List.append_nil] at gapless read
  rw [decode, String.toList_ofList, text, decodeChars, if_neg unmarked, gapless, read]
  rfl

end Json

end ProofGrading
