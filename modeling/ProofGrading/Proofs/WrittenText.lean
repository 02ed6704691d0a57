import ProofGrading.Proofs.Writability

/-!
# Proofs/WrittenText — the characters that a file holds

A text without halves is written to a file with the characters of its code points (`Text.written`).
Reading these characters as they stand gives the text back (`Text.plainly_written`).  Plain
characters are written as they are and part a text in two, and quoting a text quotes what is
written (`Json.written_flatMap_quoteChar`), so a document is written part by part.
-/

namespace ProofGrading

namespace Text

/-- The characters that are written for a text without halves. -/
def written (cs : List Char) : List Char := (markedCodePoints cs).map Char.ofNat

/-- The code points of a text are characters, or halves. -/
theorem isHalf_or_toNat (cs : List Char) :
    ∀ n ∈ markedCodePoints cs, isHalf n = true ∨ ∃ c : Char, n = c.toNat := by
  fun_induction markedCodePoints cs with
  | case1 => exact List.forall_mem_nil _
  | case2 c => exact List.forall_mem_singleton.2 (.inr ⟨c, rfl⟩)
  | case3 c d rest h ih => exact List.forall_mem_cons.2 ⟨.inl (isHalf_sign d h.2), ih⟩
  | case4 c d rest _ h ih => exact List.forall_mem_cons.2 ⟨.inr ⟨c, rfl⟩, ih⟩
  | case5 c d rest h h' ih => exact List.forall_mem_cons.2 ⟨.inr ⟨c, rfl⟩, ih⟩

theorem map_toNat_written {cs : List Char} (h : namesHalf cs = false) :
    (written cs).map Char.toNat = markedCodePoints cs := by
  rw [← any_isHalf_markedCodePoints, List.any_eq_false] at h
  have same : ∀ n ∈ markedCodePoints cs, (Char.toNat ∘ Char.ofNat) n = id n := by
    intro n hn
    obtain half | ⟨c, rfl⟩ := isHalf_or_toNat cs n hn
    · exact absurd half (h n hn)
    · exact congrArg Char.toNat (Char.ofNat_toNat c)
  rw [written, List.map_map, List.map_congr_left same, List.map_id]

/-- **What is written, read as it stands, is the text.** -/
theorem plainly_written {cs : List Char} (h : namesHalf cs = false) :
    plainly (written cs) = cs := by
  rw [plainly, map_toNat_written h, ← codePoints_eq, ofCodePoints_codePoints]

/-- **Characters are written as they stand** when the text is theirs. -/
theorem written_plainly (cs : List Char) : written (plainly cs) = cs := by
  have valid : ∀ n ∈ cs.map Char.toNat, n < 0x110000 := by
    intro n hn
    obtain ⟨c, -, rfl⟩ := List.mem_map.1 hn
    have : c.toNat < 0xD800 ∨ 0xDFFF < c.toNat ∧ c.toNat < 0x110000 := c.valid
    omega
  have same : ∀ c ∈ cs, (Char.ofNat ∘ Char.toNat) c = id c := fun c _ => Char.ofNat_toNat c
  rw [written, plainly, ← codePoints_eq, codePoints_ofCodePoints valid, List.map_map,
    List.map_congr_left same, List.map_id]

theorem written_of_unmarked {cs : List Char} (h : mark ∉ cs) : written cs = cs := by
  have same : ∀ c ∈ cs, (Char.ofNat ∘ Char.toNat) c = id c := fun c _ => Char.ofNat_toNat c
  rw [written, markedCodePoints_eq_map h, List.map_map, List.map_congr_left same, List.map_id]

/-- **The bytes of a text are those of the characters that are written for it.** -/
theorem bytes?_eq_written {s : String} (h : holdsHalf s = false) :
    bytes? s = some (String.ofList (written s.toList)).toUTF8 := by
  rw [holdsHalf_eq, ← any_isHalf_markedCodePoints] at h
  unfold bytes?
  split
  · dsimp only
    rw [h]
    rfl
  · next unmarked =>
    rw [written_of_unmarked (by simpa using unmarked), String.ofList_toList]

/-! ## Plain characters part a text -/

/-- A text that starts with a plain character, if with any. -/
def StartsPlain (cs : List Char) : Prop := ∀ c ∈ cs.head?, IsPlain c

theorem startsPlain_cons {c : Char} (h : IsPlain c) (cs : List Char) : StartsPlain (c :: cs) := by
  rintro _ ⟨⟩
  exact h

theorem IsPlain.ne_stop {c : Char} (h : IsPlain c) : (c == stop) = false := by
  rw [beq_eq_false_iff_ne]
  rintro rfl
  exact absurd h (by decide)

theorem StartsPlain.meetsSign_append {ds : List Char} (h : StartsPlain ds) (cs : List Char) :
    meetsSign (cs ++ ds) = meetsSign cs := by
  induction cs with
  | nil =>
    cases ds with
    | nil => rfl
    | cons d ds =>
      have plain := h d rfl
      simp [meetsSign, plain.isSign_eq, plain.ne_stop]
  | cons c rest ih => rw [List.cons_append, meetsSign, meetsSign, ih]

theorem StartsPlain.markedCodePoints_append {ds : List Char} (h : StartsPlain ds)
    (cs : List Char) :
    markedCodePoints (cs ++ ds) = markedCodePoints cs ++ markedCodePoints ds := by
  fun_induction markedCodePoints cs with
  | case1 => rfl
  | case2 c =>
    cases ds with
    | nil => rfl
    | cons d ds =>
      have plain := h d rfl
      have : ¬d = stop := by simpa using plain.ne_stop
      simp [markedCodePoints, plain.isSign_eq, this]
  | case3 c d rest sign ih =>
    rw [List.cons_append, List.cons_append, markedCodePoints, if_pos sign, ih, List.cons_append]
  | case4 c d rest noSign stopped ih =>
    rw [List.cons_append, List.cons_append, markedCodePoints, if_neg noSign, if_pos, ih,
      List.cons_append]
    rwa [h.meetsSign_append]
  | case5 c d rest noSign unstopped ih =>
    rw [List.cons_append, List.cons_append, markedCodePoints, if_neg noSign, if_neg,
      ← List.cons_append, ih, List.cons_append]
    rwa [h.meetsSign_append]

/-- **What starts plain is written by itself.** -/
theorem StartsPlain.written_append {ds : List Char} (h : StartsPlain ds) (cs : List Char) :
    written (cs ++ ds) = written cs ++ written ds := by
  rw [written, h.markedCodePoints_append, List.map_append]
  rfl

theorem plainly_cons (c : Char) (cs : List Char) : plainly (c :: cs) =
    if c = mark ∧ meetsSign (plainly cs) then mark :: stop :: plainly cs else c :: plainly cs := by
  show consCodePoint c.toNat (plainly cs) = _
  simp only [consCodePoint, isHalf_toNat, Char.ofNat_toNat, Char.toNat_inj, Bool.false_eq_true,
    if_false]

theorem plainly_append_of_plain {cs : List Char} (h : ∀ c ∈ cs, IsPlain c) (ds : List Char) :
    plainly (cs ++ ds) = cs ++ plainly ds := by
  induction cs with
  | nil => rfl
  | cons c rest ih =>
    have plain := h c (List.mem_cons_self ..)
    rw [List.cons_append, plainly_cons, if_neg,
      ih fun d hd => h d (List.mem_cons_of_mem c hd), List.cons_append]
    rintro ⟨rfl, -⟩
    exact Nat.lt_irrefl _ plain

theorem mark_not_mem_of_plain {cs : List Char} (h : ∀ c ∈ cs, IsPlain c) : mark ∉ cs :=
  fun among => Nat.lt_irrefl _ (h mark among)

theorem written_of_plain {cs : List Char} (h : ∀ c ∈ cs, IsPlain c) : written cs = cs :=
  written_of_unmarked (mark_not_mem_of_plain h)

theorem written_cons {c : Char} (h : IsPlain c) (cs : List Char) :
    written (c :: cs) = c :: written cs := by
  have apart : c ≠ mark := by simpa using h.ne_mark
  cases cs with
  | nil => simp [written, markedCodePoints, Char.ofNat_toNat]
  | cons d rest => simp [written, markedCodePoints, apart, Char.ofNat_toNat]

theorem written_append_of_plain {cs : List Char} (h : ∀ c ∈ cs, IsPlain c) (ds : List Char) :
    written (cs ++ ds) = cs ++ written ds := by
  induction cs with
  | nil => rfl
  | cons c rest ih =>
    rw [List.cons_append, written_cons (h c (List.mem_cons_self ..)),
      ih fun d hd => h d (List.mem_cons_of_mem c hd), List.cons_append]

end Text

/-! ## Documents -/

namespace Json

open Text (IsPlain written plainly namesHalf StartsPlain)

theorem meetsSign_flatMap_quoteChar (cs : List Char) :
    Text.meetsSign (cs.flatMap quoteChar) = Text.meetsSign cs := by
  induction cs with
  | nil => rfl
  | cons c rest ih =>
    rw [List.flatMap_cons]
    rcases quoteChar_eq_or_plain c with alone | ⟨plain, nonempty, escaped⟩
    · rw [alone, List.singleton_append, Text.meetsSign, Text.meetsSign, ih]
    · obtain ⟨d, ds, first⟩ := List.exists_cons_of_ne_nil nonempty
      have start := escaped d (first ▸ List.mem_cons_self ..)
      rw [first, List.cons_append]
      simp [Text.meetsSign, start.isSign_eq, start.ne_stop, plain.isSign_eq, plain.ne_stop]

theorem flatMap_quoteChar_plainly (cs : List Char) :
    (plainly cs).flatMap quoteChar = plainly (cs.flatMap quoteChar) := by
  induction cs with
  | nil => rfl
  | cons c rest ih =>
    rw [List.flatMap_cons]
    rcases quoteChar_eq_or_plain c with alone | ⟨plain, -, escaped⟩
    · -- a stop is put between the mark and a sign on both sides
      have stop : quoteChar Text.stop = [Text.stop] := by decide
      rw [alone, List.singleton_append, Text.plainly_cons, Text.plainly_cons, ← ih,
        meetsSign_flatMap_quoteChar]
      split
      · next marked =>
        rw [List.flatMap_cons, List.flatMap_cons, ← marked.1, alone, stop]
        rfl
      · rw [List.flatMap_cons, alone]
        rfl
    · have alone := Text.plainly_append_of_plain (List.forall_mem_singleton.2 plain) rest
      rw [List.singleton_append, List.singleton_append] at alone
      rw [alone, List.flatMap_cons, ih, Text.plainly_append_of_plain escaped]

/-- **Quoting a text quotes what is written.** -/
theorem written_flatMap_quoteChar {cs : List Char} (h : namesHalf cs = false) :
    written (cs.flatMap quoteChar) = (written cs).flatMap quoteChar := by
  rw [← Text.written_plainly ((written cs).flatMap quoteChar), ← flatMap_quoteChar_plainly,
    Text.plainly_written h]

end Json

end ProofGrading
