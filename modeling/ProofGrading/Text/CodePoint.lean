/-!
# Text/CodePoint — texts that hold half of a pair

An escape can name half of a surrogate pair, a code point without a character.  In a text such a
half is written with two characters: a mark, and a sign that says which half it is.  Where the mark
stands before such a sign by itself, a stop is put between them.  So every text is a list of code
points, and every such list has a text.  Main statements: the code points of a text make up that
text (`ofCodePoints_codePoints`), and a text is found again from its code points
(`codePoints_ofCodePoints`).
-/

namespace ProofGrading.Text

/-- The mark before the sign of a half; the last character below the halves. -/
def mark : Char := '\ud7ff'

/-- What keeps the mark apart from a sign; the last character below the signs. -/
def stop : Char := Char.ofNat 0x10F7FF

/-- The sign of the first half. -/
def firstSign : Nat := 0x10F800

/-- A character that is the sign of a half, after a mark. -/
def isSign (c : Char) : Bool := decide (firstSign ≤ c.toNat)

/-- A code point that is half of a pair. -/
def isHalf (n : Nat) : Bool := decide (0xD800 ≤ n ∧ n ≤ 0xDFFF)

/-- Whether stops, or none, and a sign come first. -/
def meetsSign : List Char → Bool
  | [] => false
  | c :: rest => isSign c || (c == stop && meetsSign rest)

/-- Puts a code point before a text. -/
def consCodePoint (n : Nat) (cs : List Char) : List Char :=
  if isHalf n then mark :: Char.ofNat (firstSign + (n - 0xD800)) :: cs
  else if n = mark.toNat ∧ meetsSign cs then mark :: stop :: cs
  else Char.ofNat n :: cs

/-- The text of some code points. -/
def ofCodePoints (ns : List Nat) : List Char := ns.foldr consCodePoint []

/-- The code points of a text in which marks stand. -/
def markedCodePoints : List Char → List Nat
  | [] => []
  | [c] => [c.toNat]
  | c :: d :: rest =>
    if c = mark ∧ isSign d then (0xD800 + (d.toNat - firstSign)) :: markedCodePoints rest
    else if c = mark ∧ d = stop ∧ meetsSign rest then c.toNat :: markedCodePoints rest
    else c.toNat :: markedCodePoints (d :: rest)

/-- The code points of a text; without a mark they are those of its characters. -/
def codePoints (cs : List Char) : List Nat :=
  if cs.contains mark then markedCodePoints cs else cs.map Char.toNat

/-- The text of characters that stand for themselves. -/
def plainly (cs : List Char) : List Char := ofCodePoints (cs.map Char.toNat)

/-- Whether a text holds half of a pair, and so cannot be written to a file. -/
def holdsHalf (s : String) : Bool := (codePoints s.toList).any isHalf

/-- A character is not half of a pair. -/
theorem isHalf_toNat (c : Char) : isHalf c.toNat = false := by
  have : c.toNat < 0xD800 ∨ 0xDFFF < c.toNat ∧ c.toNat < 0x110000 := c.valid
  simp only [isHalf, decide_eq_false_iff_not]
  omega

/-- A sign gives a half, and the half that sign. -/
theorem consCodePoint_sign {d : Char} (h : isSign d = true) (cs : List Char) :
    consCodePoint (0xD800 + (d.toNat - firstSign)) cs = mark :: d :: cs := by
  have hd : firstSign ≤ d.toNat := by simpa [isSign] using h
  have hlt : d.toNat < 0xD800 ∨ 0xDFFF < d.toNat ∧ d.toNat < 0x110000 := d.valid
  have hs : firstSign = 0x10F800 := rfl
  have hhalf : isHalf (0xD800 + (d.toNat - firstSign)) = true := by
    simp only [isHalf, decide_eq_true_eq]
    omega
  have hsum : firstSign + (d.toNat - firstSign) = d.toNat := by omega
  simp [consCodePoint, hhalf, hsum]

/-- Without a mark the code points are those of the characters. -/
theorem markedCodePoints_eq_map {cs : List Char} (h : mark ∉ cs) :
    markedCodePoints cs = cs.map Char.toNat := by
  fun_induction markedCodePoints cs <;> simp_all

/-- The two ways to the code points of a text agree. -/
theorem codePoints_eq (cs : List Char) : codePoints cs = markedCodePoints cs := by
  unfold codePoints
  split
  · rfl
  · next h => exact (markedCodePoints_eq_map (by simpa using h)).symm

/-- A slash is no sign and no stop. -/
theorem meetsSign_append_slash (cs ds : List Char) :
    meetsSign (cs ++ '/' :: ds) = meetsSign cs := by
  induction cs with
  | nil => simp [meetsSign, show isSign '/' = false by decide, show ('/' == stop) = false by decide]
  | cons c rest ih => simp [meetsSign, ih]

/-- **A slash keeps the code points of two texts apart.** -/
theorem codePoints_append_slash (cs ds : List Char) :
    codePoints (cs ++ '/' :: ds) = codePoints cs ++ '/'.toNat :: codePoints ds := by
  have no_mark : ¬ '/' = mark := by decide
  have no_sign : isSign '/' = false := by decide
  have no_stop : ¬ '/' = stop := by decide
  simp only [codePoints_eq]
  fun_induction markedCodePoints cs with
  | case1 => cases ds <;> simp [markedCodePoints, no_mark]
  | case2 c => cases ds <;> simp [markedCodePoints, no_mark, no_sign, no_stop]
  | case3 c d rest h ih =>
    rw [List.cons_append, List.cons_append, markedCodePoints, if_pos h, ih]
    rfl
  | case4 c d rest h h' ih =>
    have h'' : c = mark ∧ d = stop ∧ meetsSign (rest ++ '/' :: ds) = true := by
      rwa [meetsSign_append_slash]
    rw [List.cons_append, List.cons_append, markedCodePoints, if_neg h, if_pos h'', ih]
    rfl
  | case5 c d rest h h' ih =>
    have h'' : ¬(c = mark ∧ d = stop ∧ meetsSign (rest ++ '/' :: ds) = true) := by
      rwa [meetsSign_append_slash]
    rw [List.cons_append, List.cons_append, markedCodePoints, if_neg h, if_neg h'',
      ← List.cons_append, ih]
    rfl

/-- **The code points of a text make up that text.** -/
theorem ofCodePoints_codePoints (cs : List Char) : ofCodePoints (codePoints cs) = cs := by
  rw [codePoints_eq]
  fun_induction markedCodePoints cs with
  | case1 => rfl
  | case2 c => simp [ofCodePoints, consCodePoint, isHalf_toNat, meetsSign]
  | case3 c d rest h ih =>
    rw [ofCodePoints, List.foldr_cons, ← ofCodePoints, ih, consCodePoint_sign h.2, h.1]
  | case4 c d rest _ h ih =>
    rw [ofCodePoints, List.foldr_cons, ← ofCodePoints, ih, consCodePoint, h.1, isHalf_toNat]
    simp [h.2]
  | case5 c d rest h h' ih =>
    rw [ofCodePoints, List.foldr_cons, ← ofCodePoints, ih, consCodePoint, isHalf_toNat]
    have : ¬(c.toNat = mark.toNat ∧ meetsSign (d :: rest) = true) := by
      rintro ⟨hc, hm⟩
      have hc := Char.toNat_inj.1 hc
      simp_all [meetsSign]
    simp [this]

/-- A code point that has a character is that character's. -/
theorem toNat_ofNat {n : Nat} (h : n.isValidChar) : (Char.ofNat n).toNat = n := by
  rw [Char.ofNat, dif_pos h]
  rfl

/-- What was put before a text is its first code point. -/
theorem codePoints_consCodePoint {n : Nat} (h : n < 0x110000) (cs : List Char) :
    codePoints (consCodePoint n cs) = n :: codePoints cs := by
  rw [codePoints_eq, codePoints_eq]
  unfold consCodePoint
  split
  · next hh =>
    have hn : 0xD800 ≤ n ∧ n ≤ 0xDFFF := by simpa [isHalf] using hh
    have hv : (firstSign + (n - 0xD800)).isValidChar := by
      have : firstSign = 0x10F800 := rfl
      exact Or.inr ⟨by omega, by omega⟩
    have ht : (Char.ofNat (firstSign + (n - 0xD800))).toNat = firstSign + (n - 0xD800) :=
      toNat_ofNat hv
    have hs : isSign (Char.ofNat (firstSign + (n - 0xD800))) = true := by
      simp [isSign, ht]
    have he : 0xD800 + (firstSign + (n - 0xD800) - firstSign) = n := by omega
    rw [markedCodePoints, if_pos ⟨rfl, hs⟩, ht, he]
  · next hh =>
    have hn : ¬(0xD800 ≤ n ∧ n ≤ 0xDFFF) := by simpa [isHalf] using hh
    split
    · next hm =>
      have : isSign stop = false := by decide
      simp [markedCodePoints, this, hm.1, hm.2]
    · next hm =>
      have hv : n.isValidChar := by
        rcases Nat.lt_or_ge n 0xD800 with hlt | hge
        · exact Or.inl hlt
        · exact Or.inr ⟨by omega, h⟩
      have ht : (Char.ofNat n).toNat = n := toNat_ofNat hv
      cases cs with
      | nil => simp [markedCodePoints, ht]
      | cons d rest =>
        have : Char.ofNat n = mark → meetsSign (d :: rest) = false := by
          intro he
          have : n = mark.toNat := by rw [← ht, he]
          simpa [this] using hm
        simp only [markedCodePoints, ht]
        by_cases he : Char.ofNat n = mark
        · have := this he
          simp only [meetsSign, Bool.or_eq_false_iff, Bool.and_eq_false_iff] at this
          grind
        · simp [he]

/-- **A text is found again from its code points.** -/
theorem codePoints_ofCodePoints {ns : List Nat} (h : ∀ n ∈ ns, n < 0x110000) :
    codePoints (ofCodePoints ns) = ns := by
  induction ns with
  | nil => rfl
  | cons n rest ih =>
    rw [ofCodePoints, List.foldr_cons, ← ofCodePoints, codePoints_consCodePoint (h n (by simp)),
      ih fun m hm => h m (List.mem_cons_of_mem n hm)]

end ProofGrading.Text
