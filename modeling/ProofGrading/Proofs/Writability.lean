import ProofGrading.Json.Encode

/-!
# Proofs/Writability — which documents have bytes

A text has bytes unless a mark stands before a sign in it (`bytes?_eq_none_iff`).  Nothing that a
document adds to its texts can bring the two together, so a document can be written exactly when
every text in it can (`Json.bytes?_document_eq_none_iff`).
-/

namespace ProofGrading

namespace Text

/-! ## Halves are marks before signs -/

/-- Whether a sign comes first. -/
def startsWithSign : List Char → Bool
  | [] => false
  | c :: _ => isSign c

/-- Whether a mark stands before a sign. -/
def namesHalf : List Char → Bool
  | [] => false
  | c :: rest => (c == mark && startsWithSign rest) || namesHalf rest

theorem isHalf_sign (d : Char) (h : isSign d = true) :
    isHalf (0xD800 + (d.toNat - firstSign)) = true := by
  have hd : firstSign ≤ d.toNat := by simpa [isSign] using h
  have hlt : d.toNat < 0xD800 ∨ 0xDFFF < d.toNat ∧ d.toNat < 0x110000 := d.valid
  have hs : firstSign = 0x10F800 := rfl
  simp only [isHalf, decide_eq_true_eq]
  omega

theorem any_isHalf_markedCodePoints (cs : List Char) :
    (markedCodePoints cs).any isHalf = namesHalf cs := by
  fun_induction markedCodePoints cs with
  | case1 => rfl
  | case2 c => simp [namesHalf, startsWithSign, isHalf_toNat]
  | case3 c d rest h ih =>
    simp [isHalf_sign d h.2, namesHalf, startsWithSign, h.1, h.2]
  | case4 c d rest _ h ih =>
    have noSign : isSign stop = false := by decide
    have noMark : (stop == mark) = false := by decide
    rw [List.any_cons, isHalf_toNat, ih, h.2.1]
    simp [namesHalf, startsWithSign, noSign, noMark]
  | case5 c d rest h _ ih =>
    have : (c == mark && isSign d) = false := by simpa using h
    rw [List.any_cons, isHalf_toNat, ih]
    simp [namesHalf, startsWithSign, this]

theorem holdsHalf_eq (s : String) : holdsHalf s = namesHalf s.toList := by
  rw [holdsHalf, codePoints_eq, any_isHalf_markedCodePoints]

/-- **A text has bytes unless it holds half of a pair.** -/
theorem bytes?_eq_none_iff {s : String} : bytes? s = none ↔ holdsHalf s = true := by
  unfold bytes?
  split
  · rw [holdsHalf, codePoints_eq]
    dsimp only
    split <;> simp_all
  · next h => simp [holdsHalf_of_unmarked (by simpa using h)]

/-! ## Plain characters keep marks and signs apart -/

/-- A character that is neither the mark nor a sign. -/
def IsPlain (c : Char) : Prop := c.toNat < mark.toNat

theorem IsPlain.ne_mark {c : Char} (h : IsPlain c) : (c == mark) = false := by
  rw [beq_eq_false_iff_ne]
  rintro rfl
  exact Nat.lt_irrefl _ h

theorem IsPlain.isSign_eq {c : Char} (h : IsPlain c) : isSign c = false := by
  have hm : c.toNat < mark.toNat := h
  have : mark.toNat = 0xD7FF := rfl
  have : firstSign = 0x10F800 := rfl
  simp only [isSign, decide_eq_false_iff_not]
  omega

instance (c : Char) : Decidable (IsPlain c) := inferInstanceAs (Decidable (c.toNat < mark.toNat))

theorem plain_of_all {cs : List Char} (h : cs.all (fun c => decide (IsPlain c)) = true) :
    ∀ c ∈ cs, IsPlain c := fun c hc => of_decide_eq_true (List.all_eq_true.1 h c hc)

theorem namesHalf_cons_of_isPlain {c : Char} (h : IsPlain c) (cs : List Char) :
    namesHalf (c :: cs) = namesHalf cs := by
  rw [namesHalf, h.ne_mark, Bool.false_and, Bool.false_or]

theorem namesHalf_append {cs ds : List Char} (h : startsWithSign ds = false) :
    namesHalf (cs ++ ds) = (namesHalf cs || namesHalf ds) := by
  induction cs with
  | nil => rfl
  | cons c rest ih =>
    rw [List.cons_append, namesHalf, namesHalf, ih, Bool.or_assoc]
    cases rest with
    | nil => rw [List.nil_append, h]; rfl
    | cons => rfl

/-- **A plain character between two texts keeps them apart.** -/
theorem namesHalf_append_cons {c : Char} (h : IsPlain c) (cs ds : List Char) :
    namesHalf (cs ++ c :: ds) = (namesHalf cs || namesHalf ds) := by
  rw [namesHalf_append (by exact h.isSign_eq), namesHalf_cons_of_isPlain h]

theorem namesHalf_append_of_plain {cs : List Char} (h : ∀ c ∈ cs, IsPlain c) (ds : List Char) :
    namesHalf (cs ++ ds) = namesHalf ds := by
  induction cs with
  | nil => rfl
  | cons c rest ih =>
    rw [List.cons_append, namesHalf_cons_of_isPlain (h c (List.mem_cons_self ..)),
      ih fun d hd => h d (List.mem_cons_of_mem c hd)]

theorem namesHalf_of_plain {cs : List Char} (h : ∀ c ∈ cs, IsPlain c) : namesHalf cs = false := by
  rw [← List.append_nil cs, namesHalf_append_of_plain h]
  rfl

end Text

/-! ## Numbers are plain -/

namespace Decimal

open Text (IsPlain)

theorem plain_replicate_zero (n : Nat) : ∀ c ∈ List.replicate n '0', IsPlain c := by
  intro c hc
  rw [List.eq_of_mem_replicate hc]
  decide

theorem plain_natText (n : Nat) : ∀ c ∈ natText n, IsPlain c := by
  intro c hc
  have digit : c.isDigit = true := Nat.isDigit_of_mem_toDigits (by decide) (by decide) hc
  have bound : c.toNat ≤ 57 := by
    simp only [Char.isDigit, Bool.and_eq_true, decide_eq_true_eq] at digit
    exact digit.2
  exact Nat.lt_of_le_of_lt bound (by decide)

theorem plain_pointAfter (n : Int) {ds : List Char} (h : ∀ c ∈ ds, IsPlain c) :
    ∀ c ∈ pointAfter n ds, IsPlain c := by
  have zero : IsPlain '0' := by decide
  have point : IsPlain '.' := by decide
  unfold pointAfter
  split
  · simp only [List.forall_mem_cons, List.forall_mem_append]
    exact ⟨zero, point, plain_replicate_zero _, h⟩
  · dsimp only
    split
    · simp only [List.forall_mem_cons, List.forall_mem_append]
      exact ⟨⟨h, plain_replicate_zero _⟩, point, zero, List.forall_mem_nil _⟩
    · simp only [List.forall_mem_cons, List.forall_mem_append]
      exact ⟨fun c hc => h c (List.mem_of_mem_take hc), point,
        fun c hc => h c (List.mem_of_mem_drop hc)⟩

theorem plain_scientific (style : Style) (p : Int) {ds : List Char} (h : ∀ c ∈ ds, IsPlain c) :
    ∀ c ∈ scientific style p ds, IsPlain c := by
  have zero : IsPlain '0' := by decide
  have point : IsPlain '.' := by decide
  have exponent : ∀ c ∈ ['e', if p < 0 then '-' else '+'], IsPlain c := by
    split <;> exact Text.plain_of_all (by decide)
  unfold scientific padLeft
  simp only [List.forall_mem_append]
  refine ⟨⟨?_, exponent⟩, plain_replicate_zero _, plain_natText _⟩
  cases ds with
  | nil => simpa using zero
  | cons d rest =>
    cases rest with
    | nil => exact h
    | cons e rest =>
      simp only [List.forall_mem_cons] at h ⊢
      exact ⟨h.1, point, h.2⟩

theorem plain_binary (style : Style) (b : Binary) : ∀ c ∈ style.binary b, IsPlain c := by
  have zero : ∀ c ∈ ['0', '.', '0'], IsPlain c := Text.plain_of_all (by decide)
  have digits : ∀ d, ∀ c ∈ style.digits d, IsPlain c := by
    intro d
    unfold Style.digits
    dsimp only
    split
    · exact plain_pointAfter _ (plain_natText _)
    · exact plain_scientific _ _ (plain_natText _)
  have body : ∀ c ∈ (if b.significand = 0 then ['0', '.', '0'] else
      style.digits (shortest b.significand b.exponent)), IsPlain c := by
    split
    · exact zero
    · exact digits _
  unfold Style.binary
  dsimp only
  split
  · exact List.forall_mem_cons.2 ⟨by decide, body⟩
  · exact body

end Decimal

/-! ## Documents -/

namespace Json

open Text (IsPlain namesHalf startsWithSign)

theorem plain_documentFloat (x : Float) : ∀ c ∈ documentFloat x, IsPlain c := by
  have null : ∀ c ∈ ['n', 'u', 'l', 'l'], IsPlain c := Text.plain_of_all (by decide)
  unfold documentFloat Decimal.Style.write?
  cases Decimal.view x with
  | finite b => exact Decimal.plain_binary _ b
  | nan => exact null
  | infinite => exact null

theorem plain_intText (n : Int) : ∀ c ∈ intText n, IsPlain c := by
  unfold intText
  split
  · exact List.forall_mem_cons.2 ⟨by decide, Decimal.plain_natText _⟩
  · exact Decimal.plain_natText _

theorem plain_newLine (level : Nat) : ∀ c ∈ newLine level, IsPlain c := by
  rw [newLine, List.forall_mem_cons]
  refine ⟨by decide, fun c hc => ?_⟩
  rw [List.eq_of_mem_replicate hc]
  decide

theorem plain_hexDigits (width n : Nat) : ∀ c ∈ Text.hexDigits width n, IsPlain c := by
  have digit : ∀ n, n < 16 → IsPlain (Text.hexChar n) := by decide
  induction width generalizing n with
  | zero => exact List.forall_mem_nil _
  | succ width ih =>
    rw [Text.hexDigits, List.forall_mem_append, List.forall_mem_singleton]
    exact ⟨ih _, digit _ (Nat.mod_lt _ (by decide))⟩

/-- A character stands for itself inside quotes, or is plain and written in plain characters. -/
theorem quoteChar_eq_or_plain (c : Char) :
    quoteChar c = [c] ∨ IsPlain c ∧ quoteChar c ≠ [] ∧ ∀ d ∈ quoteChar c, IsPlain d := by
  have escaped : ∀ {c d : Char}, IsPlain c → IsPlain d →
      IsPlain c ∧ ['\\', d] ≠ [] ∧ ∀ e ∈ ['\\', d], IsPlain e := fun hc hd =>
    ⟨hc, List.cons_ne_nil _ _, List.forall_mem_cons.2 ⟨by decide, List.forall_mem_singleton.2 hd⟩⟩
  unfold quoteChar
  repeat' split
  all_goals first
    | exact Or.inl rfl
    | (next h => subst h; exact Or.inr (escaped (by decide) (by decide)))
    | skip
  next control =>
    refine Or.inr ⟨Nat.lt_trans control (by decide), List.cons_ne_nil _ _, ?_⟩
    rw [List.forall_mem_cons, List.forall_mem_cons]
    exact ⟨by decide, by decide, plain_hexDigits _ _⟩

theorem startsWithSign_flatMap_quoteChar (cs : List Char) :
    startsWithSign (cs.flatMap quoteChar) = startsWithSign cs := by
  cases cs with
  | nil => rfl
  | cons c rest =>
    rw [List.flatMap_cons]
    rcases quoteChar_eq_or_plain c with h | ⟨hc, hne, hplain⟩
    · rw [h]
      rfl
    · obtain ⟨d, ds, hd⟩ := List.exists_cons_of_ne_nil hne
      rw [hd] at hplain ⊢
      exact (hplain d (List.mem_cons_self ..)).isSign_eq.trans hc.isSign_eq.symm

/-- **Quoting brings no mark before a sign, and parts none.** -/
theorem namesHalf_flatMap_quoteChar (cs : List Char) :
    namesHalf (cs.flatMap quoteChar) = namesHalf cs := by
  induction cs with
  | nil => rfl
  | cons c rest ih =>
    rw [List.flatMap_cons]
    rcases quoteChar_eq_or_plain c with h | ⟨hc, -, hplain⟩
    · rw [h, List.singleton_append, namesHalf, namesHalf, ih, startsWithSign_flatMap_quoteChar]
    · rw [Text.namesHalf_append_of_plain hplain, Text.namesHalf_cons_of_isPlain hc, ih]

theorem namesHalf_quote (s : String) : namesHalf (quote s) = Text.holdsHalf s := by
  rw [quote, Text.namesHalf_cons_of_isPlain (by decide), Text.namesHalf_append_cons (by decide),
    namesHalf_flatMap_quoteChar, Text.holdsHalf_eq]
  exact Bool.or_false _

theorem namesHalf_commaSeparated (parts : List (List Char)) :
    namesHalf (commaSeparated parts) = parts.any namesHalf := by
  induction parts with
  | nil => rfl
  | cons part rest ih =>
    cases rest with
    | nil => rw [commaSeparated, List.any_cons, List.any_nil, Bool.or_false]
    | cons next rest =>
      change namesHalf (part ++ ',' :: commaSeparated (next :: rest)) = _
      rw [Text.namesHalf_append_cons (by decide), ih]
      rfl

theorem namesHalf_block (level : Nat) {opening closing : Char} (ho : IsPlain opening)
    (hc : IsPlain closing) (parts : List (List Char)) :
    namesHalf (block level opening closing parts) = parts.any namesHalf := by
  unfold block
  split
  · next h =>
    rw [List.isEmpty_iff.1 h, Text.namesHalf_cons_of_isPlain ho,
      Text.namesHalf_cons_of_isPlain hc]
    rfl
  · have lines : (parts.map (newLine (level + 1) ++ ·)).any namesHalf = parts.any namesHalf := by
      rw [List.any_map]
      congr 1
      funext part
      exact Text.namesHalf_append_of_plain (plain_newLine _) part
    have ending : ∀ c ∈ newLine level ++ [closing], IsPlain c :=
      List.forall_mem_append.2 ⟨plain_newLine level, List.forall_mem_singleton.2 hc⟩
    rw [Text.namesHalf_cons_of_isPlain ho, List.append_assoc, Text.namesHalf_append,
      namesHalf_commaSeparated, lines, Text.namesHalf_of_plain ending, Bool.or_false]
    exact (ending '\n' (List.mem_cons_self ..)).isSign_eq

mutual
/-- The texts of a value: its strings and the keys of its objects. -/
def texts : Json → List String
  | .str s => [s]
  | .arr items => textsOfItems items
  | .obj fields => textsOfFields fields
  | _ => []
/-- The texts of the items of an array. -/
def textsOfItems : List Json → List String
  | [] => []
  | x :: rest => texts x ++ textsOfItems rest
/-- The texts of the fields of an object. -/
def textsOfFields : List (String × Json) → List String
  | [] => []
  | (k, v) :: rest => k :: (texts v ++ textsOfFields rest)
end

mutual
theorem namesHalf_prettyChars (level : Nat) (j : Json) :
    namesHalf (prettyChars documentFloat level j) = j.texts.any Text.holdsHalf :=
  match j with
  | .null => rfl
  | .bool true => rfl
  | .bool false => rfl
  | .int n => Text.namesHalf_of_plain (plain_intText n)
  | .float x => Text.namesHalf_of_plain (plain_documentFloat x)
  | .str s => by
    rw [prettyChars, namesHalf_quote, texts, List.any_cons, List.any_nil, Bool.or_false]
  | .arr items => by
    rw [prettyChars, namesHalf_block level (by decide) (by decide), namesHalf_prettyItems, texts]
  | .obj fields => by
    rw [prettyChars, namesHalf_block level (by decide) (by decide), namesHalf_prettyFields, texts]
theorem namesHalf_prettyItems (level : Nat) (items : List Json) :
    (prettyItems documentFloat level items).any namesHalf =
      (textsOfItems items).any Text.holdsHalf :=
  match items with
  | [] => by rw [prettyItems, textsOfItems, List.any_nil, List.any_nil]
  | x :: rest => by
    rw [prettyItems, List.any_cons, namesHalf_prettyChars, namesHalf_prettyItems, textsOfItems,
      List.any_append]
theorem namesHalf_prettyFields (level : Nat) (fields : List (String × Json)) :
    (prettyFields documentFloat level fields).any namesHalf =
      (textsOfFields fields).any Text.holdsHalf :=
  match fields with
  | [] => by rw [prettyFields, textsOfFields, List.any_nil, List.any_nil]
  | (k, v) :: rest => by
    rw [prettyFields, List.any_cons, Text.namesHalf_append_cons (by decide),
      Text.namesHalf_cons_of_isPlain (by decide), namesHalf_quote, namesHalf_prettyChars,
      namesHalf_prettyFields, textsOfFields, List.any_cons, List.any_append, Bool.or_assoc]
end

/-- **A document has bytes unless one of its texts has none.** -/
theorem bytes?_document_eq_none_iff (j : Json) :
    Text.bytes? j.document = none ↔ ∃ s ∈ j.texts, Text.holdsHalf s = true := by
  rw [Text.bytes?_eq_none_iff, Text.holdsHalf_eq, document, String.toList_ofList,
    namesHalf_prettyChars, List.any_eq_true]

end Json

end ProofGrading
