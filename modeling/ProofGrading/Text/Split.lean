/-!
# Text/Split — a text as pieces between separators

There is always one more piece than separators, so joining the pieces gives the text back
(`join_splitOn`), and no piece holds the separator (`not_mem_of_mem_splitOn`).  The first piece
begins the text, and every other one stands right after a separator (`head?_splitOn`,
`cons_infix_of_mem_tail_splitOn`).
-/

namespace ProofGrading.Text

/-- The pieces of a text between the occurrences of `sep`. -/
def splitOn (sep : Char) : List Char → List (List Char)
  | [] => [[]]
  | c :: rest =>
    if c = sep then [] :: splitOn sep rest
    else match splitOn sep rest with
      | [] => [[c]]
      | piece :: more => (c :: piece) :: more

/-- Pieces with `sep` between them. -/
def joinWith (sep : Char) : List (List Char) → List Char
  | [] => []
  | [piece] => piece
  | piece :: rest => piece ++ sep :: joinWith sep rest

/-- There is at least one piece. -/
theorem splitOn_ne_nil (sep : Char) (cs : List Char) : splitOn sep cs ≠ [] := by
  cases cs with
  | nil => simp [splitOn]
  | cons c rest =>
    rw [splitOn]
    split
    · simp
    · split <;> simp

/-- **Joining the pieces gives the text back.** -/
theorem join_splitOn (sep : Char) (cs : List Char) : joinWith sep (splitOn sep cs) = cs := by
  induction cs with
  | nil => rfl
  | cons c rest ih =>
    rw [splitOn]
    split
    · next h =>
      cases hs : splitOn sep rest with
      | nil => exact absurd hs (splitOn_ne_nil sep rest)
      | cons piece more => rw [joinWith, ← hs, ih, h]; rfl; simp
    · cases hs : splitOn sep rest with
      | nil => exact absurd hs (splitOn_ne_nil sep rest)
      | cons piece more =>
        rw [hs] at ih
        cases more with
        | nil => simp only [joinWith] at ih ⊢; rw [ih]
        | cons p ps => simp only [joinWith, List.cons_append] at ih ⊢; rw [ih]

/-- No piece holds the separator. -/
theorem not_mem_of_mem_splitOn (sep : Char) (cs : List Char) :
    ∀ piece ∈ splitOn sep cs, sep ∉ piece := by
  induction cs with
  | nil => simp [splitOn]
  | cons c rest ih =>
    rw [splitOn]
    split
    · simpa using ih
    · next h =>
      cases hs : splitOn sep rest with
      | nil => simpa using Ne.symm h
      | cons piece more =>
        rw [hs] at ih
        intro p hp
        rcases List.mem_cons.1 hp with rfl | hp
        · simpa [Ne.symm h] using ih piece (by simp)
        · exact ih p (by simp [hp])

theorem splitOn_of_not_mem {sep : Char} {rest : List Char} (h : sep ∉ rest) :
    splitOn sep rest = [rest] := by
  induction rest with
  | nil => rfl
  | cons c rest ih =>
    obtain ⟨other, absent⟩ := not_or.1 (mt List.mem_cons.2 h)
    rw [splitOn, if_neg (Ne.symm other), ih absent]

/-- **A separator ends the pieces before it**, and those after it begin anew. -/
theorem splitOn_append (sep : Char) (front rest : List Char) :
    splitOn sep (front ++ sep :: rest) = splitOn sep front ++ splitOn sep rest := by
  induction front with
  | nil => exact if_pos rfl
  | cons c front ih =>
    rw [List.cons_append, splitOn, splitOn, ih]
    split
    · rfl
    · cases hs : splitOn sep front with
      | nil => exact absurd hs (splitOn_ne_nil sep front)
      | cons piece more => rfl

/-- **A piece ends at the first separator.** -/
theorem splitOn_append_cons {sep : Char} {front : List Char} (h : sep ∉ front)
    (rest : List Char) : splitOn sep (front ++ sep :: rest) = front :: splitOn sep rest := by
  rw [splitOn_append, splitOn_of_not_mem h, List.singleton_append]

/-- The first piece is what stands before the first separator. -/
theorem head?_splitOn (sep : Char) (cs : List Char) :
    (splitOn sep cs).head? = some (cs.takeWhile (· != sep)) := by
  induction cs with
  | nil => rfl
  | cons c rest ih =>
    rw [splitOn, List.takeWhile_cons]
    split
    · next same => rw [same, bne_self_eq_false]; rfl
    · next other =>
      rw [bne_iff_ne.2 other, if_pos rfl]
      cases hs : splitOn sep rest with
      | nil => exact absurd hs (splitOn_ne_nil sep rest)
      | cons piece more =>
        rw [hs, List.head?_cons] at ih
        rw [List.head?_cons, Option.some.inj ih]

/-- **Every other piece stands right after a separator.** -/
theorem cons_infix_of_mem_tail_splitOn {sep : Char} {cs piece : List Char}
    (h : piece ∈ (splitOn sep cs).tail) : sep :: piece <:+: cs := by
  induction cs with
  | nil => cases h
  | cons c rest ih =>
    cases hs : splitOn sep rest with
    | nil => exact absurd hs (splitOn_ne_nil sep rest)
    | cons first more =>
      rw [hs, List.tail_cons] at ih
      rw [splitOn, hs] at h
      split at h
      · next same =>
        obtain rfl | later := List.mem_cons.1 h
        · have is_first := head?_splitOn sep rest
          rw [hs, List.head?_cons] at is_first
          rw [Option.some.inj is_first, same]
          exact (List.cons_prefix_cons.2 ⟨rfl, List.takeWhile_prefix _⟩).isInfix
        · exact List.infix_cons (ih later)
      · exact List.infix_cons (ih h)

/-- The pieces of a text between the occurrences of `sep`. -/
def pieces (sep : Char) (s : String) : List String := (splitOn sep s.toList).map String.ofList

/-- **Texts with the same pieces are the same.** -/
theorem eq_of_pieces_eq {sep : Char} {s t : String} (h : pieces sep s = pieces sep t) : s = t := by
  have same : splitOn sep s.toList = splitOn sep t.toList :=
    (List.map_inj_right fun _ _ => String.ofList_inj.1).1 h
  rw [← String.toList_inj, ← join_splitOn sep s.toList, same, join_splitOn]

theorem pieces_ne_nil (sep : Char) (s : String) : pieces sep s ≠ [] :=
  mt List.map_eq_nil_iff.1 (splitOn_ne_nil sep s.toList)

end ProofGrading.Text
