import ProofGrading.Proofs.ExportedSheet

/-!
# Proofs/Nesting — names in a namespace

A name is internal when one of its components starts with an underscore.  A component starts where
the name does or right after a dot, so this can be seen in the text of the name
(`isInternalName_iff`); and a dot between two names joins their components, none of which is lost or
made new.  Main statement: a declaration in a namespace is as internal as it is by itself, or as the
namespace is (`isInternalName_nested`).
-/

namespace ProofGrading

/-- **A piece starts where the text does, or right after a separator.** -/
theorem Text.exists_head?_splitOn_iff {sep c : Char} (other : c ≠ sep) (cs : List Char) :
    (∃ piece ∈ splitOn sep cs, piece.head? = some c) ↔ [c] <+: cs ∨ [sep, c] <:+: cs := by
  have starts (rest : List Char) : ∃ piece ∈ splitOn sep (c :: rest), piece.head? = some c := by
    refine ⟨_, List.mem_of_mem_head? (head?_splitOn sep (c :: rest)), ?_⟩
    rw [List.takeWhile_cons, bne_iff_ne.2 other]
    rfl
  constructor
  · rintro ⟨piece, among, start⟩
    obtain ⟨rest, rfl⟩ := List.head?_eq_some_iff.1 start
    obtain ⟨first, more, pieces_eq⟩ := List.exists_cons_of_ne_nil (splitOn_ne_nil sep cs)
    rw [pieces_eq] at among
    obtain rfl | later := List.mem_cons.1 among
    · have is_first := head?_splitOn sep cs
      rw [pieces_eq, List.head?_cons, Option.some_inj] at is_first
      have begins : c :: rest <+: cs := is_first ▸ List.takeWhile_prefix _
      exact .inl ((List.prefix_append [c] rest).trans begins)
    · have in_tail : c :: rest ∈ (splitOn sep cs).tail := by rwa [pieces_eq, List.tail_cons]
      have after := cons_infix_of_mem_tail_splitOn in_tail
      exact .inr ((List.prefix_append [sep, c] rest).isInfix.trans after)
  · rintro (⟨rest, rfl⟩ | ⟨front, rest, rfl⟩)
    · exact starts rest
    · obtain ⟨piece, among, start⟩ := starts rest
      refine ⟨piece, ?_, start⟩
      rw [List.append_assoc, List.cons_append, splitOn_append]
      exact List.mem_append_right _ among

/-- **A name is internal** if it starts with an underscore, or if one stands right after a dot. -/
theorem isInternalName_iff (name : String) :
    isInternalName name = true ↔ ['_'] <+: name.toList ∨ ['.', '_'] <:+: name.toList := by
  rw [← Text.exists_head?_splitOn_iff (by decide)]
  simp only [isInternalName, List.any_eq_true, beq_iff_eq]

/-- **A dot joins the components of two names.** -/
theorem isInternalName_append (a b : String) :
    isInternalName (a ++ "." ++ b) = (isInternalName a || isInternalName b) := by
  have joined : (a ++ "." ++ b).toList = a.toList ++ '.' :: b.toList := by
    rw [String.toList_append, String.toList_append, List.append_assoc]
    rfl
  rw [isInternalName, joined, Text.splitOn_append, List.any_append]
  rfl

namespace Declaration

/-- A declaration, called as it is in a namespace. -/
def nested (space : String) (d : Declaration) : Declaration :=
  { d with name := space ++ "." ++ d.name }

theorem isInternal_nested (space : String) (d : Declaration) :
    (d.nested space).isInternal = (isInternalName space || d.isInternal) := by
  rw [isInternal, isInternal, nested, isInternalName_append, Bool.or_left_comm]

/-- A declaration in a namespace is asked for if it is by itself and the namespace is no internal
one. -/
theorem isAsked_nested (space home : String) (d : Declaration) :
    (d.nested space).IsAsked home ↔ isInternalName space = false ∧ d.IsAsked home := by
  rw [isAsked_iff, isAsked_iff, isInternal_nested, Bool.or_eq_false_iff]
  tauto

end Declaration

/-- **Nesting neither hides a name nor makes it internal**, but by the components of the namespace.
A name is internal just when an underscore is its first character or stands right after a dot; two
names with a dot between them are internal just when one of them is; and so a declaration in a
namespace is internal, and is passed over in grading, just when it is by itself or the namespace
is. -/
theorem isInternalName_nested :
    (∀ name, isInternalName name = true ↔ ['_'] <+: name.toList ∨ ['.', '_'] <:+: name.toList) ∧
      (∀ a b, isInternalName (a ++ "." ++ b) = (isInternalName a || isInternalName b)) ∧
      (∀ (space : String) (d : Declaration),
        (d.nested space).isInternal = (isInternalName space || d.isInternal)) ∧
      ∀ (space home : String) (d : Declaration),
        (d.nested space).IsAsked home ↔ isInternalName space = false ∧ d.IsAsked home :=
  ⟨isInternalName_iff, isInternalName_append, Declaration.isInternal_nested,
    Declaration.isAsked_nested⟩

end ProofGrading
