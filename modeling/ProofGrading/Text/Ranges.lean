/-!
# Text/Ranges — sets of characters as tables

A set of characters is a table of ranges of code points in increasing order, which is searched by
halving.
-/

namespace ProofGrading.Text

/-- Whether a code point lies in one of the ranges `lo … hi - 1` of a sorted table, by halving;
`fuel` bounds the number of halvings. -/
def inRanges (table : Array (Nat × Nat)) (n : Nat) : Nat → Nat → Nat → Bool
  | 0, _, _ => false
  | fuel + 1, lo, hi =>
    if hi ≤ lo then false
    else
      let mid := (lo + hi) / 2
      match table[mid]? with
      | none => false
      | some (first, last) =>
        if n < first then inRanges table n fuel lo mid
        else if last < n then inRanges table n fuel (mid + 1) hi
        else true

/-- Whether a character lies in one of the ranges of a sorted table. -/
def isAmong (table : Array (Nat × Nat)) (c : Char) : Bool :=
  inRanges table c.toNat table.size 0 table.size

end ProofGrading.Text
