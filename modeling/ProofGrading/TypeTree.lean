import ProofGrading.Json.Basic

/-!
# TypeTree — exported types up to names of bound variables

Bound variables are indices in an exported type, so the names and the kinds of binders and the
wrappers around annotated terms say nothing about its meaning.  `canonical` removes them; two types
are the same statement when their canonical forms are the same value.

Reading a tree takes frames of a bounded stack: one for a wrapper, two for an array or an object.
`canonical?` gives up on trees that need more than it has, and such types equal nothing
(`equal_eq_false_of_tooDeep`).
-/

namespace ProofGrading.TypeTree

/-- The fields that carry no meaning. -/
def erasedKeys : List String := ["binder", "info"]

/-- Whether an object wraps an annotated term. -/
def isWrapper (fields : List (String × Json)) : Bool :=
  match Json.field? fields "kind" with
  | some (.str s) => s == "mdata"
  | _ => false

mutual
/-- A tree without binder names, binder kinds and wrappers. -/
def canonical : Json → Json
  | .arr items => .arr (canonicalItems items)
  | .obj fields => if isWrapper fields then unwrapped fields else .obj (canonicalFields fields)
  | j => j
/-- The term inside a wrapper, in canonical form; `null` if there is none. -/
def unwrapped : List (String × Json) → Json
  | [] => .null
  | (k, v) :: rest => if k == "expr" then canonical v else unwrapped rest
/-- The items of an array, in canonical form. -/
def canonicalItems : List Json → List Json
  | [] => []
  | x :: rest => canonical x :: canonicalItems rest
/-- The fields that carry meaning, in canonical form. -/
def canonicalFields : List (String × Json) → List (String × Json)
  | [] => []
  | (k, v) :: rest =>
    if erasedKeys.contains k then canonicalFields rest
    else (k, canonical v) :: canonicalFields rest
end

mutual
/-- The canonical form of a tree that needs at most `frames` frames. -/
def canonical? (frames : Nat) : Json → Option Json
  | .arr items =>
    match frames with
    | n + 2 => (canonicalItems? n items).map .arr
    | _ => none
  | .obj fields =>
    if isWrapper fields then
      match frames with
      | n + 1 => unwrapped? n fields
      | 0 => none
    else
      match frames with
      | n + 2 => (canonicalFields? n fields).map .obj
      | _ => none
  | j => if 0 < frames then some j else none
/-- The term inside a wrapper. -/
def unwrapped? (frames : Nat) : List (String × Json) → Option Json
  | [] => if 0 < frames then some .null else none
  | (k, v) :: rest => if k == "expr" then canonical? frames v else unwrapped? frames rest
/-- The items of an array. -/
def canonicalItems? (frames : Nat) : List Json → Option (List Json)
  | [] => some []
  | x :: rest =>
    match canonical? frames x, canonicalItems? frames rest with
    | some y, some ys => some (y :: ys)
    | _, _ => none
/-- The fields that carry meaning. -/
def canonicalFields? (frames : Nat) : List (String × Json) → Option (List (String × Json))
  | [] => some []
  | (k, v) :: rest =>
    if erasedKeys.contains k then canonicalFields? frames rest
    else
      match canonical? frames v, canonicalFields? frames rest with
      | some y, some ys => some ((k, y) :: ys)
      | _, _ => none
end

/-- The frames that are free when types are compared. -/
def frameLimit : Nat := 980

/-- **Whether two types are the same statement.**  A type that was not exported equals nothing, and
so does one that is nested too deeply. -/
def equal (a b : Json) : Bool :=
  match a, b with
  | .null, _ => false
  | _, .null => false
  | a, b =>
    match canonical? frameLimit a, canonical? frameLimit b with
    | some x, some y => x.same y && !x.isNaN
    | _, _ => false

/-- A type that is nested too deeply equals nothing. -/
theorem equal_eq_false_of_tooDeep {a : Json} (b : Json) (h : canonical? frameLimit a = none) :
    equal a b = false := by
  unfold equal
  split <;> simp_all

end ProofGrading.TypeTree
