import ProofGrading.Decimal.Binary

/-!
# Json/Basic — JSON values

Objects keep the order of their fields.  Integers and doubles are told apart, but as numbers they
are compared by value (`Json.same`): `1`, `1.0` and `true` are the same, the order of fields is not
looked at.
-/

namespace ProofGrading

/-- A JSON value; integers have any size, the fields of an object an order. -/
inductive Json where
  | null
  | bool (b : Bool)
  | int (n : Int)
  | float (x : Float)
  | str (s : String)
  | arr (items : List Json)
  | obj (fields : List (String × Json))
  deriving Inhabited

namespace Json

/-- The value of the first field called `key`. -/
def field? (fields : List (String × Json)) (key : String) : Option Json :=
  (fields.find? (·.1 == key)).map (·.2)

/-- Puts a field at its key's place, or at the end if the key is new. -/
def setField (fields : List (String × Json)) (key : String) (value : Json) :
    List (String × Json) :=
  match fields with
  | [] => [(key, value)]
  | (k, v) :: rest => if k = key then (key, value) :: rest else (k, v) :: setField rest key value

/-- The number that a value counts as, in normal form: integers, doubles, and the truth values as
one and zero. -/
def number? : Json → Option Decimal.View
  | .bool b => some (.finite (Decimal.Binary.ofInt (if b then 1 else 0)).normal)
  | .int n => some (.finite (Decimal.Binary.ofInt n).normal)
  | .float x =>
    match Decimal.view x with
    | .finite b => some (.finite b.normal)
    | v => some v
  | _ => none

/-- Whether a value is the number that differs from itself. -/
def isNaN (j : Json) : Bool := j.number? == some .nan

mutual
/-- **Sameness of values**: numbers by value, texts and arrays item by item, objects as the same
fields in any order. -/
def same : Json → Json → Bool
  | .null, .null => true
  | .str s, .str t => s == t
  | .arr xs, .arr ys => sameItems xs ys
  | .obj fs, .obj gs => fs.length == gs.length && sameFields fs gs
  | a, b =>
    match a.number?, b.number? with
    | some x, some y => x == y
    | _, _ => false
/-- Two arrays, item by item. -/
def sameItems : List Json → List Json → Bool
  | [], [] => true
  | x :: xs, y :: ys => same x y && sameItems xs ys
  | _, _ => false
/-- Every field of the first object is a field of the second. -/
def sameFields : List (String × Json) → List (String × Json) → Bool
  | [], _ => true
  | (k, x) :: fs, gs =>
    (match field? gs k with
      | some y => same x y
      | none => false) && sameFields fs gs
end

/-- A field that is found is there. -/
theorem mem_of_field? {fields : List (String × Json)} {key : String} {value : Json}
    (h : field? fields key = some value) : (key, value) ∈ fields := by
  obtain ⟨⟨k, v⟩, hf, rfl⟩ := Option.map_eq_some_iff.1 h
  obtain rfl : k = key := by simpa using List.find?_some hf
  exact List.mem_of_find?_eq_some hf

end Json

end ProofGrading
