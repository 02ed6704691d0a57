import ProofGrading.Proofs.Sameness
import ProofGrading.TypeTree

/-!
# Proofs/TypeComparison — what the comparison of types decides

`Alike` relates two exported types without canonical forms: wrappers on either side are seen
through, and objects are compared in the fields that carry meaning.  Main statements: canonical
forms are the same exactly for trees that are alike (`same_canonical_iff`), the bounded form is the
canonical one for trees that need no more frames than there are (`canonical?_eq`), and so types that
are not nested too deeply are equal when they are the same statement (`equal_iff`).
-/

namespace ProofGrading.TypeTree

open Json (field? mem_of_field?)

/-! ## Canonical forms -/

/-- The term in a wrapper; a wrapper without one holds `null`. -/
def inner (fields : List (String × Json)) : Json := (field? fields "expr").getD .null

/-- The fields that carry meaning. -/
def meaning (fields : List (String × Json)) : List (String × Json) :=
  fields.filter fun f => !erasedKeys.contains f.1

theorem meaning_cons_of_mem {key : String} (h : key ∈ erasedKeys) (value : Json)
    (rest : List (String × Json)) : meaning ((key, value) :: rest) = meaning rest := by
  simp [meaning, h]

theorem meaning_cons_of_notMem {key : String} (h : key ∉ erasedKeys) (value : Json)
    (rest : List (String × Json)) :
    meaning ((key, value) :: rest) = (key, value) :: meaning rest := by
  simp [meaning, h]

theorem notMem_erasedKeys_of_mem_meaning {f : String × Json} {fs : List (String × Json)}
    (h : f ∈ meaning fs) : f.1 ∉ erasedKeys := by
  simpa using (List.mem_filter.1 h).2

theorem mem_of_mem_meaning {f : String × Json} {fs : List (String × Json)} (h : f ∈ meaning fs) :
    f ∈ fs := (List.mem_filter.1 h).1

theorem unwrapped_eq (fields : List (String × Json)) :
    unwrapped fields = canonical (inner fields) := by
  induction fields with
  | nil => rw [unwrapped, inner]; rfl
  | cons f rest ih =>
    obtain ⟨k, v⟩ := f
    by_cases h : k = "expr"
    · simp [unwrapped, inner, field?, h]
    · simpa [unwrapped, inner, field?, h] using ih

theorem canonicalItems_eq (items : List Json) : canonicalItems items = items.map canonical := by
  induction items with
  | nil => rw [canonicalItems, List.map_nil]
  | cons x rest ih => rw [canonicalItems, ih, List.map_cons]

theorem canonicalFields_eq (fields : List (String × Json)) :
    canonicalFields fields = (meaning fields).map fun f => (f.1, canonical f.2) := by
  induction fields with
  | nil => rw [canonicalFields]; rfl
  | cons f rest ih =>
    obtain ⟨k, v⟩ := f
    rw [canonicalFields, ih]
    by_cases h : k ∈ erasedKeys
    · rw [if_pos (List.contains_iff_mem.2 h), meaning_cons_of_mem h]
    · rw [if_neg (mt List.contains_iff_mem.1 h), meaning_cons_of_notMem h, List.map_cons]

theorem canonical_of_isWrapper {fs : List (String × Json)} (h : isWrapper fs = true) :
    canonical (.obj fs) = canonical (inner fs) := by
  rw [canonical, if_pos h, unwrapped_eq]

theorem canonical_obj {fs : List (String × Json)} (h : isWrapper fs = false) :
    canonical (.obj fs) = .obj ((meaning fs).map fun f => (f.1, canonical f.2)) := by
  rw [canonical, h, if_neg Bool.false_ne_true, canonicalFields_eq]

theorem canonical_arr (xs : List Json) : canonical (.arr xs) = .arr (xs.map canonical) := by
  rw [canonical, canonicalItems_eq]

/-- A value without parts. -/
def IsLeaf : Json → Prop
  | .arr _ => False
  | .obj _ => False
  | _ => True

/-- A tree that is no wrapper. -/
def IsBare (t : Json) : Prop := ∀ fs, t = .obj fs → isWrapper fs = false

theorem isLeaf_of_number? {t : Json} {v : Decimal.View} (h : t.number? = some v) : IsLeaf t := by
  cases t with
  | arr => cases h
  | obj => cases h
  | _ => trivial

/-- A leaf is `null`, a text or a number. -/
theorem IsLeaf.cases {t : Json} (h : IsLeaf t) :
    t = .null ∨ (∃ s, t = .str s) ∨ ∃ v, t.number? = some v := by
  cases t with
  | null => exact .inl rfl
  | str s => exact .inr (.inl ⟨s, rfl⟩)
  | bool => exact .inr (.inr ⟨_, rfl⟩)
  | int => exact .inr (.inr ⟨_, rfl⟩)
  | float x =>
    rw [Json.number?]
    split <;> exact .inr (.inr ⟨_, rfl⟩)
  | arr => exact h.elim
  | obj => exact h.elim

theorem canonical_of_isLeaf {t : Json} (h : IsLeaf t) : canonical t = t := by
  cases t with
  | arr => exact h.elim
  | obj => exact h.elim
  | _ => simp [canonical]

/-- Only a leaf and what wraps one come to a leaf. -/
theorem canonical_eq_self {t : Json} (hb : IsBare t) (h : IsLeaf (canonical t)) :
    canonical t = t := by
  cases t with
  | arr xs => rw [canonical_arr] at h; exact h.elim
  | obj fs => rw [canonical_obj (hb fs rfl)] at h; exact h.elim
  | _ => exact canonical_of_isLeaf trivial

theorem canonical_eq_arr {t : Json} (hb : IsBare t) {zs : List Json} (h : canonical t = .arr zs) :
    ∃ ys, t = .arr ys ∧ zs = ys.map canonical := by
  cases t with
  | arr ys => exact ⟨ys, rfl, by rw [canonical_arr] at h; exact (Json.arr.inj h).symm⟩
  | obj fs => rw [canonical_obj (hb fs rfl)] at h; cases h
  | _ => simp [canonical] at h

theorem canonical_eq_obj {t : Json} (hb : IsBare t) {hs : List (String × Json)}
    (h : canonical t = .obj hs) :
    ∃ gs, t = .obj gs ∧ isWrapper gs = false ∧
      hs = (meaning gs).map fun f => (f.1, canonical f.2) := by
  cases t with
  | arr ys => rw [canonical_arr] at h; cases h
  | obj gs =>
    have w := hb gs rfl
    exact ⟨gs, rfl, w, by rw [canonical_obj w] at h; exact (Json.obj.inj h).symm⟩
  | _ => simp [canonical] at h

theorem field?_cons_self (key : String) (value : Json) (rest : List (String × Json)) :
    field? ((key, value) :: rest) key = some value := by
  simp [field?]

theorem field?_cons_ne {k key : String} (h : k ≠ key) (value : Json)
    (rest : List (String × Json)) : field? ((k, value) :: rest) key = field? rest key := by
  simp [field?, h]

/-- **The canonical form of an object has the canonical forms of its meaningful fields.** -/
theorem field?_map_meaning {gs : List (String × Json)} {key : String} (h : key ∉ erasedKeys) :
    field? ((meaning gs).map fun f => (f.1, canonical f.2)) key =
      (field? gs key).map canonical := by
  induction gs with
  | nil => rfl
  | cons g rest ih =>
    obtain ⟨k, v⟩ := g
    by_cases hk : k = key
    · subst hk
      rw [meaning_cons_of_notMem h, List.map_cons, field?_cons_self, field?_cons_self,
        Option.map_some]
    · rw [field?_cons_ne hk, ← ih]
      by_cases he : k ∈ erasedKeys
      · rw [meaning_cons_of_mem he]
      · rw [meaning_cons_of_notMem he, List.map_cons, field?_cons_ne hk]

/-! ## The same statement -/

/-- **Two trees are alike up to binder names, binder kinds and wrappers.**  A key stands in an
object once, so objects with as many meaningful fields, each of the first being one of the second,
have the same ones. -/
inductive Alike : Json → Json → Prop where
  | wrapperLeft {fs : List (String × Json)} {b : Json} (wrapper : isWrapper fs = true)
      (h : Alike (inner fs) b) : Alike (.obj fs) b
  | wrapperRight {a : Json} {gs : List (String × Json)} (wrapper : isWrapper gs = true)
      (h : Alike a (inner gs)) : Alike a (.obj gs)
  | null : Alike .null .null
  | str (s : String) : Alike (.str s) (.str s)
  | number {a b : Json} {v : Decimal.View} (ha : a.number? = some v) (hb : b.number? = some v) :
      Alike a b
  | arr {xs ys : List Json} (length_eq : xs.length = ys.length)
      (h : ∀ i (hx : i < xs.length) (hy : i < ys.length), Alike xs[i] ys[i]) :
      Alike (.arr xs) (.arr ys)
  | obj {fs gs : List (String × Json)} (left : isWrapper fs = false) (right : isWrapper gs = false)
      (length_eq : (meaning fs).length = (meaning gs).length)
      (found : ∀ f ∈ meaning fs, (field? gs f.1).isSome)
      (h : ∀ f ∈ meaning fs, ∀ y, field? gs f.1 = some y → Alike f.2 y) :
      Alike (.obj fs) (.obj gs)

/-- **Trees that are alike have the same canonical form.** -/
theorem Alike.same_canonical {a b : Json} (h : Alike a b) :
    (canonical a).same (canonical b) = true := by
  induction h with
  | wrapperLeft w _ ih =>
    rw [canonical_of_isWrapper w]
    exact ih
  | wrapperRight w _ ih =>
    rw [canonical_of_isWrapper w]
    exact ih
  | null => simp [canonical, Json.same]
  | str s => simp [canonical, Json.same]
  | number ha hb =>
    rw [canonical_of_isLeaf (isLeaf_of_number? ha), canonical_of_isLeaf (isLeaf_of_number? hb)]
    exact (Json.same_iff_of_number? ha).2 hb
  | arr hlen _ ih =>
    rw [canonical_arr, canonical_arr, Json.same_arr_iff]
    refine ⟨_, rfl, Json.sameItems_iff_forall₂.2 ?_⟩
    rw [List.forall₂_map_left_iff, List.forall₂_map_right_iff, List.forall₂_iff_get]
    exact ⟨hlen, ih⟩
  | obj hf hg hlen hfound _ ih =>
    rw [canonical_obj hf, canonical_obj hg, Json.same_obj_iff]
    refine ⟨_, rfl, by rw [List.length_map, List.length_map, hlen], Json.sameFields_iff.2 ?_⟩
    intro f hmem
    obtain ⟨f, hm, rfl⟩ := List.mem_map.1 hmem
    obtain ⟨y, hy⟩ := Option.isSome_iff_exists.1 (hfound f hm)
    refine ⟨canonical y, ?_, ih f hm y hy⟩
    rw [field?_map_meaning (notMem_erasedKeys_of_mem_meaning hm), hy, Option.map_some]

theorem sizeOf_item_lt {x : Json} {xs : List Json} (h : x ∈ xs) :
    sizeOf x < sizeOf (Json.arr xs) := by
  have := List.sizeOf_lt_of_mem h
  simp only [Json.arr.sizeOf_spec]
  omega

theorem sizeOf_field_lt {f : String × Json} {fs : List (String × Json)} (h : f ∈ fs) :
    sizeOf f.2 < sizeOf (Json.obj fs) := by
  have := List.sizeOf_lt_of_mem h
  obtain ⟨k, x⟩ := f
  simp only [Prod.mk.sizeOf_spec, Json.obj.sizeOf_spec] at this ⊢
  omega

theorem sizeOf_inner_lt (fs : List (String × Json)) : sizeOf (inner fs) < sizeOf (Json.obj fs) := by
  unfold inner
  cases h : field? fs "expr" with
  | none =>
    have : 0 < sizeOf fs := by cases fs <;> simp +arith
    simp only [Option.getD_none, Json.null.sizeOf_spec, Json.obj.sizeOf_spec]
    omega
  | some x => exact sizeOf_field_lt (mem_of_field? h)

/-- A leaf is alike what comes to the same leaf. -/
theorem alike_of_same_leaf {a b : Json} (ha : IsLeaf a) (hb : IsBare b)
    (h : a.same (canonical b) = true) : Alike a b := by
  obtain rfl | ⟨s, rfl⟩ | ⟨v, hv⟩ := ha.cases
  · have hc := Json.same_null_iff.1 h
    obtain rfl : b = .null := (canonical_eq_self hb (hc ▸ trivial)).symm.trans hc
    exact .null
  · have hc := Json.same_str_iff.1 h
    obtain rfl : b = .str s := (canonical_eq_self hb (hc ▸ trivial)).symm.trans hc
    exact .str s
  · have hb' := (Json.same_iff_of_number? hv).1 h
    rw [canonical_eq_self hb (isLeaf_of_number? hb')] at hb'
    exact .number hv hb'

/-- **Trees with the same canonical form are alike**, by induction on the sizes of both: a wrapper
on either side is taken off first. -/
theorem alike_of_same_canonical (a b : Json) (h : (canonical a).same (canonical b) = true) :
    Alike a b := by
  by_cases ha : ∃ fs, a = .obj fs ∧ isWrapper fs = true
  · obtain ⟨fs, rfl, w⟩ := ha
    have := sizeOf_inner_lt fs
    rw [canonical_of_isWrapper w] at h
    exact .wrapperLeft w (alike_of_same_canonical (inner fs) b h)
  by_cases hb : ∃ gs, b = .obj gs ∧ isWrapper gs = true
  · obtain ⟨gs, rfl, w⟩ := hb
    have := sizeOf_inner_lt gs
    rw [canonical_of_isWrapper w] at h
    exact .wrapperRight w (alike_of_same_canonical a (inner gs) h)
  have ha : IsBare a := fun fs hf => by simpa using fun w => ha ⟨fs, hf, w⟩
  have hb : IsBare b := fun gs hg => by simpa using fun w => hb ⟨gs, hg, w⟩
  cases a with
  | arr xs =>
    rw [canonical_arr] at h
    obtain ⟨zs, hz, hitems⟩ := Json.same_arr_iff.1 h
    obtain ⟨ys, rfl, rfl⟩ := canonical_eq_arr hb hz
    rw [Json.sameItems_iff_forall₂, List.forall₂_map_left_iff, List.forall₂_map_right_iff,
      List.forall₂_iff_get] at hitems
    refine .arr hitems.1 fun i hx hy => ?_
    have := sizeOf_item_lt (List.getElem_mem hx)
    have := sizeOf_item_lt (List.getElem_mem hy)
    exact alike_of_same_canonical xs[i] ys[i] (hitems.2 i hx hy)
  | obj fs =>
    have w := ha fs rfl
    rw [canonical_obj w] at h
    obtain ⟨hs, hh, hlen, hfields⟩ := Json.same_obj_iff.1 h
    obtain ⟨gs, rfl, w', rfl⟩ := canonical_eq_obj hb hh
    have found : ∀ f ∈ meaning fs, ∃ y, field? gs f.1 = some y ∧
        (canonical f.2).same (canonical y) = true := by
      intro f hf
      obtain ⟨z, hz, hsame⟩ := Json.sameFields_iff.1 hfields _ (List.mem_map_of_mem hf)
      rw [field?_map_meaning (notMem_erasedKeys_of_mem_meaning hf)] at hz
      obtain ⟨y, hy, rfl⟩ := Option.map_eq_some_iff.1 hz
      exact ⟨y, hy, hsame⟩
    refine .obj w w' (by simpa using hlen)
      (fun f hf => Option.isSome_iff_exists.2 ((found f hf).imp fun _ => And.left))
      fun f hf y hy => ?_
    obtain ⟨z, hz, hsame⟩ := found f hf
    obtain rfl : y = z := Option.some.inj (hy.symm.trans hz)
    have := sizeOf_field_lt (mem_of_mem_meaning hf)
    have : sizeOf y < sizeOf (Json.obj gs) := sizeOf_field_lt (mem_of_field? hy)
    exact alike_of_same_canonical f.2 y hsame
  | _ => exact alike_of_same_leaf trivial hb (by simpa [canonical] using h)
termination_by sizeOf a + sizeOf b

/-- **Canonical forms are the same exactly for trees that are alike.** -/
theorem same_canonical_iff {a b : Json} :
    (canonical a).same (canonical b) = true ↔ Alike a b :=
  ⟨alike_of_same_canonical a b, Alike.same_canonical⟩

/-- A tree is a term in wrappers, or without any. -/
inductive Wraps (term : Json) : Json → Prop where
  | bare : Wraps term term
  | wrapper {fs : List (String × Json)} (wrapper : isWrapper fs = true)
      (h : Wraps term (inner fs)) : Wraps term (.obj fs)

/-- **Two types are the same statement** when they are alike and are no bare number that differs
from itself. -/
def SameStatement (a b : Json) : Prop := Alike a b ∧ ¬∃ x, x.isNaN = true ∧ Wraps x a

/-! ## The frames that a tree needs -/

mutual
/-- How many frames reading a tree takes. -/
def frames : Json → Nat
  | .arr items => framesOfItems items + 2
  | .obj fields =>
    if isWrapper fields then framesOfInner fields + 1 else framesOfFields fields + 2
  | _ => 1
/-- The frames for the term in a wrapper. -/
def framesOfInner : List (String × Json) → Nat
  | [] => 1
  | (k, v) :: rest => if k == "expr" then frames v else framesOfInner rest
/-- The frames for the item that needs most. -/
def framesOfItems : List Json → Nat
  | [] => 0
  | x :: rest => max (frames x) (framesOfItems rest)
/-- The frames for the meaningful field that needs most. -/
def framesOfFields : List (String × Json) → Nat
  | [] => 0
  | (k, v) :: rest =>
    if erasedKeys.contains k then framesOfFields rest else max (frames v) (framesOfFields rest)
end

theorem frames_obj {fs : List (String × Json)} (h : isWrapper fs = false) :
    frames (.obj fs) = framesOfFields fs + 2 := by
  rw [frames, h, if_neg Bool.false_ne_true]

/-- No field that carries meaning needs more than its object. -/
theorem frames_le_framesOfFields {f : String × Json} {fs : List (String × Json)}
    (h : f ∈ meaning fs) : frames f.2 ≤ framesOfFields fs := by
  induction fs with
  | nil => cases h
  | cons g rest ih =>
    obtain ⟨k, v⟩ := g
    rw [framesOfFields]
    by_cases erased : k ∈ erasedKeys
    · rw [if_pos (List.contains_iff_mem.2 erased)]
      exact ih (meaning_cons_of_mem erased v rest ▸ h)
    · rw [if_neg (mt List.contains_iff_mem.1 erased)]
      rw [meaning_cons_of_notMem erased] at h
      obtain rfl | h := List.mem_cons.1 h
      · exact Nat.le_max_left ..
      · exact Nat.le_trans (ih h) (Nat.le_max_right ..)

/-- A type that is not nested too deeply to be read. -/
def Shallow (t : Json) : Prop := frames t ≤ frameLimit

instance (t : Json) : Decidable (Shallow t) := inferInstanceAs (Decidable (frames t ≤ frameLimit))

mutual
/-- **With the frames that a tree needs its canonical form is found, with fewer it is not.** -/
theorem canonical?_eq : ∀ (t : Json) (n : Nat),
    canonical? n t = if frames t ≤ n then some (canonical t) else none
  | .arr items, n => by
    rw [canonical?.eq_def, frames, canonical]
    match n with
    | 0 => simp
    | 1 => simp
    | n + 2 =>
      simp only [canonicalItems?_eq items n, Nat.add_le_add_iff_right]
      split <;> rfl
  | .obj fields, n => by
    rw [canonical?.eq_def, frames, canonical]
    by_cases w : isWrapper fields = true
    · simp only [w, if_true]
      match n with
      | 0 => simp
      | n + 1 => simp only [unwrapped?_eq fields n, Nat.add_le_add_iff_right]
    · simp only [w, if_false, Bool.false_eq_true]
      match n with
      | 0 => simp
      | 1 => simp
      | n + 2 =>
        simp only [canonicalFields?_eq fields n, Nat.add_le_add_iff_right]
        split <;> rfl
  | .null, n => by simp [canonical?, frames, canonical, Nat.succ_le_iff]
  | .bool b, n => by simp [canonical?, frames, canonical, Nat.succ_le_iff]
  | .int m, n => by simp [canonical?, frames, canonical, Nat.succ_le_iff]
  | .float x, n => by simp [canonical?, frames, canonical, Nat.succ_le_iff]
  | .str s, n => by simp [canonical?, frames, canonical, Nat.succ_le_iff]
theorem unwrapped?_eq : ∀ (fields : List (String × Json)) (n : Nat),
    unwrapped? n fields = if framesOfInner fields ≤ n then some (unwrapped fields) else none
  | [], n => by simp [unwrapped?, framesOfInner, unwrapped, Nat.succ_le_iff]
  | (k, v) :: rest, n => by
    rw [unwrapped?, framesOfInner, unwrapped]
    split
    · exact canonical?_eq v n
    · exact unwrapped?_eq rest n
theorem canonicalItems?_eq : ∀ (items : List Json) (n : Nat),
    canonicalItems? n items = if framesOfItems items ≤ n then some (canonicalItems items) else none
  | [], n => by simp [canonicalItems?, framesOfItems, canonicalItems]
  | x :: rest, n => by
    rw [canonicalItems?, canonical?_eq x n, canonicalItems?_eq rest n, framesOfItems,
      canonicalItems]
    by_cases hx : frames x ≤ n <;> by_cases hr : framesOfItems rest ≤ n <;>
      simp only [Nat.max_le, hx, hr, and_self, and_true, and_false, reduceIte]
theorem canonicalFields?_eq : ∀ (fields : List (String × Json)) (n : Nat),
    canonicalFields? n fields =
      if framesOfFields fields ≤ n then some (canonicalFields fields) else none
  | [], n => by simp [canonicalFields?, framesOfFields, canonicalFields]
  | (k, v) :: rest, n => by
    rw [canonicalFields?, framesOfFields, canonicalFields]
    split
    · exact canonicalFields?_eq rest n
    · rw [canonical?_eq v n, canonicalFields?_eq rest n]
      by_cases hv : frames v ≤ n <;> by_cases hr : framesOfFields rest ≤ n <;>
        simp only [Nat.max_le, hv, hr, and_self, and_true, and_false, reduceIte]
end

/-! ## Equal types -/

theorem isNaN_iff {j : Json} : j.isNaN = true ↔ j.number? = some .nan := beq_iff_eq

/-- What a wrapped number comes to is that number. -/
theorem Wraps.canonical_eq {x t : Json} (h : Wraps x t) (hx : IsLeaf x) : canonical t = x := by
  induction h with
  | bare => exact canonical_of_isLeaf hx
  | wrapper w _ ih => rw [canonical_of_isWrapper w, ih]

/-- A tree that comes to a leaf wraps it. -/
theorem wraps_of_canonical_eq (t : Json) {x : Json} (hx : IsLeaf x) (h : canonical t = x) :
    Wraps x t := by
  by_cases ht : ∃ fs, t = .obj fs ∧ isWrapper fs = true
  · obtain ⟨fs, rfl, w⟩ := ht
    have := sizeOf_inner_lt fs
    rw [canonical_of_isWrapper w] at h
    exact .wrapper w (wraps_of_canonical_eq (inner fs) hx h)
  · have hb : IsBare t := fun fs hf => by simpa using fun w => ht ⟨fs, hf, w⟩
    obtain rfl : t = x := (canonical_eq_self hb (h ▸ hx)).symm.trans h
    exact .bare
termination_by sizeOf t

/-- A tree comes to a number that differs from itself when it wraps one. -/
theorem isNaN_canonical_iff {t : Json} :
    (canonical t).isNaN = true ↔ ∃ x, x.isNaN = true ∧ Wraps x t := by
  constructor
  · intro h
    exact ⟨canonical t, h, wraps_of_canonical_eq t (isLeaf_of_number? (isNaN_iff.1 h)) rfl⟩
  · rintro ⟨x, hx, hw⟩
    rwa [hw.canonical_eq (isLeaf_of_number? (isNaN_iff.1 hx))]

/-- **When types are equal**: both are there and not nested too deeply, and their canonical forms
are the same value. -/
theorem equal_eq_true_iff {a b : Json} :
    equal a b = true ↔
      (Shallow a ∧ Shallow b) ∧ a ≠ .null ∧ b ≠ .null ∧ (canonical a).same (canonical b) = true ∧
        ¬(canonical a).isNaN = true := by
  unfold equal
  split
  · simp
  · simp
  · next hna hnb =>
    have hna : a ≠ .null := hna
    have hnb : b ≠ .null := hnb
    rw [canonical?_eq, canonical?_eq]
    unfold Shallow
    by_cases ha : frames a ≤ frameLimit <;> by_cases hb : frames b ≤ frameLimit <;>
      simp [ha, hb, hna, hnb]

/-- Types that are not nested too deeply are equal when both are there and their canonical forms are
the same value. -/
theorem equal_iff_same_canonical {a b : Json} (ha : Shallow a) (hb : Shallow b) :
    equal a b = true ↔
      a ≠ .null ∧ b ≠ .null ∧ (canonical a).same (canonical b) = true ∧
        ¬(canonical a).isNaN = true :=
  equal_eq_true_iff.trans (and_iff_right ⟨ha, hb⟩)

/-- **Types that are not nested too deeply are equal when both are there and are the same
statement.** -/
theorem equal_iff {a b : Json} (ha : Shallow a) (hb : Shallow b) :
    equal a b = true ↔ a ≠ .null ∧ b ≠ .null ∧ SameStatement a b := by
  rw [equal_iff_same_canonical ha hb, same_canonical_iff, isNaN_canonical_iff, SameStatement]

end ProofGrading.TypeTree
