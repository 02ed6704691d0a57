import ProofGrading.Proofs.Expression

/-!
# Proofs/NormalForm — canonical forms are normal forms

An object whose kind were an object itself could come to a wrapper: `{"kind": {"kind": "mdata",
"expr": "mdata"}}` has the kind `mdata` when its own wrapper is taken off.  Where no object has an
object as its kind, a rebuilt object is a wrapper only if it was one (`isWrapper_canonical`).  Then
no wrapper, no binder name and no binder kind is left at any depth (`isNormal_canonical`), what is
in normal form is its own canonical form (`canonical_of_isNormal`), and wrappers that are put around
terms and other names of binders change nothing (`canonical_of_redecorates`).

A canonical form needs no more frames than the tree (`frames_canonical_le`), so all of this holds of
the bounded form as long as the trees can be read (`canonical_normalises`); with many wrappers
around it a tree cannot be read any more (`Expression.wrapped_too_deep`).
-/

namespace ProofGrading

namespace Json

/-- **A value stands in another one**, at any depth, or is the value itself. -/
inductive Inside (x : Json) : Json → Prop where
  | here : Inside x x
  | item {y : Json} {items : List Json} (among : y ∈ items) (h : Inside x y) :
      Inside x (.arr items)
  | field {f : String × Json} {fields : List (String × Json)} (among : f ∈ fields)
      (h : Inside x f.2) : Inside x (.obj fields)

end Json

namespace TypeTree

open Json (field? mem_of_field?)

variable {t t' : Json} {xs : List Json} {fs gs : List (String × Json)}

/-! ## Kinds -/

/-- **No object has an object as its kind.** -/
def HasPlainKinds (t : Json) : Prop :=
  ∀ fields, Json.Inside (.obj fields) t → ∀ parts, field? fields "kind" ≠ some (.obj parts)

theorem hasPlainKinds_of_isLeaf (h : IsLeaf t) : HasPlainKinds t := by
  rintro fields (- | - | -) <;> exact h.elim

theorem hasPlainKinds_arr_iff : HasPlainKinds (.arr xs) ↔ ∀ x ∈ xs, HasPlainKinds x := by
  constructor
  · exact fun h x among fields inside => h fields (.item among inside)
  · rintro h fields (- | ⟨among, inside⟩ | -)
    exact h _ among fields inside

theorem hasPlainKinds_obj_iff :
    HasPlainKinds (.obj fs) ↔
      (∀ parts, field? fs "kind" ≠ some (.obj parts)) ∧ ∀ f ∈ fs, HasPlainKinds f.2 := by
  constructor
  · exact fun h => ⟨h fs .here, fun f among fields inside => h fields (.field among inside)⟩
  · rintro ⟨kind, parts⟩ fields (- | - | ⟨among, inside⟩)
    · exact kind
    · exact parts _ among fields inside

theorem HasPlainKinds.inner (h : HasPlainKinds (.obj fs)) : HasPlainKinds (inner fs) := by
  unfold TypeTree.inner
  cases found : field? fs "expr" with
  | none => exact hasPlainKinds_of_isLeaf trivial
  | some v => exact (hasPlainKinds_obj_iff.1 h).2 _ (mem_of_field? found)

/-! ## Normal forms -/

/-- **A tree in normal form**: no object in it is a wrapper or names or describes a binder. -/
def IsNormal (t : Json) : Prop :=
  ∀ fields, Json.Inside (.obj fields) t →
    isWrapper fields = false ∧ ∀ f ∈ fields, f.1 ∉ erasedKeys

/-- What holds of leaves, and of wrappers, arrays and objects if it holds of what they come from,
holds of all trees. -/
theorem reading_induction {P : Json → Prop} (leaf : ∀ t, IsLeaf t → P t)
    (arr : ∀ xs, (∀ x ∈ xs, P x) → P (.arr xs))
    (wrapper : ∀ fs, isWrapper fs = true → P (inner fs) → P (.obj fs))
    (node : ∀ fs, isWrapper fs = false → (∀ f ∈ meaning fs, P f.2) → P (.obj fs)) (t : Json) :
    P t := by
  match t with
  | .arr xs =>
    refine arr xs fun x among => ?_
    have smaller := sizeOf_item_lt among
    exact reading_induction leaf arr wrapper node x
  | .obj fs =>
    cases w : isWrapper fs with
    | true =>
      have smaller := sizeOf_inner_lt fs
      exact wrapper fs w (reading_induction leaf arr wrapper node (inner fs))
    | false =>
      refine node fs w fun f among => ?_
      have smaller := sizeOf_field_lt (mem_of_mem_meaning among)
      exact reading_induction leaf arr wrapper node f.2
  | .null => exact leaf _ trivial
  | .bool _ => exact leaf _ trivial
  | .int _ => exact leaf _ trivial
  | .float _ => exact leaf _ trivial
  | .str _ => exact leaf _ trivial
termination_by sizeOf t
decreasing_by all_goals exact smaller

/-- **A rebuilt object is no wrapper if it was none**, since its kind stays what it was. -/
theorem isWrapper_canonical (kind : ∀ parts, field? fs "kind" ≠ some (.obj parts))
    (w : isWrapper fs = false) :
    isWrapper ((meaning fs).map fun f => (f.1, canonical f.2)) = false := by
  unfold isWrapper at w ⊢
  rw [field?_map_meaning (by decide)]
  cases found : field? fs "kind" with
  | none => rfl
  | some v =>
    rw [found] at w
    cases v with
    | obj parts => exact absurd found (kind parts)
    | arr items => rw [Option.map_some, canonical_arr]
    | str kind => rwa [Option.map_some, canonical_of_isLeaf (t := .str kind) trivial]
    | _ => simp [canonical]

/-- **Canonical forms are in normal form.** -/
theorem isNormal_canonical (t : Json) (h : HasPlainKinds t) : IsNormal (canonical t) := by
  induction t using reading_induction with
  | leaf t leaf =>
    rw [canonical_of_isLeaf leaf]
    rintro fields (- | - | -) <;> exact leaf.elim
  | arr xs ih =>
    rw [canonical_arr]
    rintro fields (- | ⟨among, inside⟩ | -)
    obtain ⟨x, hx, rfl⟩ := List.mem_map.1 among
    exact ih x hx (hasPlainKinds_arr_iff.1 h x hx) fields inside
  | wrapper fs w ih =>
    rw [canonical_of_isWrapper w]
    exact ih h.inner
  | node fs w ih =>
    obtain ⟨kind, parts⟩ := hasPlainKinds_obj_iff.1 h
    rw [canonical_obj w]
    rintro fields (- | - | ⟨among, inside⟩)
    · refine ⟨isWrapper_canonical kind w, fun f among => ?_⟩
      obtain ⟨g, hg, rfl⟩ := List.mem_map.1 among
      exact (notMem_erasedKeys_of_mem_meaning hg : g.1 ∉ erasedKeys)
    · obtain ⟨g, hg, rfl⟩ := List.mem_map.1 among
      exact ih g hg (parts g (mem_of_mem_meaning hg)) fields inside

/-- **What is in normal form is its own canonical form.** -/
theorem canonical_of_isNormal (t : Json) (h : IsNormal t) : canonical t = t := by
  induction t using reading_induction with
  | leaf t leaf => exact canonical_of_isLeaf leaf
  | arr xs ih =>
    rw [canonical_arr, List.map_congr_left fun x among =>
      ih x among fun fields inside => h fields (.item among inside), List.map_id']
  | wrapper fs w => exact absurd w (by rw [(h fs .here).1]; exact Bool.false_ne_true)
  | node fs w ih =>
    have whole : meaning fs = fs :=
      List.filter_eq_self.2 fun f among => by simpa using (h fs .here).2 f among
    have same : ∀ f ∈ fs, (f.1, canonical f.2) = f := fun f among =>
      Prod.ext rfl (ih f (whole.symm ▸ among) fun fields inside => h fields (.field among inside))
    rw [canonical_obj w, whole, List.map_congr_left same, List.map_id']

/-! ## Decoration -/

/-- **A tree is decorated anew**: any term is put into wrappers, with whatever else they hold,
unless it is the kind of an object, and names and kinds of binders are changed. -/
inductive Redecorates : Json → Json → Prop where
  | leaf {t : Json} (leaf : IsLeaf t) : Redecorates t t
  | arr {xs ys : List Json} (length_eq : xs.length = ys.length)
      (h : ∀ i (hx : i < xs.length) (hy : i < ys.length), Redecorates xs[i] ys[i]) :
      Redecorates (.arr xs) (.arr ys)
  | obj {fs gs : List (String × Json)} (length_eq : fs.length = gs.length)
      (keys : ∀ i (hf : i < fs.length) (hg : i < gs.length), fs[i].1 = gs[i].1)
      (kind : ∀ parts, field? gs "kind" = some (.obj parts) →
        ∃ parts', field? fs "kind" = some (.obj parts'))
      (h : ∀ i (hf : i < fs.length) (hg : i < gs.length), fs[i].1 ∉ erasedKeys →
        Redecorates fs[i].2 gs[i].2) :
      Redecorates (.obj fs) (.obj gs)
  | wrap {t t' : Json} {fs : List (String × Json)} (wrapper : isWrapper fs = true)
      (inner : field? fs "expr" = some t') (h : Redecorates t t') : Redecorates t (.obj fs)

/-- A tree may stay as it is. -/
theorem Redecorates.refl (t : Json) : Redecorates t t := by
  match t with
  | .arr xs =>
    refine .arr rfl fun i hx _ => ?_
    have smaller := sizeOf_item_lt (List.getElem_mem hx)
    exact refl xs[i]
  | .obj fs =>
    refine .obj rfl (fun _ _ _ => rfl) (fun parts found => ⟨parts, found⟩) fun i hf _ _ => ?_
    have smaller := sizeOf_field_lt (List.getElem_mem hf)
    exact refl fs[i].2
  | .null => exact .leaf trivial
  | .bool _ => exact .leaf trivial
  | .int _ => exact .leaf trivial
  | .float _ => exact .leaf trivial
  | .str _ => exact .leaf trivial
termination_by sizeOf t
decreasing_by all_goals exact smaller

/-- Fields with the same keys, those that carry meaning being related. -/
def FieldsMatch (R : Json → Json → Prop) (fs gs : List (String × Json)) : Prop :=
  List.Forall₂ (fun f g => f.1 = g.1 ∧ (f.1 ∉ erasedKeys → R f.2 g.2)) fs gs

/-- What a key that carries meaning leads to is related. -/
theorem FieldsMatch.found {R : Json → Json → Prop} (h : FieldsMatch R fs gs) (key : String)
    (hkey : key ∉ erasedKeys) : Option.Rel R (field? fs key) (field? gs key) := by
  induction h with
  | nil => exact .none
  | @cons f g fs gs same _ ih =>
    obtain ⟨k, v⟩ := f
    obtain ⟨k', v'⟩ := g
    obtain ⟨rfl, related⟩ := same
    by_cases hk : k = key
    · subst hk
      rw [field?_cons_self, field?_cons_self]
      exact .some (related hkey)
    · rwa [field?_cons_ne hk, field?_cons_ne hk]

theorem FieldsMatch.map_meaning (h : FieldsMatch (fun x y => canonical y = canonical x) fs gs) :
    (meaning gs).map (fun f => (f.1, canonical f.2)) =
      (meaning fs).map fun f => (f.1, canonical f.2) := by
  induction h with
  | nil => rfl
  | @cons f g fs gs same _ ih =>
    obtain ⟨k, v⟩ := f
    obtain ⟨k', v'⟩ := g
    obtain ⟨rfl, related⟩ := same
    by_cases hk : k ∈ erasedKeys
    · rwa [meaning_cons_of_mem hk, meaning_cons_of_mem hk]
    · rw [meaning_cons_of_notMem hk, meaning_cons_of_notMem hk, List.map_cons, List.map_cons, ih]
      exact congrArg (fun x => (k, x) :: _) (related hk)

/-- Decoration makes no object a wrapper, and leaves no wrapper behind. -/
theorem FieldsMatch.isWrapper_eq (h : FieldsMatch Redecorates fs gs)
    (kind : ∀ parts, field? gs "kind" ≠ some (.obj parts)) : isWrapper gs = isWrapper fs := by
  unfold isWrapper
  have related := h.found "kind" (by decide)
  generalize field? fs "kind" = a at related
  generalize hb : field? gs "kind" = b at related
  cases related with
  | none => rfl
  | some related =>
    cases related with
    | leaf => rfl
    | arr => rfl
    | obj => exact absurd hb (kind _)
    | wrap => exact absurd hb (kind _)

/-- **Decoration does not change the canonical form.** -/
theorem canonical_of_redecorates (h : Redecorates t t') (plain : HasPlainKinds t) :
    canonical t' = canonical t := by
  induction h with
  | leaf => rfl
  | arr length_eq _ ih =>
    rw [hasPlainKinds_arr_iff] at plain
    rw [canonical_arr, canonical_arr]
    refine congrArg Json.arr (List.ext_getElem (by simp [length_eq]) fun i hy hx => ?_)
    rw [List.getElem_map, List.getElem_map]
    exact ih i _ _ (plain _ (List.getElem_mem _))
  | @obj fs gs length_eq keys kind h ih =>
    obtain ⟨plain_kind, plain_parts⟩ := hasPlainKinds_obj_iff.1 plain
    have decorated : FieldsMatch Redecorates fs gs :=
      List.forall₂_iff_get.2 ⟨length_eq, fun i hf hg => ⟨keys i hf hg, h i hf hg⟩⟩
    have same : FieldsMatch (fun x y => canonical y = canonical x) fs gs :=
      List.forall₂_iff_get.2 ⟨length_eq, fun i hf hg => ⟨keys i hf hg, fun kept =>
        ih i hf hg kept (plain_parts _ (List.getElem_mem _))⟩⟩
    have wrapper_eq : isWrapper gs = isWrapper fs := decorated.isWrapper_eq fun parts found =>
      let ⟨parts', found'⟩ := kind parts found
      plain_kind parts' found'
    cases w : isWrapper fs with
    | true =>
      rw [canonical_of_isWrapper (wrapper_eq.trans w), canonical_of_isWrapper w, inner, inner]
      have related := same.found "expr" (by decide)
      generalize field? fs "expr" = a at related
      generalize field? gs "expr" = b at related
      cases related with
      | none => rfl
      | some same => exact same
    | false =>
      rw [canonical_obj (wrapper_eq.trans w), canonical_obj w, same.map_meaning]
  | wrap wrapper found _ ih =>
    rw [canonical_of_isWrapper wrapper, inner, found, Option.getD_some]
    exact ih plain

/-! ## The frames for a canonical form -/

theorem framesOfItems_le_iff {n : Nat} : framesOfItems xs ≤ n ↔ ∀ x ∈ xs, frames x ≤ n := by
  induction xs with
  | nil => simp [framesOfItems]
  | cons x rest ih => rw [framesOfItems, Nat.max_le, ih, List.forall_mem_cons]

theorem framesOfFields_le_iff {n : Nat} :
    framesOfFields fs ≤ n ↔ ∀ f ∈ meaning fs, frames f.2 ≤ n := by
  induction fs with
  | nil => simp [framesOfFields, meaning]
  | cons f rest ih =>
    obtain ⟨k, v⟩ := f
    rw [framesOfFields]
    by_cases erased : k ∈ erasedKeys
    · rw [if_pos (List.contains_iff_mem.2 erased), meaning_cons_of_mem erased, ih]
    · rw [if_neg (mt List.contains_iff_mem.1 erased), meaning_cons_of_notMem erased, Nat.max_le, ih,
        List.forall_mem_cons]

theorem framesOfInner_eq : framesOfInner fs = frames (inner fs) := by
  induction fs with
  | nil => rw [framesOfInner, inner]; rfl
  | cons f rest ih =>
    obtain ⟨k, v⟩ := f
    by_cases h : k = "expr"
    · simp [framesOfInner, inner, field?, h]
    · simpa [framesOfInner, inner, field?, h] using ih

/-- **A canonical form needs no more frames than the tree.** -/
theorem frames_canonical_le (t : Json) (h : HasPlainKinds t) : frames (canonical t) ≤ frames t := by
  induction t using reading_induction with
  | leaf t leaf => exact Nat.le_of_eq (congrArg frames (canonical_of_isLeaf leaf))
  | arr xs ih =>
    rw [hasPlainKinds_arr_iff] at h
    rw [canonical_arr, frames, frames, Nat.add_le_add_iff_right, framesOfItems_le_iff]
    intro y among
    obtain ⟨x, hx, rfl⟩ := List.mem_map.1 among
    exact Nat.le_trans (ih x hx (h x hx)) (framesOfItems_le_iff.1 (Nat.le_refl _) x hx)
  | wrapper fs w ih =>
    rw [canonical_of_isWrapper w, frames, if_pos w, framesOfInner_eq]
    exact Nat.le_trans (ih h.inner) (Nat.le_succ _)
  | node fs w ih =>
    obtain ⟨kind, parts⟩ := hasPlainKinds_obj_iff.1 h
    rw [canonical_obj w, frames_obj (isWrapper_canonical kind w), frames_obj w,
      Nat.add_le_add_iff_right, framesOfFields_le_iff]
    intro f among
    obtain ⟨g, hg, rfl⟩ := List.mem_map.1 (mem_of_mem_meaning among)
    exact Nat.le_trans (ih g hg (parts g (mem_of_mem_meaning hg))) (frames_le_framesOfFields hg)

/-! ## Normalising -/

/-- **Canonical forms are normal forms**, for every stack: a tree that can be read and in which no
object has an object as its kind has a canonical form, which is its own canonical form, in which no
wrapper and no binder name or kind is left, and which the tree still has after it is decorated anew,
as long as that can be read too. -/
theorem canonical_normalises {t : Json} {n : Nat} (plain : HasPlainKinds t) (fits : frames t ≤ n) :
    canonical? n t = some (canonical t) ∧ canonical? n (canonical t) = some (canonical t) ∧
      IsNormal (canonical t) ∧
      ∀ t', Redecorates t t' →
        canonical? n t' = if frames t' ≤ n then some (canonical t) else none := by
  have normal := isNormal_canonical t plain
  refine ⟨?read, ?again, normal, fun t' decorated => ?decorated⟩
  case read => rw [canonical?_eq, if_pos fits]
  case again =>
    rw [canonical?_eq, canonical_of_isNormal _ normal,
      if_pos (Nat.le_trans (frames_canonical_le t plain) fits)]
  case decorated => rw [canonical?_eq, canonical_of_redecorates decorated plain]

end TypeTree

/-! ## Exported expressions -/

namespace Expression

open TypeTree (HasPlainKinds Redecorates canonical canonical? frameLimit frames)

/-- An object that names its kind has plain kinds when its other parts have. -/
theorem hasPlainKinds_node_iff {kind : String} {parts : List (String × Json)} :
    HasPlainKinds (.obj (("kind", .str kind) :: parts)) ↔ ∀ p ∈ parts, HasPlainKinds p.2 := by
  have named : HasPlainKinds (.str kind) := TypeTree.hasPlainKinds_of_isLeaf trivial
  rw [TypeTree.hasPlainKinds_obj_iff, TypeTree.field?_cons_self, List.forall_mem_cons]
  simp [named]

/-- **What is exported has texts for kinds.** -/
theorem hasPlainKinds_encode (e : Expression) : HasPlainKinds e.encode := by
  have text : ∀ s, HasPlainKinds (.str s) := fun _ => TypeTree.hasPlainKinds_of_isLeaf trivial
  have index : ∀ n : Nat, HasPlainKinds (.int n) := fun _ =>
    TypeTree.hasPlainKinds_of_isLeaf trivial
  induction e with
  | const n us =>
    have levels : HasPlainKinds (.arr (us.map .str)) :=
      TypeTree.hasPlainKinds_arr_iff.2 (by simp [text])
    exact hasPlainKinds_node_iff.2 (by simp [text, levels])
  | lit v => cases v <;> exact hasPlainKinds_node_iff.2 (by simp [Literal.field, text, index])
  | mdata e ih => exact hasPlainKinds_node_iff.2 (by simp [ih])
  | app f a ihf iha => exact hasPlainKinds_node_iff.2 (by simp [ihf, iha])
  | lam n i t b iht ihb => exact hasPlainKinds_node_iff.2 (by simp [text, iht, ihb])
  | forallE n i t b iht ihb => exact hasPlainKinds_node_iff.2 (by simp [text, iht, ihb])
  | letE n t v b iht ihv ihb => exact hasPlainKinds_node_iff.2 (by simp [text, iht, ihv, ihb])
  | proj s i e ih => exact hasPlainKinds_node_iff.2 (by simp [text, index, ih])
  | _ => exact hasPlainKinds_node_iff.2 (by simp [text, index])

/-- Metadata is a decoration. -/
theorem redecorates_mdata {t : Json} {e : Expression} (h : Redecorates t e.encode) :
    Redecorates t (mdata e).encode :=
  .wrap rfl rfl h

/-- A statement about all numbers keeps its canonical form when it is annotated. -/
theorem canonical_annotated :
    let e : Expression := .forallE "x" .explicit (.const "Nat" []) (.mdata (.bvar 0))
    HasPlainKinds e.encode ∧ frames e.encode ≤ frameLimit ∧
      canonical? frameLimit (canonical e.encode) = some (canonical e.encode) ∧
      canonical? frameLimit (mdata e).encode = some (canonical e.encode) := by
  intro e
  have shallow : frames e.encode ≤ frameLimit := by decide
  obtain ⟨-, again, -, decorated⟩ := TypeTree.canonical_normalises e.hasPlainKinds_encode shallow
  exact ⟨e.hasPlainKinds_encode, shallow, again,
    (decorated _ (redecorates_mdata (.refl _))).trans (if_pos (by decide))⟩

/-- A bound variable with metadata around it, so many times. -/
def wrapped : Nat → Expression
  | 0 => .bvar 0
  | n + 1 => .mdata (wrapped n)

theorem redecorates_wrapped (n : Nat) : Redecorates (bvar 0).encode (wrapped n).encode := by
  induction n with
  | zero => exact .refl _
  | succ n ih => exact redecorates_mdata ih

/-- Every wrapper takes a frame. -/
theorem le_frames_wrapped (n : Nat) : n ≤ frames (wrapped n).encode := by
  induction n with
  | zero => exact Nat.zero_le _
  | succ n ih =>
    let parts : List (String × Json) := [("kind", .str "mdata"), ("expr", (wrapped n).encode)]
    have wrapper : TypeTree.isWrapper parts = true := rfl
    change n + 1 ≤ frames (.obj parts)
    rw [frames, if_pos wrapper, TypeTree.framesOfInner_eq]
    exact Nat.succ_le_succ ih

/-- **A term with too many wrappers around it has no canonical form**, though it has one without
them, and so it does not equal itself without them. -/
theorem wrapped_too_deep :
    let t := (bvar 0).encode
    let t' := (wrapped 3000).encode
    HasPlainKinds t ∧ Redecorates t t' ∧ canonical? frameLimit t = some (canonical t) ∧
      canonical? frameLimit t' = none ∧
      TypeTree.equal t t = true ∧ TypeTree.equal t' t = false := by
  intro t t'
  have deep : ¬frames t' ≤ frameLimit := fun fits =>
    absurd (Nat.le_trans (le_frames_wrapped 3000) fits) (by decide)
  have unread : canonical? frameLimit t' = none := by rw [TypeTree.canonical?_eq, if_neg deep]
  have read : canonical? frameLimit t = some (canonical t) := by
    rw [TypeTree.canonical?_eq, if_pos (by decide)]
  exact ⟨hasPlainKinds_encode _, redecorates_wrapped _, read, unread, by decide +kernel,
    TypeTree.equal_eq_false_of_tooDeep t unread⟩

end Expression

end ProofGrading
