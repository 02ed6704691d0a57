import ProofGrading.Proofs.TypeComparison
import ProofGrading.Verification

/-!
# Proofs/Expression — exported expressions

An expression is exported as one object for each of its nodes.  What is left of it without binder
names, binder kinds and annotated terms' wrappers is its skeleton.  The canonical form of an
exported expression is the tree of its skeleton (`canonical_encode`), and no two skeletons have the
same tree (`same_tree_iff`); so types are equal exactly when their skeletons are
(`typesEqual_encode_iff`).
-/

namespace ProofGrading

/-- How a binder is written. -/
inductive BinderKind where
  | explicit
  | implicit
  | strictImplicit
  | instImplicit
  deriving DecidableEq, Repr

/-- The exported name of a kind of binder. -/
def BinderKind.label : BinderKind → String
  | explicit => "default"
  | implicit => "implicit"
  | strictImplicit => "strictImplicit"
  | instImplicit => "instImplicit"

/-- A number or a text. -/
inductive Literal where
  | nat (n : Nat)
  | str (s : String)
  deriving DecidableEq, Repr

/-- An expression in the twelve kinds of nodes that are exported. -/
inductive Expression where
  | bvar (idx : Nat)
  | fvar (name : String)
  | mvar (name : String)
  | sort (level : String)
  | const (name : String) (levels : List String)
  | app (fn arg : Expression)
  | lam (binder : String) (info : BinderKind) (type body : Expression)
  | forallE (binder : String) (info : BinderKind) (type body : Expression)
  | letE (binder : String) (type value body : Expression)
  | lit (value : Literal)
  | mdata (expr : Expression)
  | proj (struct : String) (idx : Nat) (expr : Expression)
  deriving DecidableEq, Repr

/-- An expression without binder names, binder kinds and metadata. -/
inductive Skeleton where
  | bvar (idx : Nat)
  | fvar (name : String)
  | mvar (name : String)
  | sort (level : String)
  | const (name : String) (levels : List String)
  | app (fn arg : Skeleton)
  | lam (type body : Skeleton)
  | forallE (type body : Skeleton)
  | letE (type value body : Skeleton)
  | lit (value : Literal)
  | proj (struct : String) (idx : Nat) (expr : Skeleton)
  deriving DecidableEq, Repr

namespace Literal

/-- The field that holds a literal. -/
def field : Literal → String × Json
  | nat n => ("nat", .int n)
  | str s => ("str", .str s)

end Literal

namespace Expression

/-- **The exported form of an expression**, one object for each node. -/
def encode : Expression → Json
  | bvar i => .obj [("kind", .str "bvar"), ("idx", .int i)]
  | fvar n => .obj [("kind", .str "fvar"), ("name", .str n)]
  | mvar n => .obj [("kind", .str "mvar"), ("name", .str n)]
  | sort u => .obj [("kind", .str "sort"), ("level", .str u)]
  | const n us => .obj [("kind", .str "const"), ("name", .str n), ("levels", .arr (us.map .str))]
  | app f a => .obj [("kind", .str "app"), ("fn", f.encode), ("arg", a.encode)]
  | lam n i t b =>
    .obj [("kind", .str "lam"), ("binder", .str n), ("info", .str i.label), ("type", t.encode),
      ("body", b.encode)]
  | forallE n i t b =>
    .obj [("kind", .str "forallE"), ("binder", .str n), ("info", .str i.label),
      ("type", t.encode), ("body", b.encode)]
  | letE n t v b =>
    .obj [("kind", .str "letE"), ("binder", .str n), ("type", t.encode), ("value", v.encode),
      ("body", b.encode)]
  | lit v => .obj [("kind", .str "lit"), v.field]
  | mdata e => .obj [("kind", .str "mdata"), ("expr", e.encode)]
  | proj s i e =>
    .obj [("kind", .str "proj"), ("struct", .str s), ("idx", .int i), ("expr", e.encode)]

/-- **What is left of an expression** when metadata is removed and binders are forgotten. -/
def skeleton : Expression → Skeleton
  | bvar i => .bvar i
  | fvar n => .fvar n
  | mvar n => .mvar n
  | sort u => .sort u
  | const n us => .const n us
  | app f a => .app f.skeleton a.skeleton
  | lam _ _ t b => .lam t.skeleton b.skeleton
  | forallE _ _ t b => .forallE t.skeleton b.skeleton
  | letE _ t v b => .letE t.skeleton v.skeleton b.skeleton
  | lit v => .lit v
  | mdata e => e.skeleton
  | proj s i e => .proj s i e.skeleton

end Expression

namespace Skeleton

/-- The name of the node at the top. -/
def kind : Skeleton → String
  | bvar _ => "bvar"
  | fvar _ => "fvar"
  | mvar _ => "mvar"
  | sort _ => "sort"
  | const _ _ => "const"
  | app _ _ => "app"
  | lam _ _ => "lam"
  | forallE _ _ => "forallE"
  | letE _ _ _ => "letE"
  | lit _ => "lit"
  | proj _ _ _ => "proj"

/-- The tree of a skeleton. -/
def tree : Skeleton → Json
  | bvar i => .obj [("kind", .str "bvar"), ("idx", .int i)]
  | fvar n => .obj [("kind", .str "fvar"), ("name", .str n)]
  | mvar n => .obj [("kind", .str "mvar"), ("name", .str n)]
  | sort u => .obj [("kind", .str "sort"), ("level", .str u)]
  | const n us => .obj [("kind", .str "const"), ("name", .str n), ("levels", .arr (us.map .str))]
  | app f a => .obj [("kind", .str "app"), ("fn", f.tree), ("arg", a.tree)]
  | lam t b => .obj [("kind", .str "lam"), ("type", t.tree), ("body", b.tree)]
  | forallE t b => .obj [("kind", .str "forallE"), ("type", t.tree), ("body", b.tree)]
  | letE t v b =>
    .obj [("kind", .str "letE"), ("type", t.tree), ("value", v.tree), ("body", b.tree)]
  | lit v => .obj [("kind", .str "lit"), v.field]
  | proj s i e =>
    .obj [("kind", .str "proj"), ("struct", .str s), ("idx", .int i), ("expr", e.tree)]

end Skeleton

/-! ## The canonical form -/

open TypeTree (canonical meaning canonical_obj canonical_of_isWrapper erasedKeys)

theorem canonical_node {kind : String} (h : kind ≠ "mdata") (parts : List (String × Json)) :
    canonical (.obj (("kind", .str kind) :: parts)) =
      .obj (("kind", .str kind) :: (meaning parts).map fun f => (f.1, canonical f.2)) := by
  rw [canonical_obj (by simp [TypeTree.isWrapper, Json.field?, h])]
  simp [meaning, erasedKeys, canonical]

theorem canonical_mdata (t : Json) :
    canonical (.obj [("kind", .str "mdata"), ("expr", t)]) = canonical t := by
  rw [canonical_of_isWrapper (by simp [TypeTree.isWrapper, Json.field?])]
  simp [TypeTree.inner, Json.field?]

theorem canonicalItems_map_str (us : List String) :
    TypeTree.canonicalItems (us.map .str) = us.map .str := by
  rw [TypeTree.canonicalItems_eq, List.map_map]
  exact List.map_congr_left fun u _ => TypeTree.canonical_of_isLeaf trivial

/-- **The canonical form of an exported expression is the tree of its skeleton.** -/
theorem Expression.canonical_encode (e : Expression) : canonical e.encode = e.skeleton.tree := by
  induction e with
  | mdata e ih => rw [encode, canonical_mdata, ih, skeleton]
  | const n us =>
    rw [encode, canonical_node (by decide)]
    simp [meaning, erasedKeys, canonical, canonicalItems_map_str, skeleton, Skeleton.tree]
  | lit v =>
    rw [encode, canonical_node (by decide)]
    cases v <;> simp [meaning, erasedKeys, canonical, Literal.field, skeleton, Skeleton.tree]
  | app f a ihf iha =>
    rw [encode, canonical_node (by decide)]
    simp [meaning, erasedKeys, ihf, iha, skeleton, Skeleton.tree]
  | lam n i t b iht ihb =>
    rw [encode, canonical_node (by decide)]
    simp [meaning, erasedKeys, iht, ihb, skeleton, Skeleton.tree]
  | forallE n i t b iht ihb =>
    rw [encode, canonical_node (by decide)]
    simp [meaning, erasedKeys, iht, ihb, skeleton, Skeleton.tree]
  | letE n t v b iht ihv ihb =>
    rw [encode, canonical_node (by decide)]
    simp [meaning, erasedKeys, iht, ihv, ihb, skeleton, Skeleton.tree]
  | proj s i e ih =>
    rw [encode, canonical_node (by decide)]
    simp [meaning, erasedKeys, canonical, ih, skeleton, Skeleton.tree]
  | _ =>
    rw [encode, canonical_node (by decide)]
    simp [meaning, erasedKeys, canonical, skeleton, Skeleton.tree]

/-! ## No two skeletons have the same tree -/

namespace Skeleton

/-- Nodes of one kind are the same when they have as many parts and each of the first is found in
the second. -/
theorem same_node_iff {kind : String} {ps qs : List (String × Json)} :
    Json.same (.obj (("kind", .str kind) :: ps)) (.obj (("kind", .str kind) :: qs)) = true ↔
      ps.length = qs.length ∧
        ∀ p ∈ ps, ∃ y, Json.field? (("kind", .str kind) :: qs) p.1 = some y ∧
          p.2.same y = true := by
  simp [Json.same_obj_iff, Json.sameFields_iff, Json.field?, Json.same_str_str_iff]

/-- The tree of a skeleton names its kind first. -/
theorem exists_tree_eq (s : Skeleton) :
    ∃ parts, s.tree = .obj (("kind", .str s.kind) :: parts) := by
  cases s <;> exact ⟨_, rfl⟩

theorem kind_eq_of_same_tree {s t : Skeleton} (h : s.tree.same t.tree = true) :
    s.kind = t.kind := by
  obtain ⟨ps, hs⟩ := s.exists_tree_eq
  obtain ⟨qs, ht⟩ := t.exists_tree_eq
  rw [hs, ht, Json.same_obj_iff] at h
  obtain ⟨gs, hg, -, hfields⟩ := h
  obtain rfl := Json.obj.inj hg
  obtain ⟨y, hy, hsame⟩ := Json.sameFields_iff.1 hfields _ (List.mem_cons_self ..)
  rw [TypeTree.field?_cons_self] at hy
  obtain rfl := Option.some.inj hy
  exact (Json.str.inj (Json.same_str_iff.1 hsame)).symm

theorem same_tree_iff_of_kind_ne {s t : Skeleton} (h : s.kind ≠ t.kind) :
    s.tree.same t.tree = true ↔ s = t :=
  iff_of_false (fun hs => h (kind_eq_of_same_tree hs)) fun hs => h (hs ▸ rfl)

/-- **Skeletons with the same tree are equal**, by induction on one and cases on the other: where
the kinds agree, part by part. -/
theorem same_tree_iff {s t : Skeleton} : s.tree.same t.tree = true ↔ s = t := by
  induction s generalizing t <;> cases t
  case bvar.bvar i j => simp [tree, same_node_iff, Json.field?, Json.same_natCast_iff]
  case fvar.fvar m n => simp [tree, same_node_iff, Json.field?, Json.same_str_str_iff]
  case mvar.mvar m n => simp [tree, same_node_iff, Json.field?, Json.same_str_str_iff]
  case sort.sort u v => simp [tree, same_node_iff, Json.field?, Json.same_str_str_iff]
  case const.const m us n vs =>
    simp [tree, same_node_iff, Json.field?, Json.same_str_str_iff, Json.same_arr_iff,
      Json.sameItems_map_str_iff]
  case app.app f a ihf iha g b => simp [tree, same_node_iff, Json.field?, ihf, iha]
  case lam.lam t b iht ihb t' b' => simp [tree, same_node_iff, Json.field?, iht, ihb]
  case forallE.forallE t b iht ihb t' b' => simp [tree, same_node_iff, Json.field?, iht, ihb]
  case letE.letE t v b iht ihv ihb t' v' b' =>
    simp [tree, same_node_iff, Json.field?, iht, ihv, ihb]
  case lit.lit v w =>
    cases v <;> cases w <;>
      simp [tree, same_node_iff, Literal.field, Json.field?, Json.same_natCast_iff,
        Json.same_str_str_iff]
  case proj.proj s i e ih s' i' e' =>
    simp [tree, same_node_iff, Json.field?, Json.same_str_str_iff, Json.same_natCast_iff, ih]
  all_goals exact same_tree_iff_of_kind_ne (by simp [kind])

/-- The tree of a skeleton is an object, so no number. -/
theorem isNaN_tree (s : Skeleton) : s.tree.isNaN = false := by
  obtain ⟨parts, hs⟩ := s.exists_tree_eq
  rw [hs]
  rfl

end Skeleton

/-! ## Equal types -/

theorem Expression.encode_ne_null (e : Expression) : e.encode ≠ .null := by
  cases e <;> exact Json.noConfusion

/-- **Two exported types are equal exactly when the expressions are, up to binder names, binder
kinds and metadata.** -/
theorem typesEqual_encode_iff (d₁ d₂ : Declaration) {e₁ e₂ : Expression}
    (h₁ : TypeTree.Shallow e₁.encode) (h₂ : TypeTree.Shallow e₂.encode) :
    Checker.structural.typesEqual { d₁ with type := e₁.encode } { d₂ with type := e₂.encode } = true
      ↔ e₁.skeleton = e₂.skeleton := by
  change TypeTree.equal e₁.encode e₂.encode = true ↔ _
  rw [TypeTree.equal_iff_same_canonical h₁ h₂, e₁.canonical_encode, e₂.canonical_encode,
    Skeleton.same_tree_iff, Skeleton.isNaN_tree]
  simp [e₁.encode_ne_null, e₂.encode_ne_null]

/-- A bound variable under another name, of another kind and with metadata around its type makes no
difference. -/
theorem typesEqual_renamed :
    let e₁ : Expression := .forallE "x" .explicit (.const "Nat" []) (.app (.bvar 0) (.lit (.nat 1)))
    let e₂ : Expression := .mdata
      (.forallE "y" .implicit (.mdata (.const "Nat" [])) (.app (.bvar 0) (.lit (.nat 1))))
    let d : Declaration := { name := "easy", kind := .theoremKind }
    TypeTree.Shallow e₁.encode ∧ TypeTree.Shallow e₂.encode ∧
      Checker.structural.typesEqual { d with type := e₁.encode } { d with type := e₂.encode } =
        true :=
  ⟨by decide, by decide, (typesEqual_encode_iff _ _ (by decide) (by decide)).2 rfl⟩

end ProofGrading
