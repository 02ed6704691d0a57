import Mathlib.Data.List.Nodup
import Mathlib.Data.List.Perm.Subperm
import ProofGrading.Proofs.Credit
import ProofGrading.Proofs.Expression

/-!
# Proofs/Equivalence — restating a type

A tree is ordinary when no key stands twice in one of its objects and no number in it differs from
itself, as in what is exported (`Expression.isOrdinary_encode`).  On ordinary values sameness is
reflexive, symmetric and transitive, and canonical forms are ordinary too.  So the comparison of
types is symmetric and transitive whatever their depth, and a type equals itself unless it is nested
too deeply (`typesEqual_laws`); then even the reference type does not equal itself
(`verbatim_too_deep`).
-/

namespace ProofGrading

open TypeTree (IsLeaf Shallow canonical meaning isWrapper)

namespace Json

/-! ## Ordinary values -/

/-- **An ordinary value**: a key stands in an object once, and no number differs from itself. -/
inductive IsOrdinary : Json → Prop where
  | leaf {j : Json} (leaf : IsLeaf j) (number : j.isNaN = false) : IsOrdinary j
  | arr {items : List Json} (h : ∀ j ∈ items, IsOrdinary j) : IsOrdinary (.arr items)
  | obj {fields : List (String × Json)} (keys : (fields.map (·.1)).Nodup)
      (h : ∀ f ∈ fields, IsOrdinary f.2) : IsOrdinary (.obj fields)

/-- In an object with distinct keys a key leads to each of its fields. -/
theorem field?_of_mem {fields : List (String × Json)} (keys : (fields.map (·.1)).Nodup)
    {f : String × Json} (h : f ∈ fields) : field? fields f.1 = some f.2 := by
  induction fields with
  | nil => cases h
  | cons g rest ih =>
    obtain ⟨new, keys⟩ := List.nodup_cons.1 keys
    obtain rfl | h := List.mem_cons.1 h
    · exact TypeTree.field?_cons_self ..
    · have among : f.1 ∈ rest.map (·.1) := List.mem_map_of_mem h
      have other : g.1 ≠ f.1 := fun same => new (by rwa [← same] at among)
      rw [← ih keys h]
      exact TypeTree.field?_cons_ne other ..

/-- **As many distinct keys as there are fields to be found in leave no field out.** -/
theorem exists_field_of_length_eq {fs gs : List (String × Json)}
    (keys : (fs.map (·.1)).Nodup) (length_eq : fs.length = gs.length)
    (found : ∀ f ∈ fs, (field? gs f.1).isSome) {g : String × Json} (hg : g ∈ gs) :
    ∃ f ∈ fs, f.1 = g.1 := by
  have sub : fs.map (·.1) ⊆ gs.map (·.1) := by
    intro key among
    obtain ⟨f, hf, rfl⟩ := List.mem_map.1 among
    obtain ⟨y, there⟩ := Option.isSome_iff_exists.1 (found f hf)
    exact List.mem_map.2 ⟨_, mem_of_field? there, rfl⟩
  have perm : (fs.map (·.1)).Perm (gs.map (·.1)) :=
    (keys.subperm sub).perm_of_length_le (by simp [length_eq])
  exact List.mem_map.1 (perm.mem_iff.2 (List.mem_map_of_mem hg))

/-! ## Sameness of ordinary values -/

variable {a b c : Json}

theorem IsOrdinary.isNaN_eq_false (h : IsOrdinary a) : a.isNaN = false := by
  cases h with
  | leaf _ number => exact number
  | arr => rfl
  | obj => rfl

/-- **Sameness is reflexive.** -/
theorem IsOrdinary.same_refl (h : IsOrdinary a) : a.same a = true := by
  induction h with
  | leaf leaf _ =>
    obtain rfl | ⟨s, rfl⟩ | ⟨v, number⟩ := leaf.cases
    · exact same_null_iff.2 rfl
    · exact same_str_iff.2 rfl
    · exact (same_iff_of_number? number).2 number
  | arr _ ih =>
    exact same_arr_iff.2 ⟨_, rfl, sameItems_iff_forall₂.2 (List.forall₂_same.2 ih)⟩
  | obj keys _ ih =>
    exact same_obj_iff.2 ⟨_, rfl, rfl, sameFields_iff.2 fun f hf =>
      ⟨f.2, field?_of_mem keys hf, ih f hf⟩⟩

/-- **Sameness is symmetric.** -/
theorem IsOrdinary.same_symm (ha : IsOrdinary a) (hb : IsOrdinary b) (h : a.same b = true) :
    b.same a = true := by
  induction ha generalizing b with
  | leaf leaf _ =>
    obtain rfl | ⟨s, rfl⟩ | ⟨v, number⟩ := leaf.cases
    · obtain rfl := same_null_iff.1 h
      exact h
    · obtain rfl := same_str_iff.1 h
      exact h
    · exact (same_iff_of_number? ((same_iff_of_number? number).1 h)).2 number
  | arr _ ih =>
    obtain ⟨ys, rfl, items⟩ := same_arr_iff.1 h
    cases hb with
    | leaf leaf => exact leaf.elim
    | arr ordinary =>
      obtain ⟨length_eq, each⟩ := List.forall₂_iff_get.1 (sameItems_iff_forall₂.1 items)
      refine same_arr_iff.2 ⟨_, rfl, sameItems_iff_forall₂.2 (List.forall₂_iff_get.2
        ⟨length_eq.symm, fun i hy hx => ?_⟩)⟩
      exact ih _ (List.get_mem _ _) (ordinary _ (List.get_mem _ _)) (each i hx hy)
  | @obj fs keys _ ih =>
    obtain ⟨gs, rfl, length_eq, fields⟩ := same_obj_iff.1 h
    have found := sameFields_iff.1 fields
    cases hb with
    | leaf leaf => exact leaf.elim
    | obj keys' ordinary =>
      refine same_obj_iff.2 ⟨_, rfl, length_eq.symm, sameFields_iff.2 fun g hg => ?_⟩
      obtain ⟨f, hf, called⟩ := exists_field_of_length_eq keys length_eq (fun f hf => by
        obtain ⟨y, there, -⟩ := found f hf
        exact there ▸ rfl) hg
      obtain ⟨y, there, same⟩ := found f hf
      rw [called, field?_of_mem keys' hg] at there
      obtain rfl := Option.some.inj there
      exact ⟨f.2, called ▸ field?_of_mem keys hf, ih f hf (ordinary g hg) same⟩

/-- **Sameness is transitive.** -/
theorem IsOrdinary.same_trans (ha : IsOrdinary a) (h : a.same b = true) (h' : b.same c = true) :
    a.same c = true := by
  induction ha generalizing b c with
  | leaf leaf _ =>
    obtain rfl | ⟨s, rfl⟩ | ⟨v, number⟩ := leaf.cases
    · obtain rfl := same_null_iff.1 h
      exact h'
    · obtain rfl := same_str_iff.1 h
      exact h'
    · have number' := (same_iff_of_number? number).1 h
      exact (same_iff_of_number? number).2 ((same_iff_of_number? number').1 h')
  | arr _ ih =>
    obtain ⟨ys, rfl, items⟩ := same_arr_iff.1 h
    obtain ⟨zs, rfl, items'⟩ := same_arr_iff.1 h'
    obtain ⟨length_eq, each⟩ := List.forall₂_iff_get.1 (sameItems_iff_forall₂.1 items)
    obtain ⟨length_eq', each'⟩ := List.forall₂_iff_get.1 (sameItems_iff_forall₂.1 items')
    refine same_arr_iff.2 ⟨_, rfl, sameItems_iff_forall₂.2 (List.forall₂_iff_get.2
      ⟨length_eq.trans length_eq', fun i hx hz => ?_⟩)⟩
    exact ih _ (List.get_mem _ _) (each i hx (length_eq ▸ hx)) (each' i (length_eq ▸ hx) hz)
  | obj _ _ ih =>
    obtain ⟨gs, rfl, length_eq, fields⟩ := same_obj_iff.1 h
    obtain ⟨hs, rfl, length_eq', fields'⟩ := same_obj_iff.1 h'
    refine same_obj_iff.2 ⟨_, rfl, length_eq.trans length_eq', sameFields_iff.2 fun f hf => ?_⟩
    obtain ⟨y, there, same⟩ := sameFields_iff.1 fields f hf
    obtain ⟨z, there', same'⟩ := sameFields_iff.1 fields' _ (mem_of_field? there)
    exact ⟨z, there', ih f hf same same'⟩

end Json

/-! ## Canonical forms -/

/-- **The canonical form of an ordinary tree is ordinary.** -/
theorem Json.IsOrdinary.canonical {t : Json} (h : t.IsOrdinary) : (canonical t).IsOrdinary := by
  induction h with
  | leaf leaf number =>
    rw [TypeTree.canonical_of_isLeaf leaf]
    exact .leaf leaf number
  | arr _ ih =>
    rw [TypeTree.canonical_arr]
    refine .arr fun j among => ?_
    obtain ⟨x, hx, rfl⟩ := List.mem_map.1 among
    exact ih x hx
  | @obj fs keys _ ih =>
    cases w : isWrapper fs with
    | true =>
      rw [TypeTree.canonical_of_isWrapper w, TypeTree.inner]
      cases there : field? fs "expr" with
      | none =>
        rw [Option.getD_none, TypeTree.canonical_of_isLeaf (t := .null) trivial]
        exact .leaf trivial rfl
      | some v => exact ih _ (mem_of_field? there)
    | false =>
      rw [TypeTree.canonical_obj w]
      refine .obj ?_ fun f among => ?_
      · rw [List.map_map]
        exact keys.sublist (List.filter_sublist.map _)
      · obtain ⟨g, hg, rfl⟩ := List.mem_map.1 among
        exact ih g (TypeTree.mem_of_mem_meaning hg)

/-- **What is exported is ordinary.** -/
theorem Expression.isOrdinary_encode (e : Expression) : e.encode.IsOrdinary := by
  have text : ∀ s, (Json.str s).IsOrdinary := fun _ => .leaf trivial rfl
  have index : ∀ n : Nat, (Json.int n).IsOrdinary := fun _ => .leaf trivial rfl
  induction e with
  | const n us =>
    have levels : (Json.arr (us.map .str)).IsOrdinary := .arr (by simp [text])
    exact .obj (by simp) (by simp [text, levels])
  | lit v => cases v <;> exact .obj (by simp [Literal.field]) (by simp [Literal.field, text, index])
  | mdata e ih => exact .obj (by simp) (by simp [text, ih])
  | app f a ihf iha => exact .obj (by simp) (by simp [text, ihf, iha])
  | lam n i t b iht ihb => exact .obj (by simp) (by simp [text, iht, ihb])
  | forallE n i t b iht ihb => exact .obj (by simp) (by simp [text, iht, ihb])
  | letE n t v b iht ihv ihb => exact .obj (by simp) (by simp [text, iht, ihv, ihb])
  | proj s i e ih => exact .obj (by simp) (by simp [text, index, ih])
  | _ => exact .obj (by simp) (by simp [text, index])

/-! ## The comparison of types -/

/-- **A declaration with an ordinary type.** -/
structure Declaration.IsTyped (d : Declaration) : Prop where
  isOrdinary : d.type.IsOrdinary
  ne_null : d.type ≠ .null

/-- When declarations with ordinary types are of the same type, however deep the types are. -/
theorem Declaration.IsTyped.sameType_iff {d₁ d₂ : Declaration} (h₁ : d₁.IsTyped)
    (h₂ : d₂.IsTyped) : d₁.sameType d₂ = true ↔
      (Shallow d₁.type ∧ Shallow d₂.type) ∧
        (TypeTree.canonical d₁.type).same (TypeTree.canonical d₂.type) = true := by
  rw [Declaration.sameType, TypeTree.equal_eq_true_iff, h₁.isOrdinary.canonical.isNaN_eq_false]
  simp [h₁.ne_null, h₂.ne_null]

variable {e : Exercise} {reference submission : Environment} {expected actual : Declaration}
  {v : Verdict}

theorem judge_typeMismatch_iff :
    (judge .structural none e submission expected actual).result.status = .typeMismatch ↔
      ¬actual.Unfinished ∧ ¬expected.sameType actual = true := by
  rw [status_judge, ← isIncomplete_iff]
  change _ ↔ _ ∧ ¬Checker.structural.typesEqual expected actual = true
  split_ifs <;> simp_all

/-- **The laws of the comparison of types.**  On ordinary types of any depth it is symmetric and
transitive, and a type equals itself just when it is not nested too deeply.  So a finished
declaration that restates the expected type word by word is refused for its type only if that type
is nested too deeply. -/
theorem typesEqual_laws :
    (∀ d : Declaration, d.IsTyped →
        (Checker.structural.typesEqual d d = true ↔ Shallow d.type)) ∧
      (∀ d₁ d₂ : Declaration, d₁.IsTyped → d₂.IsTyped →
        Checker.structural.typesEqual d₁ d₂ = true → Checker.structural.typesEqual d₂ d₁ = true) ∧
      (∀ d₁ d₂ d₃ : Declaration, d₁.IsTyped → d₂.IsTyped → d₃.IsTyped →
        Checker.structural.typesEqual d₁ d₂ = true → Checker.structural.typesEqual d₂ d₃ = true →
        Checker.structural.typesEqual d₁ d₃ = true) ∧
      ∀ e reference submission expected actual, reference.lookup e.name = some expected →
        submission.lookup e.name = some actual → expected.IsTyped →
        actual.type = expected.type → ¬actual.Unfinished →
        ∃ v, verify .structural none e reference submission = .ok v ∧
          (v.result.status = .typeMismatch ↔ ¬Shallow expected.type) := by
  have reflexive : ∀ d : Declaration, d.IsTyped → (d.sameType d = true ↔ Shallow d.type) := by
    intro d h
    rw [h.sameType_iff h, and_self, and_iff_left h.isOrdinary.canonical.same_refl]
  refine ⟨reflexive, ?symmetric, ?transitive, ?verbatim⟩
  case symmetric =>
    intro d₁ d₂ h₁ h₂ same
    obtain ⟨⟨shallow₁, shallow₂⟩, same⟩ := (h₁.sameType_iff h₂).1 same
    exact (h₂.sameType_iff h₁).2 ⟨⟨shallow₂, shallow₁⟩,
      h₁.isOrdinary.canonical.same_symm h₂.isOrdinary.canonical same⟩
  case transitive =>
    intro d₁ d₂ d₃ h₁ h₂ h₃ same same'
    obtain ⟨⟨shallow₁, -⟩, same⟩ := (h₁.sameType_iff h₂).1 same
    obtain ⟨⟨-, shallow₃⟩, same'⟩ := (h₂.sameType_iff h₃).1 same'
    exact (h₁.sameType_iff h₃).2 ⟨⟨shallow₁, shallow₃⟩,
      h₁.isOrdinary.canonical.same_trans same same'⟩
  case verbatim =>
    intro e reference submission expected actual declared found typed verbatim finished
    refine ⟨judge .structural none e submission expected actual, ?_, ?_⟩
    · rw [verify, declared, found]
    · rw [judge_typeMismatch_iff, and_iff_right finished, Declaration.sameType, verbatim]
      exact not_congr (reflexive expected typed)

/-- A sheet with one exercise, which states what an expression says. -/
def statedSheet (t : Expression) : Environment where
  mainModule := "Sheet"
  declarations := [{ name := "easy", kind := .theoremKind, type := t.encode }]
  distinct := List.nodup_singleton _

namespace statedSheet

/-- The exercise as it is stated. -/
def easy (t : Expression) : Declaration :=
  { name := "easy", kind := .theoremKind, type := t.encode }

theorem lookup_easy (t : Expression) : (statedSheet t).lookup "easy" = some (easy t) := rfl

theorem isTyped_easy (t : Expression) : (easy t).IsTyped := ⟨t.isOrdinary_encode, t.encode_ne_null⟩

theorem finished_easy (t : Expression) : ¬(easy t).Unfinished := by
  simp [easy, Declaration.Unfinished]

end statedSheet

/-- A sheet that is submitted itself is not refused for its type. -/
theorem verify_restated : ∃ v,
    let sheet := statedSheet (.forallE "x" .explicit (.const "Nat" []) (.bvar 0))
    verify .structural none ⟨"easy", 5⟩ sheet sheet = .ok v ∧ v.result.status ≠ .typeMismatch := by
  obtain ⟨-, -, -, verbatim⟩ := typesEqual_laws
  obtain ⟨v, graded, mismatch⟩ := verbatim ⟨"easy", 5⟩ _ _ _ _ (statedSheet.lookup_easy _)
    (statedSheet.lookup_easy _) (statedSheet.isTyped_easy _) rfl (statedSheet.finished_easy _)
  exact ⟨v, graded, fun refused => mismatch.1 refused (by decide)⟩

/-- A constant, applied so many times. -/
def Expression.applied : Nat → Expression
  | 0 => .const "Nat" []
  | n + 1 => .app (applied n) (.bvar 0)

/-- Every application takes two frames. -/
theorem Expression.le_frames_applied (n : Nat) : 2 * n ≤ TypeTree.frames (applied n).encode := by
  induction n with
  | zero => exact Nat.zero_le _
  | succ n ih =>
    let parts : List (String × Json) := [("kind", .str "app"), ("fn", (applied n).encode),
      ("arg", (Expression.bvar 0).encode)]
    have among : ("fn", (applied n).encode) ∈ meaning parts := by
      simp [parts, meaning, TypeTree.erasedKeys]
    have inside := TypeTree.frames_le_framesOfFields among
    change _ ≤ TypeTree.frames (.obj parts)
    rw [TypeTree.frames_obj rfl]
    dsimp only at inside
    omega

/-- **A sheet whose statement is nested too deeply is refused for its type**, though it is submitted
itself. -/
theorem verbatim_too_deep : ∃ v,
    let t := Expression.applied 3000
    (statedSheet.easy t).IsTyped ∧
      Checker.structural.typesEqual (statedSheet.easy t) (statedSheet.easy t) = false ∧
      verify .structural none ⟨"easy", 5⟩ (statedSheet t) (statedSheet t) = .ok v ∧
      v.result.status = .typeMismatch := by
  have deep := Expression.le_frames_applied 3000
  generalize Expression.applied 3000 = t at deep
  have unequal : ¬(statedSheet.easy t).sameType (statedSheet.easy t) = true := fun same => by
    have typed := statedSheet.isTyped_easy t
    have shallow : TypeTree.frames t.encode ≤ TypeTree.frameLimit :=
      ((typed.sameType_iff typed).1 same).1.1
    exact absurd (Nat.le_trans deep shallow) (by decide)
  exact ⟨judge .structural none ⟨"easy", 5⟩ (statedSheet t) (statedSheet.easy t)
    (statedSheet.easy t), statedSheet.isTyped_easy t, Bool.not_eq_true _ ▸ unequal, rfl,
    judge_typeMismatch_iff.2 ⟨statedSheet.finished_easy t, unequal⟩⟩

end ProofGrading
