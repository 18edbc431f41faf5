import ArrayTyping.Proofs.Rebuilding
import ArrayTyping.Proofs.SourceTerms
/-!
# Lockstep — two builds of which the same is known

Two requests run side by side, each from its own store.  They stay in step if both are answered, or both refused with a
fault of one class.  Nodes look alike if they declare one type and the same is known of their shapes; only where one is
walked through does it also matter what it is made of.  The rules read no more than that of their operands, so
applications, indexings and arrays by index notation over lookalikes are built in step, and are lookalikes again.
-/
namespace ArrayTyping

namespace Build

variable {α β γ δ : Type}

/-- Two requests in step: both answered, and related with the stores that they leave, or both refused for the same. -/
def Together (R : Store → Store → α → β → Prop) (x : Except Fault α × Store) (y : Except Fault β × Store) : Prop :=
  SameAnswer (R x.2 y.2) x.1 y.1

namespace Together

variable {R : Store → Store → α → β → Prop} {S : Store → Store → γ → δ → Prop} {x : Build α} {y : Build β}
  {f : α → Build γ} {g : β → Build δ} {st st' : Store}

theorem of_ok {a : α} {b : β} {st₁ st₁' : Store} (hx : outcome x st = (.ok a, st₁)) (hy : outcome y st' = (.ok b, st₁'))
    (h : R st₁ st₁' a b) : Together R (outcome x st) (outcome y st') := by
  rw [hx, hy]
  exact h

theorem of_error {e e' : Fault} {st₁ st₁' : Store} (hx : outcome x st = (.error e, st₁))
    (hy : outcome y st' = (.error e', st₁')) (h : e.faultClass = e'.faultClass) :
    Together R (outcome x st) (outcome y st') := by
  rw [hx, hy]
  exact h

theorem cases (h : Together R (outcome x st) (outcome y st')) :
    (∃ a b st₁ st₁', outcome x st = (.ok a, st₁) ∧ outcome y st' = (.ok b, st₁') ∧ R st₁ st₁' a b) ∨
      ∃ e e' st₁ st₁', outcome x st = (.error e, st₁) ∧ outcome y st' = (.error e', st₁') ∧
        e.faultClass = e'.faultClass := by
  unfold Together at h
  rcases hx : outcome x st with ⟨e | a, st₁⟩ <;> rcases hy : outcome y st' with ⟨e' | b, st₁'⟩ <;> rw [hx, hy] at h
  · exact .inr ⟨e, e', st₁, st₁', rfl, rfl, h⟩
  · exact h.elim
  · exact h.elim
  · exact .inl ⟨a, b, st₁, st₁', rfl, rfl, h⟩

theorem bind (h : Together R (outcome x st) (outcome y st'))
    (hfg : ∀ a b st₁ st₁', outcome x st = (.ok a, st₁) → outcome y st' = (.ok b, st₁') → R st₁ st₁' a b →
      Together S (outcome (f a) st₁) (outcome (g b) st₁')) :
    Together S (outcome (x >>= f) st) (outcome (y >>= g) st') := by
  rcases h.cases with ⟨a, b, st₁, st₁', hx, hy, hab⟩ | ⟨e, e', st₁, st₁', hx, hy, he⟩
  · rw [outcome_bind_of_ok hx, outcome_bind_of_ok hy]
    exact hfg a b st₁ st₁' hx hy hab
  · exact of_error (outcome_bind_of_error hx) (outcome_bind_of_error hy) he

theorem bind_reading {a : Except Fault α} {b : Except Fault β} {Q : α → β → Prop} (hx : outcome x st = (a, st))
    (hy : outcome y st' = (b, st')) (h : SameAnswer Q a b)
    (hfg : ∀ a b, Q a b → Together S (outcome (f a) st) (outcome (g b) st')) :
    Together S (outcome (x >>= f) st) (outcome (y >>= g) st') := by
  rcases h.cases with ⟨a, b, rfl, rfl, hab⟩ | ⟨e, e', rfl, rfl, he⟩
  · rw [outcome_bind_of_ok hx, outcome_bind_of_ok hy]
    exact hfg a b hab
  · exact of_error (outcome_bind_of_error hx) (outcome_bind_of_error hy) he

theorem imp {Q : Store → Store → α → β → Prop} (h : Together R (outcome x st) (outcome y st'))
    (hRQ : ∀ a b st₁ st₁', outcome x st = (.ok a, st₁) → outcome y st' = (.ok b, st₁') → R st₁ st₁' a b →
      Q st₁ st₁' a b) : Together Q (outcome x st) (outcome y st') := by
  rcases h.cases with ⟨a, b, st₁, st₁', hx, hy, hab⟩ | ⟨e, e', st₁, st₁', hx, hy, he⟩
  · exact of_ok hx hy (hRQ a b st₁ st₁' hx hy hab)
  · exact of_error hx hy he

end Together

theorem sameBuilt_iff_together {x y : Except Fault Node × Store} : SameBuilt x y ↔
    Together (fun st st' n m => n.type.plain = m.type.plain ∧
      SameAnswer ShapesAlike (st.slots.shapeOf (.node n)) (st'.slots.shapeOf (.node m))) x y :=
  Iff.rfl

end Build

/-! ## What two stores know of a value -/

/-- The same is known of the shapes of two values that have been made, each in its own store. -/
structure Store.SameShape (st st' : Store) (v w : Value) : Prop where
  shape : SameAnswer ShapesAlike (st.slots.shapeOf v) (st'.slots.shapeOf w)
  id_lt : ∀ n, v = .node n → n.id < st.next
  id_lt' : ∀ n, w = .node n → n.id < st'.next

/-- Two uses of one symbol along one dimension of values of which the same is known. -/
structure Store.SameUse (st st' : Store) (u v : Use) : Prop where
  symbol : u.symbol = v.symbol
  dimension : u.dimension = v.dimension
  array : st.SameShape st' u.array v.array

/-- A walk through either value gets as far, past the same uses. -/
structure Store.SameWalk (st st' : Store) (v w : Value) : Prop where
  wellIndexed : v.WellIndexed ↔ w.WellIndexed
  uses : List.Forall₂ (st.SameUse st') v.uses w.uses
  symbol : v.symbol? = w.symbol?

/-- Two nodes of one type, of whose shapes the same is known; and the same of what a walk through them meets, if `p`. -/
structure Store.Lookalike (p : Prop) (st st' : Store) (n m : Node) : Prop where
  type_eq : m.type.plain = n.type.plain
  shape : st.SameShape st' (.node n) (.node m)
  walk : p → st.SameWalk st' (.node n) (.node m)

/-- One literal, or two lookalikes. -/
inductive Store.LookalikeOperand (p : Prop) (st st' : Store) : Value → Value → Prop where
  | literal {v : Value} (h : v.isScalarLiteral = true) : LookalikeOperand p st st' v v
  | node {n m : Node} (h : st.Lookalike p st' n m) : LookalikeOperand p st st' (.node n) (.node m)

namespace Store

variable {p : Prop} {st st' st₁ st₁' : Store} {v w : Value} {n m : Node}

section Grown

variable (hg : st.Grown st₁) (hg' : st'.Grown st₁')

include hg hg'

theorem SameShape.grown (h : st.SameShape st' v w) : st₁.SameShape st₁' v w where
  shape := by
    rw [hg.shapeOf_eq h.id_lt, hg'.shapeOf_eq h.id_lt']
    exact h.shape
  id_lt n hn := Nat.lt_of_lt_of_le (h.id_lt n hn) hg.next_le
  id_lt' m hm := Nat.lt_of_lt_of_le (h.id_lt' m hm) hg'.next_le

theorem SameUse.grown {u u' : Use} (h : st.SameUse st' u u') : st₁.SameUse st₁' u u' :=
  ⟨h.symbol, h.dimension, h.array.grown hg hg'⟩

theorem SameWalk.grown (h : st.SameWalk st' v w) : st₁.SameWalk st₁' v w :=
  ⟨h.wellIndexed, h.uses.imp fun _ _ hu => hu.grown hg hg', h.symbol⟩

theorem Lookalike.grown (h : st.Lookalike p st' n m) : st₁.Lookalike p st₁' n m :=
  ⟨h.type_eq, h.shape.grown hg hg', fun hp => (h.walk hp).grown hg hg'⟩

theorem LookalikeOperand.grown (h : st.LookalikeOperand p st' v w) : st₁.LookalikeOperand p st₁' v w := by
  cases h with
  | literal h => exact .literal h
  | node h => exact .node (h.grown hg hg')

end Grown

theorem SameWalk.outputShape (h : st.SameWalk st' v w) (output : List OutputIndex) :
    SameAnswer ShapesAlike (Build.outcome (Build.outputShape output v) st).1
      (Build.outcome (Build.outputShape output w) st').1 :=
  Build.sameAnswer_outputShape h.wellIndexed (h.uses.imp fun _ _ hu => ⟨hu.symbol, hu.dimension, hu.array.shape⟩) output

namespace LookalikeOperand

theorem types (h : st.LookalikeOperand p st' v w) : TypesMatch v w := by
  cases h with
  | literal h => exact .literal h
  | node h => exact .node h.type_eq

theorem shape (h : st.LookalikeOperand p st' v w) : st.SameShape st' v w := by
  cases h with
  | literal h =>
    cases v with
    | bool | int | float | complex | scalar => exact ⟨ShapesAlike.refl _, by rintro n ⟨⟩, by rintro n ⟨⟩⟩
    | _ => cases h
  | node h => exact h.shape

theorem walk (h : st.LookalikeOperand p st' v w) (hp : p) : st.SameWalk st' v w := by
  cases h with
  | literal h =>
    obtain ⟨huses, hwell, -⟩ := Value.walk_of_literal h
    exact ⟨Iff.rfl, by rw [huses]; exact .nil, rfl⟩
  | node h => exact h.walk hp

end LookalikeOperand

end Store

/-! ## Answers of the rules -/

theorem mapM_id_of_shapesAlike {xs ys : List ShapeInfo} (h : List.Forall₂ ShapesAlike xs ys) :
    (xs.mapM id = none ∧ ys.mapM id = none) ∨
      ∃ ss ts, xs.mapM id = some ss ∧ ys.mapM id = some ts ∧
        List.Forall₂ (fun s t : Shape => t.plain = s.plain) ss ts := by
  cases hy : ys.mapM id with
  | none =>
    refine .inl ⟨?_, rfl⟩
    cases hx : xs.mapM id with
    | none => rfl
    | some ss =>
      obtain ⟨ts, hts, -⟩ := Vaguer.mapM_id (h.flip.imp fun _ _ hst => Vaguer.of_eq hst) hx
      rw [hy] at hts
      cases hts
  | some ts =>
    obtain ⟨ss, hss, hplain⟩ := Vaguer.mapM_id (h.imp fun _ _ hst => Vaguer.of_eq hst.symm) hy
    exact .inr ⟨ss, ts, hss, rfl, hplain⟩

section Rules

variable {p : Prop} {st st' : Store} {vs ws : List Value} (op : Value)

theorem Elementwise.sameAnswer_shape (h : List.Forall₂ (st.LookalikeOperand p st') vs ws) :
    SameAnswer ShapesAlike (shape st.slots op vs) (shape st'.slots op ws) := by
  unfold shape
  refine (SameAnswer.mapM (fun v w hvw => hvw.shape.shape) h).bind fun xs ys hxy => ?_
  rcases mapM_id_of_shapesAlike hxy with ⟨hx, hy⟩ | ⟨ss, ts, hx, hy, hst⟩
  · simp only [hx, hy]
    exact rfl
  · simp only [hx, hy]
    exact (sameAnswer_broadcastFor op hst).bind fun s t hplain => congrArg some hplain.symm

variable {l r l' r' : Value}

theorem MatrixProduct.sameAnswer_rank (hl : TypesMatch l l') (hr : TypesMatch r r') :
    SameAnswer Eq (rank op l r) (rank op l' r') := by
  unfold rank
  rw [hl.rank_eq, hr.rank_eq]
  cases l.rank with
  | error f => exact rfl
  | ok a =>
    cases r.rank with
    | error f => exact rfl
    | ok b =>
      cases a with
      | none => exact rfl
      | some a =>
        cases b with
        | none => exact rfl
        | some b =>
          simp only [bind, Except.bind]
          cases productRank? a b <;> exact rfl

theorem MatrixProduct.sameAnswer_shape (hl : st.SameShape st' l l') (hr : st.SameShape st' r r') :
    SameAnswer ShapesAlike (shape st.slots op l r) (shape st'.slots op l' r') := by
  rw [shape_eq, shape_eq]
  refine hl.shape.bind fun x x' hx => hr.shape.bind fun y y' hy => ?_
  cases optionRel_of_map_eq hx with
  | none => exact rfl
  | some ha =>
    cases optionRel_of_map_eq hy with
    | none => exact rfl
    | some hb =>
      exact (Shape.sameAnswer_product op l r l' r' ha.symm hb.symm).bind fun s t hst => congrArg some hst.symm

theorem Transposition.sameAnswer_shape (h : st.SameShape st' l l') :
    SameAnswer ShapesAlike (shape st.slots l) (shape st'.slots l') := by
  unfold shape
  refine h.shape.bind fun x x' hx => ?_
  cases optionRel_of_map_eq hx with
  | none => exact rfl
  | some ha => exact congrArg some (Shape.transpose_of_plain ha)

/-- One answer, or two that are shapes of which the same is known. -/
inductive AnswersAlike : Value → Value → Prop where
  | same (a : Value) : AnswersAlike a a
  | shapes {s t : ShapeInfo} (h : ShapesAlike s t) : AnswersAlike (.ofShape s) (.ofShape t)

theorem sameAnswer_ofRank {x y : Except Fault Rank} (h : SameAnswer Eq x y) :
    SameAnswer AnswersAlike (do return Value.ofRank (← x)) (do return Value.ofRank (← y)) :=
  h.bind fun a _ hab => hab ▸ .same (.ofRank a)

theorem sameAnswer_ofShape {x y : Except Fault ShapeInfo} (h : SameAnswer ShapesAlike x y) :
    SameAnswer AnswersAlike (do return Value.ofShape (← x)) (do return Value.ofShape (← y)) :=
  h.bind fun _ _ hst => .shapes hst

/-- **Every rule of the library answers alike for lookalikes**, or refuses them for the same. -/
theorem BuiltinRule.sameAnswer_respond (rule : BuiltinRule) (h : List.Forall₂ (st.LookalikeOperand p st') vs ws) :
    SameAnswer AnswersAlike (rule.respond st.slots op vs) (rule.respond st'.slots op ws) := by
  cases rule with
  | elementwiseNdims =>
    refine sameAnswer_ofRank ?_
    rw [Elementwise.rank_of_match (h.imp fun _ _ hvw => hvw.types)]
    exact .refl (fun _ => rfl) _
  | elementwiseShape => exact sameAnswer_ofShape (Elementwise.sameAnswer_shape op h)
  | matmulNdims =>
    rcases h with _ | ⟨hl, _ | ⟨hr, _ | _⟩⟩
    · exact rfl
    · exact rfl
    · exact sameAnswer_ofRank (MatrixProduct.sameAnswer_rank op hl.types hr.types)
    · exact rfl
  | matmulShape =>
    rcases h with _ | ⟨hl, _ | ⟨hr, _ | _⟩⟩
    · exact rfl
    · exact rfl
    · exact sameAnswer_ofShape (MatrixProduct.sameAnswer_shape op hl.shape hr.shape)
    · exact rfl
  | transposeNdims =>
    rcases h with _ | ⟨hl, _ | _⟩
    · exact rfl
    · refine sameAnswer_ofRank ?_
      unfold Transposition.rank
      rw [hl.types.rank_eq]
      exact .refl (fun _ => rfl) _
    · exact rfl
  | transposeShape =>
    rcases h with _ | ⟨hl, _ | _⟩
    · exact rfl
    · exact sameAnswer_ofShape (Transposition.sameAnswer_shape hl.shape)
    · exact rfl

namespace RuleBook

theorem sameAnswer_checkRank {a b : Value} (h : AnswersAlike a b) (vs ws : List Value) :
    SameAnswer Eq (checkRank op vs a) (checkRank op ws b) := by
  cases h with
  | same =>
    unfold checkRank
    split
    · split
      · exact rfl
      · exact rfl
    · exact rfl
  | @shapes s t h =>
    cases s <;> cases t <;> exact rfl

theorem sameAnswer_toShapeInfo {a b : Value} (h : AnswersAlike a b) :
    SameAnswer ShapesAlike a.toShapeInfo b.toShapeInfo := by
  cases h with
  | same => exact .refl ShapesAlike.refl _
  | shapes h =>
    rw [toShapeInfo_ofShape, toShapeInfo_ofShape]
    exact h

theorem builtin_rank_alike (h : List.Forall₂ (st.LookalikeOperand p st') vs ws) :
    ∃ x y, Build.outcome (builtin.rank op vs) st = (x, st) ∧ Build.outcome (builtin.rank op ws) st' = (y, st') ∧
      SameAnswer Eq x y := by
  cases hrule : builtin.rule? .ndims op vs.length with
  | none =>
    have hrule' := h.length_eq ▸ hrule
    unfold rank
    simp only [hrule, hrule']
    exact ⟨_, _, rfl, rfl, rfl⟩
  | some rule =>
    obtain ⟨r, rfl⟩ := builtin_rule hrule
    exact ⟨_, _, outcome_rank_of_reading hrule st, outcome_rank_of_reading (h.length_eq ▸ hrule) st',
      (r.sameAnswer_respond op h).bind fun _ _ hab => sameAnswer_checkRank op hab vs ws⟩

theorem builtin_shape_alike (h : List.Forall₂ (st.LookalikeOperand p st') vs ws) :
    ∃ x y, Build.outcome (builtin.shape op vs) st = (x, st) ∧ Build.outcome (builtin.shape op ws) st' = (y, st') ∧
      SameAnswer ShapesAlike x y := by
  cases hrule : builtin.rule? .shape op vs.length with
  | none =>
    have hrule' := h.length_eq ▸ hrule
    unfold shape
    simp only [hrule, hrule']
    exact ⟨_, _, rfl, rfl, rfl⟩
  | some rule =>
    obtain ⟨r, rfl⟩ := builtin_rule hrule
    exact ⟨_, _, outcome_shape_of_reading hrule st, outcome_shape_of_reading (h.length_eq ▸ hrule) st',
      (r.sameAnswer_respond op h).bind fun _ _ hab => sameAnswer_toShapeInfo hab⟩

end RuleBook

end Rules

end ArrayTyping
