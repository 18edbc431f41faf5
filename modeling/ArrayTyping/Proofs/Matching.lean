import ArrayTyping.Proofs.Applying
import ArrayTyping.Proofs.Marks
import ArrayTyping.Proofs.Resolution
/-!
# Matching — what two builds of one expression share

An expression is built in `st`, and once more in `st'` with less known of its shapes.  Two nodes match if they declare
the same type and the second shape is unknown or the first one, and if their index symbols are used alike on arrays
whose shapes compare in the same way.  Every constructor that builds from matching parts in `st` builds in `st'` too,
and what it builds matches.
-/
namespace ArrayTyping

open Build (outcome contribution item_ofElementType promotedScalarType_eq)

/-! ## What is known less of -/

/-- `y` is unknown, or the same as `x` up to what `f` leaves out. -/
def Vaguer {α β : Type} (f : α → β) (x y : Option α) : Prop := y = none ∨ y.map f = x.map f

namespace Vaguer

variable {α β : Type} {f : α → β} {x y : Option α}

theorem of_eq (h : y.map f = x.map f) : Vaguer f x y := .inr h

theorem refl (x : Option α) : Vaguer f x x := of_eq rfl

theorem of_some {b : α} (h : Vaguer f x (some b)) : ∃ a, x = some a ∧ f b = f a := by
  rcases h with h | h
  · cases h
  · obtain ⟨a, ha, hab⟩ := Option.map_eq_some_iff.1 h.symm
    exact ⟨a, ha, hab.symm⟩

theorem congr {x' y' : Option α} (h : Vaguer f x y) (hx : x'.map f = x.map f) (hy : y'.map f = y.map f) :
    Vaguer f x' y' := by
  rcases h with rfl | h
  · rw [Option.map_none, Option.map_eq_none_iff] at hy
    exact .inl hy
  · exact .inr (by rw [hy, h, hx])

theorem mapM_id {xs ys : List (Option α)} {bs : List α} (h : List.Forall₂ (Vaguer f) xs ys)
    (hy : ys.mapM id = some bs) :
    ∃ as, xs.mapM id = some as ∧ List.Forall₂ (fun a b => f b = f a) as bs := by
  rw [optionMapM_id_some] at hy
  subst hy
  induction bs generalizing xs with
  | nil =>
    cases h
    exact ⟨[], rfl, .nil⟩
  | cons b bs ih =>
    obtain ⟨x, xs, hb, hbs, rfl⟩ := List.forall₂_cons_right_iff.1 h
    obtain ⟨a, rfl, hab⟩ := of_some hb
    obtain ⟨as, has, hrel⟩ := ih hbs
    rw [optionMapM_id_some] at has
    subst has
    exact ⟨a :: as, optionMapM_id_some.2 rfl, .cons hab hrel⟩

end Vaguer

/-! ## Matching uses, nodes and values -/

/-- The nodes have shapes, of which the second is unknown or the first. -/
structure ShapesMatch (st st' : Store) (n m : Node) : Prop where
  id_lt : n.id < st.next
  id_lt' : m.id < st'.next
  shape : ∃ s t, st.slots.shapeOf (.node n) = .ok s ∧ st'.slots.shapeOf (.node m) = .ok t ∧ Vaguer Shape.plain s t

/-- The uses are of the same symbol and dimension, on nodes whose shapes match. -/
structure UsesMatch (st st' : Store) (u v : Use) : Prop where
  symbol : v.symbol.same u.symbol = true
  dimension : v.dimension = u.dimension
  array : ∃ n m, u.array = .node n ∧ v.array = .node m ∧ ShapesMatch st st' n m

/-- The nodes match in all that is ever asked of them. -/
structure NodesMatch (st st' : Store) (n m : Node) : Prop where
  type_eq : m.type.plain = n.type.plain
  shapes : ShapesMatch st st' n m
  uses : List.Forall₂ (UsesMatch st st') n.uses m.uses
  wellIndexed : n.WellIndexed ∧ m.WellIndexed
  symbol : Option.Rel (fun s t => t.same s = true) (Value.node n).symbol? (Value.node m).symbol?

/-- Operands match if they are one literal or matching nodes. -/
inductive ValuesMatch (st st' : Store) : Value → Value → Prop where
  | literal {v : Value} (h : v.isScalarLiteral = true) : ValuesMatch st st' v v
  | node {n m : Node} (h : NodesMatch st st' n m) : ValuesMatch st st' (.node n) (.node m)

inductive TypesMatch : Value → Value → Prop where
  | literal {v : Value} (h : v.isScalarLiteral = true) : TypesMatch v v
  | node {n m : Node} (h : m.type.plain = n.type.plain) : TypesMatch (.node n) (.node m)

section Grown

variable {st st' st₁ st₁' : Store} {n m : Node} {u v : Use}

theorem ShapesMatch.grown (h : ShapesMatch st st' n m) (hg : st.Grown st₁) (hg' : st'.Grown st₁') :
    ShapesMatch st₁ st₁' n m := by
  obtain ⟨s, t, hs, ht, hv⟩ := h.shape
  refine ⟨Nat.lt_of_lt_of_le h.id_lt hg.next_le, Nat.lt_of_lt_of_le h.id_lt' hg'.next_le, s, t, ?_, ?_, hv⟩
  · rw [Slots.shapeOf_congr (hg.kept _ h.id_lt), hs]
  · rw [Slots.shapeOf_congr (hg'.kept _ h.id_lt'), ht]

theorem UsesMatch.grown (h : UsesMatch st st' u v) (hg : st.Grown st₁) (hg' : st'.Grown st₁') :
    UsesMatch st₁ st₁' u v := by
  obtain ⟨n, m, hn, hm, hs⟩ := h.array
  exact ⟨h.symbol, h.dimension, n, m, hn, hm, hs.grown hg hg'⟩

theorem NodesMatch.grown (h : NodesMatch st st' n m) (hg : st.Grown st₁) (hg' : st'.Grown st₁') :
    NodesMatch st₁ st₁' n m where
  type_eq := h.type_eq
  shapes := h.shapes.grown hg hg'
  uses := h.uses.imp fun _ _ hu => hu.grown hg hg'
  wellIndexed := h.wellIndexed
  symbol := h.symbol

theorem ValuesMatch.grown {v w : Value} (h : ValuesMatch st st' v w) (hg : st.Grown st₁) (hg' : st'.Grown st₁') :
    ValuesMatch st₁ st₁' v w := by
  cases h with
  | literal h => exact .literal h
  | node h => exact .node (h.grown hg hg')

end Grown

namespace ValuesMatch

variable {st st' : Store} {v w : Value}

theorem uses (h : ValuesMatch st st' v w) : List.Forall₂ (UsesMatch st st') v.uses w.uses := by
  cases h with
  | literal h =>
    rw [(Value.walk_of_literal h).1]
    exact .nil
  | node h => exact h.uses

theorem wellIndexed (h : ValuesMatch st st' v w) : v.WellIndexed ∧ w.WellIndexed := by
  cases h with
  | literal h => exact ⟨(Value.walk_of_literal h).2.1, (Value.walk_of_literal h).2.1⟩
  | node h => exact h.wellIndexed

theorem symbol (h : ValuesMatch st st' v w) : Option.Rel (fun s t => t.same s = true) v.symbol? w.symbol? := by
  cases h with
  | literal h =>
    rw [(Value.walk_of_literal h).2.2.1]
    exact .none
  | node h => exact h.symbol

theorem shapeOf (h : ValuesMatch st st' v w) {s : ShapeInfo} (hs : st.slots.shapeOf v = .ok s) :
    ∃ t, st'.slots.shapeOf w = .ok t ∧ Vaguer Shape.plain s t := by
  cases h with
  | literal h =>
    refine ⟨s, ?_, Vaguer.refl s⟩
    rw [← hs]
    cases v with
    | bool | int | float | complex | scalar => rfl
    | _ => cases h
  | node h =>
    obtain ⟨s', t, hs', ht, hv⟩ := h.shapes.shape
    rw [hs] at hs'
    cases hs'
    exact ⟨t, ht, hv⟩

theorem types (h : ValuesMatch st st' v w) : TypesMatch v w := by
  cases h with
  | literal h => exact .literal h
  | node h => exact .node h.type_eq

end ValuesMatch

theorem typesMatch_of_match {st st' : Store} {vs ws : List Value} (h : List.Forall₂ (ValuesMatch st st') vs ws) :
    List.Forall₂ TypesMatch vs ws :=
  h.imp fun _ _ hv => hv.types

namespace TypesMatch

variable {v w : Value}

theorem declaredType (h : TypesMatch v w) {t : DeclaredType} (ht : v.declaredType = .ok t) :
    ∃ u, w.declaredType = .ok u ∧ u.plain = t.plain := by
  cases h with
  | literal h => exact ⟨t, ht, rfl⟩
  | node h =>
    cases ht
    exact ⟨_, rfl, h⟩

theorem rank_eq (h : TypesMatch v w) : w.rank = v.rank := by
  cases h with
  | literal h => rfl
  | node h => exact congrArg Except.ok (DeclaredType.rank_of_plain h)

theorem arrayType (h : TypesMatch v w) :
    w.arrayType?.map DeclaredType.plain = v.arrayType?.map DeclaredType.plain := by
  cases h with
  | literal h => rfl
  | node h =>
    unfold Value.arrayType? Node.isArray
    dsimp only
    rw [DeclaredType.isArray_of_plain h]
    split
    · exact congrArg some h
    · rfl

theorem isArrayTyped_eq (h : TypesMatch v w) : w.isArrayTyped = v.isArrayTyped := by
  cases h with
  | literal h => rfl
  | node h => exact DeclaredType.isArray_of_plain h

theorem isOperand (h : TypesMatch v w) : v.IsOperand ∧ w.IsOperand := by
  cases h with
  | literal h => exact ⟨.inl h, .inl h⟩
  | node h => exact ⟨.inr ⟨_, rfl⟩, .inr ⟨_, rfl⟩⟩

end TypesMatch

/-! ## Types of applications -/

section Operands

variable {st st' : Store} {vs ws : List Value}

theorem isOperand_of_match (h : List.Forall₂ TypesMatch vs ws) :
    (∀ v ∈ vs, v.IsOperand) ∧ ∀ w ∈ ws, w.IsOperand := by
  constructor
  · intro v hv
    obtain ⟨w, -, h⟩ := forall₂_exists_right h v hv
    exact h.isOperand.1
  · intro w hw
    obtain ⟨v, -, h⟩ := forall₂_exists_left h w hw
    exact h.isOperand.2

theorem any_isArrayTyped_of_match (h : List.Forall₂ TypesMatch vs ws) :
    ws.any Value.isArrayTyped = vs.any Value.isArrayTyped := by
  induction h with
  | nil => rfl
  | cons hv _ ih => rw [List.any_cons, List.any_cons, hv.isArrayTyped_eq, ih]

theorem arrayTypes_of_match (h : List.Forall₂ TypesMatch vs ws) :
    List.Forall₂ (fun t u : DeclaredType => u.plain = t.plain) (vs.filterMap Value.arrayType?)
      (ws.filterMap Value.arrayType?) :=
  List.rel_filterMap (fun _ _ hv => optionRel_of_map_eq hv.arrayType) h

theorem joinedContainer_of_match (h : List.Forall₂ TypesMatch vs ws) :
    joinedContainer ws = joinedContainer vs := by
  have hfilter : ∀ vs : List Value, joinedContainer vs =
      Container.fold ((vs.filterMap Value.arrayType?).filterMap DeclaredType.container?) := fun vs => by
    rw [joinedContainer, List.filterMap_filterMap]
  rw [hfilter, hfilter]
  refine congrArg Container.fold
    (List.forall₂_eq_eq_eq ▸ List.rel_filterMap (fun t u htu => ?_) (arrayTypes_of_match h)).symm
  rw [DeclaredType.container?_of_plain htu]
  cases t.container? with
  | none => exact .none
  | some k => exact .some rfl

theorem Dtype.Item.ofElementType_of_plain {e f : ElementType} (h : f.map Dtype.plain = e.map Dtype.plain) :
    (ofElementType f).plain = (ofElementType e).plain := by
  cases e with
  | none =>
    rw [Option.map_none, Option.map_eq_none_iff] at h
    rw [h]
  | some d =>
    obtain ⟨d', rfl, hd⟩ := Option.map_eq_some_iff.1 h
    exact congrArg strong hd

theorem joinedElementType_of_match (h : List.Forall₂ TypesMatch vs ws) :
    joinedElementType ws = joinedElementType vs := by
  refine Dtype.join_of_plain ?_
  rw [List.forall₂_map_left_iff, List.forall₂_map_right_iff]
  exact (arrayTypes_of_match h).imp fun t u htu =>
    Dtype.Item.ofElementType_of_plain (DeclaredType.eltype_of_plain htu)

theorem item_contribution_of_match {v w : Value} (h : TypesMatch v w) {i : Dtype.Item}
    (hi : (contribution v).item = .ok i) : ∃ j, (contribution w).item = .ok j ∧ j.plain = i.plain := by
  cases h with
  | literal h => exact ⟨i, hi, rfl⟩
  | node h =>
    rw [contribution, item_ofElementType] at hi ⊢
    cases hi
    exact ⟨_, rfl, Dtype.Item.ofElementType_of_plain (DeclaredType.eltype_of_plain h)⟩

theorem isUnknown_contribution_of_match {v w : Value} (h : TypesMatch v w) :
    (contribution w).isUnknown = (contribution v).isUnknown := by
  cases h with
  | literal h => rfl
  | node h =>
    have hunknown : ∀ e : ElementType, (Value.ofElementType e).isUnknown = (e.map Dtype.plain).isNone := fun e => by
      cases e <;> rfl
    rw [contribution, contribution, hunknown, hunknown, DeclaredType.eltype_of_plain h]

theorem joinElementTypes_of_match (h : List.Forall₂ TypesMatch vs ws) {e : ElementType}
    (he : joinElementTypes (vs.map contribution) = .ok e) : joinElementTypes (ws.map contribution) = .ok e := by
  have hany : (ws.map contribution).any Value.isUnknown = (vs.map contribution).any Value.isUnknown := by
    clear he
    induction h with
    | nil => rfl
    | cons hv _ ih =>
      rw [List.map_cons, List.map_cons, List.any_cons, List.any_cons, isUnknown_contribution_of_match hv, ih]
  unfold joinElementTypes at he ⊢
  rw [hany]
  split at he
  · rename_i hunknown
    rw [if_pos hunknown]
    exact he
  · rename_i hknown
    rw [if_neg hknown]
    obtain ⟨is, his, he⟩ := exceptBind_ok.1 he
    obtain ⟨js, hjs, hij⟩ := exceptMapM_related (R := fun x y => ∃ v w, TypesMatch v w ∧ x = contribution v ∧
        y = contribution w) (S := fun i j : Dtype.Item => j.plain = i.plain)
      (fun x y i ⟨v, w, hvw, hx, hy⟩ hi => hy ▸ item_contribution_of_match hvw (hx ▸ hi))
      (List.forall₂_map_left_iff.2 (List.forall₂_map_right_iff.2 (h.imp fun v w hvw => ⟨v, w, hvw, rfl, rfl⟩))) his
    rw [← he, hjs]
    exact congrArg Except.ok (Dtype.join_of_plain hij)

theorem promotedScalarType_of_match (h : List.Forall₂ TypesMatch vs ws) {t : DeclaredType}
    (ht : promotedScalarType vs = .ok t) : promotedScalarType ws = .ok t := by
  rw [promotedScalarType_eq] at ht ⊢
  cases he : joinElementTypes (vs.map contribution) with
  | error f =>
    rw [he] at ht
    cases ht
  | ok e => rw [joinElementTypes_of_match h he, ← ht, he]

/-! ## Answers of the rules -/

theorem Elementwise.rank_of_match (h : List.Forall₂ TypesMatch vs ws) : rank ws = rank vs := by
  have hranks : ws.mapM Value.rank = vs.mapM Value.rank := by
    induction h with
    | nil => rfl
    | cons hv _ ih => rw [List.mapM_cons, List.mapM_cons, hv.rank_eq, ih]
  unfold rank
  rw [hranks]

/-- Where one operand shape is unknown the broadcast is; where none is, it is the one that was known. -/
theorem Elementwise.shape_of_match (h : List.Forall₂ (ValuesMatch st st') vs ws) {op : Value} {s : ShapeInfo}
    (hs : shape st.slots op vs = .ok s) : ∃ t, shape st'.slots op ws = .ok t ∧ Vaguer Shape.plain s t := by
  unfold shape at hs ⊢
  obtain ⟨infos, hinfos, hs⟩ := exceptBind_ok.1 hs
  obtain ⟨infos', hinfos', hvague⟩ := exceptMapM_related (f := st.slots.shapeOf)
    (fun _ _ _ hv hx => hv.shapeOf hx) h hinfos
  rw [hinfos']
  cases hk : infos'.mapM id with
  | none => exact ⟨none, by simp only [bind, Except.bind, hk]; rfl, .inl rfl⟩
  | some known' =>
    obtain ⟨known, hknown, hplain⟩ := Vaguer.mapM_id hvague hk
    simp only [hknown] at hs
    obtain ⟨b, hb, hs⟩ := exceptBind_ok.1 hs
    cases exceptPure_ok.1 hs
    obtain ⟨b', hb', hbb⟩ := broadcast_of_plain hplain (broadcastFor_ok.1 hb)
    refine ⟨some b', ?_, .of_eq (congrArg some hbb)⟩
    simp only [bind, Except.bind, hk, broadcastFor_ok.2 hb']
    rfl

variable {l r l' r' : Value}

theorem MatrixProduct.rank_of_match (hl : ValuesMatch st st' l l') (hr : ValuesMatch st st' r r') {op : Value}
    {n : Rank}
    (h : rank op l r = .ok n) : rank op l' r' = .ok n := by
  unfold rank at h ⊢
  rw [hl.types.rank_eq, hr.types.rank_eq]
  obtain ⟨a, ha, h⟩ := exceptBind_ok.1 h
  obtain ⟨b, hb, h⟩ := exceptBind_ok.1 h
  simp only [bind, Except.bind, ha, hb]
  cases a with
  | none => exact h
  | some a =>
    cases b with
    | none => exact h
    | some b =>
      cases hp : productRank? a b with
      | none =>
        simp only [hp] at h
        cases h
      | some k =>
        simp only [hp] at h ⊢
        exact h

theorem MatrixProduct.shape_of_known {slots : Slots} {op : Value} {a b : Shape} (ha : slots.shapeOf l = .ok (some a))
    (hb : slots.shapeOf r = .ok (some b)) {s : ShapeInfo} :
    shape slots op l r = .ok s ↔ ∃ p, s = some p ∧ a.product b = .ok p := by
  unfold shape
  simp only [bind, Except.bind, ha, hb]
  cases a.product b with
  | ok p => exact ⟨fun h => ⟨p, (Except.ok.inj h).symm, rfl⟩, fun ⟨q, hq, h⟩ => by rw [hq, Except.ok.inj h]; rfl⟩
  | error e =>
    refine ⟨fun h => ?_, fun ⟨p, _, h⟩ => (nomatch h)⟩
    rcases e with _ | ⟨d, x, y⟩ | f
    · cases h
    · cases h
    · cases f <;> cases h

theorem MatrixProduct.shape_of_match (hl : ValuesMatch st st' l l') (hr : ValuesMatch st st' r r') {op : Value}
    {s : ShapeInfo} (h : shape st.slots op l r = .ok s) :
    ∃ t, shape st'.slots op l' r' = .ok t ∧ Vaguer Shape.plain s t := by
  have h₀ := h
  unfold shape at h₀
  obtain ⟨a, ha, h₀⟩ := exceptBind_ok.1 h₀
  obtain ⟨b, hb, -⟩ := exceptBind_ok.1 h₀
  obtain ⟨a', ha', hva⟩ := hl.shapeOf ha
  obtain ⟨b', hb', hvb⟩ := hr.shapeOf hb
  cases a' with
  | none => exact ⟨none, by unfold shape; simp only [bind, Except.bind, ha', hb']; rfl, .inl rfl⟩
  | some a' =>
    cases b' with
    | none => exact ⟨none, by unfold shape; simp only [bind, Except.bind, ha', hb']; rfl, .inl rfl⟩
    | some b' =>
      obtain ⟨a, rfl, haa⟩ := hva.of_some
      obtain ⟨b, rfl, hbb⟩ := hvb.of_some
      obtain ⟨p, rfl, hp⟩ := (shape_of_known ha hb).1 h
      obtain ⟨q, hq, hpq⟩ := Shape.product_of_plain haa hbb hp
      exact ⟨some q, (shape_of_known ha' hb').2 ⟨q, rfl, hq⟩, .of_eq (congrArg some hpq)⟩

theorem Transposition.shape_of_match (h : ValuesMatch st st' l l') {s : ShapeInfo} (hs : shape st.slots l = .ok s) :
    ∃ t, shape st'.slots l' = .ok t ∧ Vaguer Shape.plain s t := by
  unfold shape at hs ⊢
  obtain ⟨a, ha, hs⟩ := exceptBind_ok.1 hs
  cases exceptPure_ok.1 hs
  obtain ⟨a', ha', hv⟩ := h.shapeOf ha
  rw [ha']
  refine ⟨_, rfl, ?_⟩
  cases a' with
  | none => exact .inl rfl
  | some a' =>
    obtain ⟨a, rfl, haa⟩ := hv.of_some
    exact .of_eq (congrArg some (Shape.transpose_of_plain haa))

/-- Two answers that agree, or that are shapes of which the second is unknown or the first. -/
inductive AnswersMatch : Value → Value → Prop where
  | same (a : Value) : AnswersMatch a a
  | shapes {s t : ShapeInfo} (h : Vaguer Shape.plain s t) : AnswersMatch (.ofShape s) (.ofShape t)

/-- **Every rule of the library answers alike for matching operands.** -/
theorem BuiltinRule.respond_of_match (rule : BuiltinRule) (h : List.Forall₂ (ValuesMatch st st') vs ws) {op a : Value}
    (ha : rule.respond st.slots op vs = .ok a) : ∃ b, rule.respond st'.slots op ws = .ok b ∧ AnswersMatch a b := by
  cases rule with
  | elementwiseNdims =>
    refine ⟨a, ?_, .same a⟩
    show (do return Value.ofRank (← Elementwise.rank ws)) = _
    rw [Elementwise.rank_of_match (typesMatch_of_match h)]
    exact ha
  | elementwiseShape =>
    obtain ⟨s, hs, ha⟩ :=
      exceptBind_ok.1 (show (do return Value.ofShape (← Elementwise.shape st.slots op vs)) = _ from ha)
    cases exceptPure_ok.1 ha
    obtain ⟨t, ht, hv⟩ := Elementwise.shape_of_match h hs
    exact ⟨_, exceptBind_ok.2 ⟨t, ht, rfl⟩, .shapes hv⟩
  | matmulNdims =>
    rcases h with _ | ⟨hl, _ | ⟨hr, _ | _⟩⟩
    · cases ha
    · cases ha
    · obtain ⟨n, hn, ha⟩ := exceptBind_ok.1 (show (do return Value.ofRank (← MatrixProduct.rank op _ _)) = _ from ha)
      cases exceptPure_ok.1 ha
      exact ⟨_, exceptBind_ok.2 ⟨n, MatrixProduct.rank_of_match hl hr hn, rfl⟩, .same _⟩
    · cases ha
  | matmulShape =>
    rcases h with _ | ⟨hl, _ | ⟨hr, _ | _⟩⟩
    · cases ha
    · cases ha
    · obtain ⟨s, hs, ha⟩ :=
        exceptBind_ok.1 (show (do return Value.ofShape (← MatrixProduct.shape st.slots op _ _)) = _ from ha)
      cases exceptPure_ok.1 ha
      obtain ⟨t, ht, hv⟩ := MatrixProduct.shape_of_match hl hr hs
      exact ⟨_, exceptBind_ok.2 ⟨t, ht, rfl⟩, .shapes hv⟩
    · cases ha
  | transposeNdims =>
    rcases h with _ | ⟨hl, _ | _⟩
    · cases ha
    · refine ⟨a, ?_, .same a⟩
      show (do return Value.ofRank (← Value.rank _)) = _
      rw [hl.types.rank_eq]
      exact ha
    · cases ha
  | transposeShape =>
    rcases h with _ | ⟨hl, _ | _⟩
    · cases ha
    · obtain ⟨s, hs, ha⟩ :=
        exceptBind_ok.1 (show (do return Value.ofShape (← Transposition.shape st.slots _)) = _ from ha)
      cases exceptPure_ok.1 ha
      obtain ⟨t, ht, hv⟩ := Transposition.shape_of_match hl hs
      exact ⟨_, exceptBind_ok.2 ⟨t, ht, rfl⟩, .shapes hv⟩
    · cases ha

namespace RuleBook

/-- Which operands an answer is for makes no difference to whether it is a rank. -/
theorem checkRank_congr {op a : Value} {vs : List Value} {n : Nat} (h : checkRank op vs a = .ok n) (ws : List Value) :
    checkRank op ws a = .ok n := by
  unfold checkRank at h ⊢
  split at h
  · split at h
    · cases h
    · rename_i hk
      rw [if_neg hk]
      exact h
  · cases h

theorem builtin_rank_of_match (h : List.Forall₂ (ValuesMatch st st') vs ws) {op : Value} {n : Nat} {st₁ : Store}
    (hn : outcome (builtin.rank op vs) st = (.ok n, st₁)) :
    st₁ = st ∧ outcome (builtin.rank op ws) st' = (.ok n, st') := by
  cases hrule : builtin.rule? .ndims op vs.length with
  | none =>
    unfold rank at hn
    simp only [hrule] at hn
    cases hn
  | some rule =>
    obtain ⟨r, rfl⟩ := builtin_rule hrule
    rw [outcome_rank_of_reading hrule] at hn
    obtain ⟨hn', rfl⟩ := Prod.mk.inj hn
    obtain ⟨a, ha, hrank⟩ := exceptBind_ok.1 hn'
    obtain ⟨b, hb, hab⟩ := r.respond_of_match h ha
    refine ⟨rfl, ?_⟩
    rw [outcome_rank_of_reading (h.length_eq ▸ hrule), hb]
    cases hab with
    | same a => exact congrArg (·, st') (checkRank_congr hrank ws)
    | @shapes s t hv => cases s <;> cases hrank

theorem builtin_shape_of_match (h : List.Forall₂ (ValuesMatch st st') vs ws) {op : Value} {s : ShapeInfo} {st₁ : Store}
    (hs : outcome (builtin.shape op vs) st = (.ok s, st₁)) :
    st₁ = st ∧ ∃ t, outcome (builtin.shape op ws) st' = (.ok t, st') ∧ Vaguer Shape.plain s t := by
  cases hrule : builtin.rule? .shape op vs.length with
  | none =>
    unfold shape at hs
    simp only [hrule] at hs
    cases hs
  | some rule =>
    obtain ⟨r, rfl⟩ := builtin_rule hrule
    rw [outcome_shape_of_reading hrule] at hs
    obtain ⟨hs', rfl⟩ := Prod.mk.inj hs
    obtain ⟨a, ha, hshape⟩ := exceptBind_ok.1 hs'
    obtain ⟨b, hb, hab⟩ := r.respond_of_match h ha
    refine ⟨rfl, ?_⟩
    rw [outcome_shape_of_reading (h.length_eq ▸ hrule), hb]
    cases hab with
    | same a => exact ⟨s, congrArg (·, st') hshape, Vaguer.refl s⟩
    | @shapes s' t hv =>
      rw [toShapeInfo_ofShape] at hshape
      cases hshape
      exact ⟨t, congrArg (·, st') (toShapeInfo_ofShape t), hv⟩

end RuleBook

end Operands

end ArrayTyping
