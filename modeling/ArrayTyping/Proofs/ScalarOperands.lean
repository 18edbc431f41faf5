import ArrayTyping.Proofs.Lookalikes
import ArrayTyping.Proofs.Profiles
/-!
# ScalarOperands — scalars among the operands of an operator on every element

What is built of arrays is told by the array operands alone.  A scalar has no container and no element type to
contribute, its rank is the least there is and its shape has no axis to align.  So scalars may be put in anywhere among
the operands: the same is built, or the operands are refused for the same.
-/
namespace ArrayTyping

open Build (outcome operand arrayTerm finishedTerm apply Together SameBuilt)

/-- The second list is the first with items of which `P` holds put in anywhere. -/
inductive Interspersed {α : Type} (P : α → Prop) : List α → List α → Prop where
  | nil : Interspersed P [] []
  | keep (a : α) {as bs : List α} (h : Interspersed P as bs) : Interspersed P (a :: as) (a :: bs)
  | insert {b : α} (hb : P b) {as bs : List α} (h : Interspersed P as bs) : Interspersed P as (b :: bs)

namespace Interspersed

variable {α β : Type} {P : α → Prop} {Q : β → Prop} {as bs : List α}

theorem subset (h : Interspersed P as bs) : as ⊆ bs := by
  induction h with
  | nil => exact List.Subset.refl _
  | keep a _ ih => exact List.cons_subset_cons a ih
  | insert _ _ ih => exact List.subset_cons_of_subset _ ih

theorem imp {P' : α → Prop} (hP : ∀ b, P b → P' b) (h : Interspersed P as bs) : Interspersed P' as bs := by
  induction h with
  | nil => exact .nil
  | keep a _ ih => exact .keep a ih
  | insert hb _ ih => exact .insert (hP _ hb) ih

theorem filterMap_eq {f : α → Option β} (hf : ∀ b, P b → f b = none) (h : Interspersed P as bs) :
    bs.filterMap f = as.filterMap f := by
  induction h with
  | nil => rfl
  | keep a _ ih => rw [List.filterMap_cons, List.filterMap_cons, ih]
  | insert hb _ ih => rw [List.filterMap_cons_none (hf _ hb), ih]

theorem foldl_eq {f : β → α → β} (hf : ∀ x b, P b → f x b = x) (h : Interspersed P as bs) (x : β) :
    bs.foldl f x = as.foldl f x := by
  induction h generalizing x with
  | nil => rfl
  | keep a _ ih => exact ih (f x a)
  | insert hb _ ih => rw [List.foldl_cons, hf x _ hb, ih]

theorem sameAnswer_mapM {f : α → Except Fault β} (hf : ∀ b, P b → ∃ y, f b = .ok y ∧ Q y) (h : Interspersed P as bs) :
    SameAnswer (Interspersed Q) (as.mapM f) (bs.mapM f) := by
  induction h with
  | nil => exact .nil
  | keep a _ ih =>
    rw [List.mapM_cons, List.mapM_cons]
    refine (SameAnswer.refl (R := Eq) (fun _ => rfl) (f a)).bind fun x y hxy => ih.bind fun xs ys h => ?_
    subst hxy
    exact .keep x h
  | insert hb _ ih =>
    obtain ⟨y, hy, hQ⟩ := hf _ hb
    -- Only the longer list takes a step here, so the answers are compared once both are there.
    rw [List.mapM_cons, hy]
    rcases ih.cases with ⟨xs, ys, hxs, hys, hxy⟩ | ⟨e, e', hxs, hys, he⟩
    · rw [hxs, hys]
      exact .insert hQ hxy
    · rw [hxs, hys]
      exact he

theorem optionMapM_id {os ps : List (Option β)} (h : Interspersed (fun o => ∃ y, o = some y ∧ Q y) os ps) :
    (∃ xs ys, os.mapM id = some xs ∧ ps.mapM id = some ys ∧ Interspersed Q xs ys) ∨
      (os.mapM id = none ∧ ps.mapM id = none) := by
  induction h with
  | nil => exact .inl ⟨[], [], rfl, rfl, .nil⟩
  | @keep o os ps _ ih =>
    simp only [List.mapM_cons]
    cases o with
    | none => exact .inr ⟨rfl, rfl⟩
    | some x =>
      rcases ih with ⟨xs, ys, hxs, hys, hxy⟩ | ⟨hxs, hys⟩
      · exact .inl ⟨x :: xs, x :: ys, by rw [hxs]; rfl, by rw [hys]; rfl, .keep x hxy⟩
      · exact .inr ⟨by rw [hxs]; rfl, by rw [hys]; rfl⟩
  | insert hb _ ih =>
    obtain ⟨y, rfl, hy⟩ := hb
    simp only [List.mapM_cons]
    rcases ih with ⟨xs, ys, hxs, hys, hxy⟩ | ⟨hxs, hys⟩
    · exact .inl ⟨xs, y :: ys, hxs, by rw [hys]; rfl, .insert hy hxy⟩
    · exact .inr ⟨hxs, by rw [hys]; rfl⟩

end Interspersed

/-! ## Scalars as operands -/

theorem DeclaredType.rank_of_scalar {t : DeclaredType} (h : t.isArray = false) : t.rank = some 0 := by
  cases t with
  | scalar => rfl
  | array => cases h

/-- A scalar that has been made, with a shape without axes: a literal, or a node with no shape attached but this. -/
structure Store.HasScalar (st : Store) (v : Value) : Prop where
  isScalar : v.isArrayTyped = false
  operand : ∃ s, st.HasOperand v s

namespace Store.HasScalar

variable {st st' : Store} {v : Value}

theorem of_literal (h : v.isScalarLiteral = true) : st.HasScalar v := by
  cases v with
  | bool | int | float | complex | scalar => exact ⟨rfl, .scalar, .of_known rfl fun _ hn => by cases hn⟩
  | _ => cases h

theorem of_unattached {n : Node} (hn : n.isArray = false) (hlt : n.id < st.next) (hs : st.slots.get? n.id = none) :
    st.HasScalar (.node n) := by
  refine ⟨hn, .scalar, Slots.shapeOf_of_scalar hs hn, congrArg Except.ok (DeclaredType.rank_of_scalar hn), ?_⟩
  rintro _ ⟨⟩
  exact hlt

theorem grown (h : st.HasScalar v) (hg : st.Grown st') : st'.HasScalar v := by
  obtain ⟨s, hs⟩ := h.operand
  exact ⟨h.isScalar, s, hs.grown hg⟩

theorem arrayType?_eq (h : st.HasScalar v) : v.arrayType? = none := by
  rw [← Option.not_isSome_iff_eq_none, ← Value.isArrayTyped_eq, h.isScalar]
  exact Bool.false_ne_true

theorem isOperand (h : st.HasScalar v) : v.IsOperand := by
  obtain ⟨s, hs⟩ := h.operand
  rcases hs.cases with hv | ⟨a, rfl⟩
  · exact hv
  · cases h.isScalar

theorem rank_eq (h : st.HasScalar v) : v.rank = .ok (some 0) := by
  rcases h.isOperand with hv | ⟨n, rfl⟩
  · cases v with
    | bool | int | float | complex | scalar => rfl
    | _ => cases hv
  · exact congrArg Except.ok (DeclaredType.rank_of_scalar h.isScalar)

theorem shape_eq (h : st.HasScalar v) : ∃ s, st.slots.shapeOf v = .ok (some s) ∧ s.axes = [] := by
  obtain ⟨s, hs⟩ := h.operand
  have hrank : some 0 = some s.rank := Except.ok.inj (h.rank_eq.symm.trans hs.rank_eq)
  exact ⟨s, hs.shape_eq, List.eq_nil_of_length_eq_zero (Option.some.inj hrank).symm⟩

end Store.HasScalar

section Facets

variable {st : Store} {vs ws : List Value} (h : Interspersed st.HasScalar vs ws)
include h

theorem arrayTypes_of_scalars : ws.filterMap Value.arrayType? = vs.filterMap Value.arrayType? :=
  h.filterMap_eq fun _ hb => hb.arrayType?_eq

theorem joinedElementType_of_scalars : joinedElementType ws = joinedElementType vs := by
  rw [joinedElementType, joinedElementType, arrayTypes_of_scalars h]

theorem joinedContainer_of_scalars : joinedContainer ws = joinedContainer vs := by
  unfold joinedContainer
  rw [h.filterMap_eq fun _ hb => by rw [hb.arrayType?_eq]; rfl]

/-- The rank of a scalar is the least, so the largest is that of the others. -/
theorem Elementwise.sameAnswer_rank_of_scalars : SameAnswer Eq (Elementwise.rank vs) (Elementwise.rank ws) := by
  have hscalar : ∀ v, st.HasScalar v → ∃ r, v.rank = .ok r ∧ ∃ n, r = some n ∧ n = 0 :=
    fun v hv => ⟨some 0, hv.rank_eq, 0, rfl, rfl⟩
  refine (h.sameAnswer_mapM hscalar).bind fun rs ts hranks => ?_
  show (rs.mapM id).map _ = (ts.mapM id).map _
  rcases hranks.optionMapM_id with ⟨ms, ns, hms, hns, hmn⟩ | ⟨hms, hns⟩
  · have hmax : ns.foldl max 0 = ms.foldl max 0 := by
      refine hmn.foldl_eq (fun n b hb => ?_) 0
      rw [hb, Nat.max_zero]
    rw [hms, hns, Option.map_some, Option.map_some, hmax]
  · rw [hms, hns]

end Facets

/-- Shapes without axes stand in no column, and broadcast without a trace. -/
theorem broadcast_of_scalars {ss ts : List Shape} (h : Interspersed (fun s => s.axes = []) ss ts) :
    broadcast ts = broadcast ss := by
  have hrank : Broadcast.rank ts = Broadcast.rank ss := by
    refine h.foldl_eq (fun n s hs => ?_) 0
    rw [Shape.rank, hs]
    exact Nat.max_zero n
  have hcolumn : ∀ n i, Broadcast.column n ts i = Broadcast.column n ss i := by
    refine fun n i => h.filterMap_eq fun s hs => ?_
    rw [hs, List.getElem?_nil, ite_self]
  have haxis : ∀ n, Broadcast.axisAt n ts = Broadcast.axisAt n ss := by
    intro n
    funext i
    rw [Broadcast.axisAt, Broadcast.axisAt, hcolumn]
  unfold broadcast
  simp only [hrank, haxis]

theorem Elementwise.sameAnswer_shape_of_scalars {st : Store} {vs ws : List Value} (h : Interspersed st.HasScalar vs ws)
    (op : Value) : SameAnswer Eq (Elementwise.shape st.slots op vs) (Elementwise.shape st.slots op ws) := by
  have hscalar : ∀ v, st.HasScalar v → ∃ i, st.slots.shapeOf v = .ok i ∧ ∃ s, i = some s ∧ s.axes = [] := by
    intro v hv
    obtain ⟨s, hs, haxes⟩ := hv.shape_eq
    exact ⟨some s, hs, s, rfl, haxes⟩
  unfold Elementwise.shape
  refine (h.sameAnswer_mapM hscalar).bind fun is js hinfos => ?_
  rcases hinfos.optionMapM_id with ⟨ss, ts, hss, hts, hshapes⟩ | ⟨hss, hts⟩
  · simp only [hss, hts, broadcastFor_eq, broadcast_of_scalars hshapes]
    exact .refl (fun _ => rfl) _
  · simp only [hss, hts]
    exact .refl (fun _ => rfl) _

namespace Build

variable {st base : Store} {op : Value} {vs ws : List Value}

theorem operands_of_scalars (h : Interspersed base.HasScalar vs ws) (st : Store) :
    Together (fun st₁ st₂ as bs => st₂ = st₁ ∧ Interspersed base.HasScalar as bs)
      (outcome (vs.mapM operand) st) (outcome (ws.mapM operand) st) := by
  induction h generalizing st with
  | nil => exact .of_ok rfl rfl ⟨rfl, .nil⟩
  | @keep v vs ws _ ih =>
    rw [List.mapM_cons, List.mapM_cons]
    rcases hv : outcome (operand v) st with ⟨f | a, st₁⟩
    · exact .of_error (outcome_bind_of_error hv) (outcome_bind_of_error hv) rfl
    · rw [outcome_bind_of_ok hv, outcome_bind_of_ok hv]
      refine (ih st₁).bind fun as bs st₂ st₃ _ _ hab => ?_
      exact .of_ok rfl rfl ⟨hab.1, .keep a hab.2⟩
  | @insert w hw vs ws _ ih =>
    rw [List.mapM_cons, outcome_bind_of_ok (outcome_operand hw.isOperand st)]
    rcases (ih st).cases with ⟨as, bs, st₁, st₂, has, hbs, hst, hab⟩ | ⟨f, g, st₁, st₂, has, hbs, hfg⟩
    · exact .of_ok has (outcome_bind_of_ok hbs) ⟨hst, .insert hw hab⟩
    · exact .of_error has (outcome_bind_of_error hbs) hfg

/-- Array terms of one rank and shape are the same if their operands have the same kinds and element types to join. -/
theorem sameBuilt_finishedTerm (op : Value) (hw : st.WellFormed) (hkind : joinedContainer ws = joinedContainer vs)
    (htype : joinedElementType ws = joinedElementType vs) (r : Nat) (s : ShapeInfo) :
    SameBuilt (outcome (finishedTerm op vs r s) st) (outcome (finishedTerm op ws r s) st) := by
  rw [sameBuilt_iff_together]
  cases hop : op.callable? with
  | none =>
    exact .of_error (outcome_bind_of_error (outcome_term_of_none hop vs _ st))
      (outcome_bind_of_error (outcome_term_of_none hop ws _ st)) rfl
  | some f =>
    obtain ⟨n, st₁, hx⟩ := outcome_finishedTerm hop vs r s hw
    obtain ⟨m, st₂, hy⟩ := outcome_finishedTerm hop ws r s hw
    obtain ⟨_, s', -, hn, hplain, hinsert, -⟩ := finishedTerm_ok hx
    obtain ⟨_, t', -, hm, hplain', hinsert', -⟩ := finishedTerm_ok hy
    refine .of_ok hx hy ⟨?_, ?_⟩
    · rw [hn.type_eq, hm.type_eq, hkind, htype]
    · rw [Slots.shapeOf_of_slot (by rw [hinsert, Slots.get?_insert_self]),
        Slots.shapeOf_of_slot (by rw [hinsert', Slots.get?_insert_self])]
      exact hplain.trans hplain'.symm

theorem sameBuilt_arrayTerm (hop : IsElementwise op) (hw : st.WellFormed) (h : Interspersed st.HasScalar vs ws)
    (hvs : ∀ v ∈ vs, v.IsOperand) (hws : ∀ w ∈ ws, w.IsOperand) :
    SameBuilt (outcome (arrayTerm .builtin op vs) st) (outcome (arrayTerm .builtin op ws) st) := by
  have hfinished := sameBuilt_finishedTerm op hw (joinedContainer_of_scalars h) (joinedElementType_of_scalars h)
  have hrank := sameAnswer_ofRank (Elementwise.sameAnswer_rank_of_scalars h)
  rw [sameBuilt_iff_together, arrayTerm_eq, arrayTerm_eq, outcome_bind_of_ok (outcome_operands hvs st),
    outcome_bind_of_ok (outcome_operands hws st)]
  refine .bind_reading (RuleBook.outcome_rank_of_reading (hop.rank_rule _) st)
    (RuleBook.outcome_rank_of_reading (hop.rank_rule _) st)
    (hrank.bind fun a b hab => RuleBook.sameAnswer_checkRank op hab vs ws) fun r r' hr => ?_
  refine .bind_reading (RuleBook.outcome_shape_of_answer (hop.shape_rule _) _ rfl)
    (RuleBook.outcome_shape_of_answer (hop.shape_rule _) _ rfl) (Elementwise.sameAnswer_shape_of_scalars h op)
    fun s s' hs => ?_
  subst hr hs
  cases s with
  | none => exact hfinished r none
  | some s =>
    dsimp only
    split
    · exact .of_error rfl rfl rfl
    · exact hfinished r (some s)

/-- **Scalars put in among the operands change nothing** in what an operator on every element builds of arrays. -/
theorem apply_sameBuilt_of_scalars (hop : IsElementwise op) (hw : st.WellFormed) (ha : vs.any Value.isArrayTyped = true)
    (h : Interspersed st.HasScalar vs ws) :
    SameBuilt (outcome (apply .builtin op vs) st) (outcome (apply .builtin op ws) st) := by
  rw [sameBuilt_iff_together]
  unfold apply
  refine (operands_of_scalars h st).bind fun as bs st₁ st₂ has hbs hab => ?_
  -- Concrete arrays have become constants in the meantime, the same ones in the same store.
  obtain ⟨rfl, hscalars⟩ := hab
  have hany : as.any Value.isArrayTyped = true := by
    rw [any_isArrayTyped_of_types (arrayTypes_of_operands has), ha]
  have hany' : bs.any Value.isArrayTyped = true := by
    obtain ⟨v, hv, hv'⟩ := List.any_eq_true.1 hany
    exact List.any_eq_true.2 ⟨v, hscalars.subset hv, hv'⟩
  have hgrown := (Grows.mapM grows_operand vs).of_ok hw has
  rw [if_pos hany, if_pos hany']
  exact sameBuilt_arrayTerm hop hgrown.wellFormed (hscalars.imp fun _ hv => hv.grown hgrown) (isOperand_of_outcome has)
    (isOperand_of_outcome hbs)

/-- A vector of small integers, alone and behind a complex literal and a scalar of unknown type. -/
theorem apply_sameBuilt_of_scalars_front :
    let vector : Value := .array ⟨Mark.unmarked, [some 2], some .int8, .filled (.int 0)⟩
    let add : Value := .callable (.primitive .add)
    ∃ x st n st', outcome (scalarSymbol (.ofString "x") .unknown) .empty = (.ok x, st) ∧
      outcome (apply .builtin add [vector]) st = (.ok n, st') ∧
      SameBuilt (outcome (apply .builtin add [vector]) st)
        (outcome (apply .builtin add [.complex 1 2 Mark.unmarked, .node (.symbol x), vector, .ofInt 300]) st) := by
  intro vector add
  obtain ⟨x, st, hx, hw, hscalar, hlt, hnone⟩ : ∃ x st,
      outcome (scalarSymbol (.ofString "x") .unknown) .empty = (.ok x, st) ∧ st.WellFormed ∧
      (Node.symbol x).isArray = false ∧ (Node.symbol x).id < st.next ∧ st.slots.get? (Node.symbol x).id = none :=
    ⟨_, _, rfl, fun _ _ => rfl, rfl, by decide, rfl⟩
  have hadd : IsElementwise add := .primitive (by decide)
  have hvector : st.HasOperand vector (.ofLengths [2]) := .of_known rfl (by simp [vector])
  obtain ⟨n, st', hn⟩ : ∃ n st', outcome (apply .builtin add [vector]) st = (.ok n, st') := by
    rcases hadd.apply_cases hw (.cons hvector .nil) rfl with ⟨s, n, st', t, -, hn, -⟩ | ⟨hno, -⟩
    · exact ⟨n, st', hn⟩
    · exact absurd rfl (hno (.ofLengths [2]))
  refine ⟨x, st, n, st', hx, hn, apply_sameBuilt_of_scalars hadd hw rfl ?_⟩
  have hx : st.HasScalar (.node (.symbol x)) := .of_unattached hscalar hlt hnone
  exact .insert (.of_literal rfl) (.insert hx (.keep _ (.insert (.of_literal rfl) .nil)))

end Build

end ArrayTyping
