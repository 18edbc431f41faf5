import ArrayTyping.Proofs.RuleAgreement
/-!
# KnownShapes — applications of the library's operators to operands of known shapes

An operand is a node, a literal or a concrete array, which becomes a constant.  If all operands have known shapes, an
application is built exactly if the rule gives these shapes one in common, and then it has this shape, the rank that is the
number of its axes, and the kinds of its array operands combined.
-/
namespace ArrayTyping

open Build (outcome operand arrayTerm finishedTerm apply)

/-- An operand that has been made, with a known shape of its declared rank. -/
structure Store.HasOperand (st : Store) (v : Value) (s : Shape) : Prop where
  shape_eq : st.slots.shapeOf v = .ok (some s)
  rank_eq : v.rank = .ok (some s.rank)
  id_lt : ∀ n, v = .node n → n.id < st.next

namespace Store.HasOperand

variable {st st' : Store} {v : Value} {s : Shape}

theorem cases (h : st.HasOperand v s) : v.IsOperand ∨ ∃ a, v = .array a := by
  obtain ⟨h, -, -⟩ := h
  cases v with
  | node n => exact .inl (.inr ⟨n, rfl⟩)
  | array a => exact .inr ⟨a, rfl⟩
  | bool | int | float | complex | scalar => exact .inl (.inl rfl)
  | _ => cases h

theorem grown (h : st.HasOperand v s) (hg : st.Grown st') : st'.HasOperand v s := by
  refine ⟨?_, h.rank_eq, fun n hn => Nat.lt_of_lt_of_le (h.id_lt n hn) hg.next_le⟩
  rw [← h.shape_eq]
  cases v with
  | node n => exact Slots.shapeOf_congr (hg.kept _ (h.id_lt n rfl))
  | _ => rfl

theorem ranked (h : st.HasOperand v s) : v.Ranked st.slots := by
  intro t ht
  cases h.shape_eq.symm.trans ht
  exact h.rank_eq

theorem of_known (hs : st.slots.shapeOf v = .ok (some s)) (hv : ∀ n, v = .node n → st.Holds n) :
    st.HasOperand v s := by
  have hranked : v.Ranked st.slots := by
    cases v with
    | node n => exact (hv n rfl).ranked_value
    | array a => exact Value.ranked_of_array a _
    | bool | int | float | complex | scalar => exact Value.ranked_of_literal rfl _
    | _ => cases hs
  exact ⟨hs, hranked s hs, fun n hn => (hv n hn).id_lt⟩

theorem of_array {n : Node} (h : st.HasArray n s) : st.HasOperand (.node n) s := by
  refine ⟨h.shape_eq, congrArg Except.ok h.rank_eq, fun m hm => ?_⟩
  cases hm
  exact h.id_lt

end Store.HasOperand

theorem Value.isArrayTyped_eq (v : Value) : v.isArrayTyped = v.arrayType?.isSome := by
  cases v with
  | node n => by_cases h : n.isArray = true <;> simp [isArrayTyped, arrayType?, h]
  | _ => rfl

theorem any_isArrayTyped_of_types {vs ws : List Value} (h : ws.map Value.arrayType? = vs.map Value.arrayType?) :
    ws.any Value.isArrayTyped = vs.any Value.isArrayTyped := by
  have hany : ∀ us : List Value, us.any Value.isArrayTyped = (us.map Value.arrayType?).any Option.isSome := by
    intro us
    rw [List.any_map]
    exact congrArg (us.any ·) (funext Value.isArrayTyped_eq)
  rw [hany, hany, h]

theorem joinedContainer_of_types {vs ws : List Value} (h : ws.map Value.arrayType? = vs.map Value.arrayType?) :
    joinedContainer ws = joinedContainer vs := by
  have hjoined : ∀ us : List Value, joinedContainer us =
      Container.fold ((us.map Value.arrayType?).filterMap (·.bind DeclaredType.container?)) := by
    intro us
    rw [List.filterMap_map]
    rfl
  rw [hjoined, hjoined, h]

/-! ## Taking operands -/

/-- What operands of known shapes become: operands of the same types and of shapes that differ in marks only. -/
structure Taken (st : Store) (vs : List Value) (ss : List Shape) (st' : Store) (ws : List Value) (ts : List Shape) :
    Prop where
  outcome_eq : outcome (vs.mapM operand) st = (.ok ws, st')
  grown : st.Grown st'
  isOperand : ∀ w ∈ ws, w.IsOperand
  known : List.Forall₂ st'.HasOperand ws ts
  plain_eq : List.Forall₂ (fun s t : Shape => t.plain = s.plain) ss ts
  types_eq : ws.map Value.arrayType? = vs.map Value.arrayType?

theorem Taken.again {st st' : Store} {vs ws : List Value} {ss ts : List Shape}
    (h : Taken st vs ss st' ws ts) : Taken st' ws ss st' ws ts where
  outcome_eq := outcome_operands h.isOperand st'
  grown := .of_slots_eq h.grown.wellFormed rfl (Nat.le_refl _)
  isOperand := h.isOperand
  known := h.known
  plain_eq := h.plain_eq
  types_eq := rfl

namespace Build

variable {st : Store} {v : Value} {s : Shape} {vs : List Value} {ss : List Shape}

/-- **An operand of known shape can be taken.** -/
theorem outcome_operand_known (hw : st.WellFormed) (h : st.HasOperand v s) :
    ∃ w st' t, outcome (operand v) st = (.ok w, st') ∧ st.Grown st' ∧ w.IsOperand ∧ st'.HasOperand w t ∧
      t.plain = s.plain ∧ w.arrayType? = v.arrayType? := by
  rcases h.cases with hv | ⟨a, rfl⟩
  · exact ⟨v, st, s, outcome_operand hv st, .of_slots_eq hw rfl (Nat.le_refl _), hv, h, rfl, rfl⟩
  · obtain ⟨n, st', hn⟩ := outcome_constant (.array a) hw h.shape_eq
    have hg := (grows_constant (.array a)).of_ok hw hn
    obtain ⟨d, info, info', hd, rfl, hinfo, hplain, hslots, hnext⟩ := constant_ok hn
    cases d with
    | scalar => cases hd
    | array b =>
      cases hd
      cases h.shape_eq.symm.trans hinfo
      obtain ⟨t, rfl, ht⟩ := Option.map_eq_some_iff.1 (hplain.trans (Option.map_some ..))
      refine ⟨.node (.constant st.next (.array a) (st.next + 1)), st', t, ?_, hg, .inr ⟨_, rfl⟩, ⟨?_, ?_, ?_⟩, ht, rfl⟩
      · rw [show operand (.array a) = (do return .node (← constant (.array a))) from rfl]
        exact outcome_bind_ok.2 ⟨_, _, hn, rfl⟩
      · exact Slots.shapeOf_of_slot (by rw [hslots]; exact Slots.get?_insert_self ..)
      · rw [Shape.rank_of_plain ht]
        exact h.rank_eq
      · intro m hm
        cases hm
        exact hnext

theorem exists_taken (hw : st.WellFormed) (h : List.Forall₂ st.HasOperand vs ss) :
    ∃ st' ws ts, Taken st vs ss st' ws ts := by
  induction vs generalizing st ss with
  | nil =>
    cases h
    exact ⟨st, [], [], rfl, .of_slots_eq hw rfl (Nat.le_refl _), fun w hw => (nomatch hw), .nil, .nil, rfl⟩
  | cons v vs ih =>
    obtain ⟨s, ss, hv, hvs, rfl⟩ := List.forall₂_cons_left_iff.1 h
    obtain ⟨w, st₁, t, h₁, hg₁, hop, hk, ht, htype⟩ := outcome_operand_known hw hv
    obtain ⟨st', ws, ts, hrest⟩ := ih hg₁.wellFormed (hvs.imp fun _ _ hx => hx.grown hg₁)
    refine ⟨st', w :: ws, t :: ts, ?_, hg₁.trans hrest.grown, List.forall_mem_cons.2 ⟨hop, hrest.isOperand⟩,
      .cons (hk.grown hrest.grown) hrest.known, .cons ht hrest.plain_eq, ?_⟩
    · exact outcome_mapM_cons_ok.2 ⟨w, st₁, ws, h₁, hrest.outcome_eq, rfl⟩
    · rw [List.map_cons, List.map_cons, htype, hrest.types_eq]

/-! ## Building from operands -/

variable {op : Value} {f : Callable} {ws : List Value} {ts : List Shape} {st' : Store}

/-- **An array term is built if its shape is**, from operands of known shapes. -/
theorem arrayTerm_of_shape (hop : op.callable? = some f) (h : Taken st vs ss st' ws ts)
    (hs : outcome (RuleBook.builtin.shape op ws) st' = (.ok (some s), st')) :
    ∃ n st'' t, outcome (arrayTerm .builtin op vs) st = (.ok n, st'') ∧ st''.HasArray n t ∧ t.plain = s.plain ∧
      n.type.container? = some (joinedContainer vs) := by
  have hranked : ∀ w ∈ ws, w.Ranked st'.slots := fun w hw => by
    obtain ⟨t, -, ht⟩ := forall₂_exists_right h.known w hw
    exact ht.ranked
  obtain ⟨rank, shape, hrank, hshape, -, -, hagree⟩ := RuleBook.outcome_builtin op ws st'
  have hr := hagree hranked s (congrArg Prod.fst (hshape.symm.trans hs))
  rw [hr] at hrank
  obtain ⟨n, st'', hn⟩ := outcome_finishedTerm hop ws s.rank (some s) h.grown.wellFormed
  have hfit : RankFits s.rank (some s) := fun t ht => by rw [Option.some.inj ht]
  obtain ⟨g, info, -, hnew, hplain, hslots, hnext⟩ := finishedTerm_ok hn
  obtain ⟨t, rfl, ht⟩ := Option.map_eq_some_iff.1 (hplain.trans (Option.map_some ..))
  refine ⟨n, st'', t, arrayTerm_ok.2 ⟨_, _, _, _, _, _, h.outcome_eq, hrank, hs, hfit, hn⟩,
    ⟨hnew.id_eq ▸ hnext, DeclaredType.isArray_of_plain hnew.type_eq, ?_, ?_⟩, ht, ?_⟩
  · rw [DeclaredType.rank_of_plain hnew.type_eq, DeclaredType.rank, Shape.rank_of_plain ht]
  · exact Slots.shapeOf_of_slot (by rw [hslots, Slots.get?_insert_self])
  · rw [DeclaredType.container?_of_plain hnew.type_eq, ← joinedContainer_of_types h.types_eq]
    rfl

theorem shape_of_arrayTerm (h : Taken st vs ss st' ws ts) {n : Node} {st'' : Store}
    (hn : outcome (arrayTerm .builtin op vs) st = (.ok n, st'')) :
    ∃ info, outcome (RuleBook.builtin.shape op ws) st' = (.ok info, st') := by
  obtain ⟨ws', st₁, r, st₂, info, st₃, h₁, h₂, h₃, -, -⟩ := arrayTerm_ok.1 hn
  cases h.outcome_eq.symm.trans h₁
  obtain ⟨rank, shape, hrank, hshape, -⟩ := RuleBook.outcome_builtin op ws st'
  cases hrank.symm.trans h₂
  cases hshape.symm.trans h₃
  exact ⟨info, h₃⟩

theorem arrayTerm_of_rank_error (h : Taken st vs ss st' ws ts) {e : Fault}
    (hr : outcome (RuleBook.builtin.rank op ws) st' = (.error e, st')) :
    outcome (arrayTerm .builtin op vs) st = (.error e, st') := by
  rw [arrayTerm_eq, outcome_bind_of_ok h.outcome_eq, outcome_bind_of_error hr]

theorem outcome_apply_known (h : Taken st vs ss st' ws ts) (ha : vs.any Value.isArrayTyped = true) :
    outcome (apply .builtin op vs) st = outcome (arrayTerm .builtin op ws) st' := by
  unfold apply
  rw [outcome_bind_of_ok h.outcome_eq, if_pos (by rw [any_isArrayTyped_of_types h.types_eq, ha])]

end Build

end ArrayTyping
