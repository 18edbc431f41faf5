import ArrayTyping.Proofs.Lockstep
/-!
# Lookalikes — every constructor over parts of which the same is known

Two stores have grown out of one, and the same request is made in both, with lookalikes in place of one another and
everything else made before the stores went apart.  It is built in both or refused for the same in both, and the two
new nodes are lookalikes.  An indexing is met on a walk, and nothing below it: elements of lookalikes are walked through
alike whatever the lookalikes are made of.
-/
namespace ArrayTyping

open Build

/-! ## What was made before -/

mutual

theorem Node.nodes_of_uses : ∀ (n : Node) {u : Use}, u ∈ n.uses → u.array.nodes ⊆ n.nodes
  | .symbol _, _, h => by cases h
  | .constant _ _ _, _, h => by cases h
  | .term id op args am t tm, u, h => by
    have hargs : u.array.nodes ⊆ nodesOfAll args := by
      by_cases hop : op.isGetitem = true
      · cases args with
        | nil =>
          rw [Node.uses, if_pos hop] at h
          cases h
        | cons array keys =>
          rw [Node.uses_indexing hop] at h
          rw [(mem_keyUses h).1]
          exact nodes_subset_nodesOfAll List.mem_cons_self
      · rw [Node.uses_application (Bool.eq_false_iff.2 hop)] at h
        exact nodesOfAll_of_uses args h
    rw [Node.nodes]
    exact fun m hm => List.mem_cons_of_mem _ (List.mem_append_right _ (hargs hm))
  | .arrayOp id output om body reduce source k e tm, u, h => by
    rw [Node.uses] at h
    rw [Node.nodes]
    intro m hm
    refine List.mem_cons_of_mem _ ?_
    rcases List.mem_append.1 h with h | h
    · exact List.mem_append_left _ (List.mem_append_left _ (List.mem_append_right _ (Value.nodes_of_uses body h hm)))
    · exact List.mem_append_right _ (nodesOfSource_of_uses source h hm)
termination_by structural n => n

theorem Value.nodes_of_uses : ∀ (v : Value) {u : Use}, u ∈ v.uses → u.array.nodes ⊆ v.nodes
  | .node n, _, h => Node.nodes_of_uses n h
  | .none, _, h | .bool _, _, h | .int .., _, h | .float .., _, h | .complex .., _, h | .scalar .., _, h
  | .text .., _, h | .list .., _, h | .tuple .., _, h | .dict .., _, h | .range _, _, h | .slice .., _, h
  | .unknown, _, h | .shape _, _, h | .dtype _, _, h | .kind _, _, h | .code _, _, h | .type .., _, h | .array _, _, h
  | .object _, _, h | .callable _, _, h | .occurrence .., _, h | .view .., _, h | .space .., _, h | .registry _, _, h
  | .diagnostic .., _, h | .iterator .., _, h => by cases h
termination_by structural v => v

theorem nodesOfAll_of_uses : ∀ (vs : List Value) {u : Use}, u ∈ usesOfAll vs → u.array.nodes ⊆ nodesOfAll vs
  | [], _, h => by cases h
  | v :: vs, u, h => by
    rw [usesOfAll] at h
    rw [nodesOfAll]
    rcases List.mem_append.1 h with h | h
    · exact fun m hm => List.mem_append_left _ (Value.nodes_of_uses v h hm)
    · exact fun m hm => List.mem_append_right _ (nodesOfAll_of_uses vs h hm)
termination_by structural vs => vs

theorem nodesOfSource_of_uses : ∀ (source : Option Node) {u : Use}, u ∈ usesOfSource source →
    u.array.nodes ⊆ nodesOfSource source
  | none, _, h => by cases h
  | some n, _, h => Node.nodes_of_uses n h
termination_by structural source => source

end

/-- Two stores have grown out of one. -/
structure Store.Branches (base st st' : Store) : Prop where
  left : base.Grown st
  right : base.Grown st'

def Store.HasNodes (st : Store) (ns : List Node) : Prop := ∀ n ∈ ns, n.id < st.next

namespace Store.Branches

variable {base st st' st₁ st₁' : Store} {v : Value}

theorem grown (hb : base.Branches st st') (hg : st.Grown st₁) (hg' : st'.Grown st₁') : base.Branches st₁ st₁' :=
  ⟨hb.left.trans hg, hb.right.trans hg'⟩

theorem sameShape (hb : base.Branches st st') (hv : base.HasNodes v.nodes) : st.SameShape st' v v := by
  have hlt : ∀ n, v = .node n → n.id < base.next := by
    rintro n rfl
    exact hv n n.mem_nodes_self
  refine ⟨?_, fun n hn => Nat.lt_of_lt_of_le (hlt n hn) hb.left.next_le,
    fun n hn => Nat.lt_of_lt_of_le (hlt n hn) hb.right.next_le⟩
  rw [hb.left.shapeOf_eq hlt, hb.right.shapeOf_eq hlt]
  exact .refl ShapesAlike.refl _

theorem sameUses (hb : base.Branches st st') {us : List Use} (hus : ∀ u ∈ us, base.HasNodes u.array.nodes) :
    List.Forall₂ (st.SameUse st') us us :=
  List.forall₂_same.2 fun u hu => ⟨rfl, rfl, hb.sameShape (hus u hu)⟩

theorem sameWalk (hb : base.Branches st st') (hv : base.HasNodes v.nodes) : st.SameWalk st' v v :=
  ⟨Iff.rfl, hb.sameUses fun _ hu n hn => hv n (v.nodes_of_uses hu hn), rfl⟩

theorem lookalike (hb : base.Branches st st') {n : Node} (hn : base.HasNodes n.nodes) (p : Prop) :
    st.Lookalike p st' n n :=
  ⟨rfl, hb.sameShape (v := .node n) hn, fun _ => hb.sameWalk (v := .node n) hn⟩

end Store.Branches

/-! ## Arguments -/

/-- Lookalikes neither of which stands for an index: arrays, or nodes other than symbols. -/
structure Store.Standin (p : Prop) (st st' : Store) (n m : Node) : Prop extends st.Lookalike p st' n m where
  bare : n.isArray = true ∨ (Value.node n).symbol? = none ∧ (Value.node m).symbol? = none

/-- One argument in both stores: something made before, or lookalikes. -/
inductive Store.SameArgument (p : Prop) (base st st' : Store) : Value → Value → Prop where
  | shared {v : Value} (h : base.HasNodes v.nodes) : SameArgument p base st st' v v
  | standin {n m : Node} (h : st.Standin p st' n m) : SameArgument p base st st' (.node n) (.node m)

theorem Store.SameArgument.grown {p : Prop} {base st st' st₁ st₁' : Store} {v w : Value} (hg : st.Grown st₁)
    (hg' : st'.Grown st₁') (h : base.SameArgument p st st' v w) : base.SameArgument p st₁ st₁' v w := by
  cases h with
  | shared h => exact .shared h
  | standin h => exact .standin ⟨h.toLookalike.grown hg hg', h.bare⟩

theorem KeptOperand.shapeOf_eq {v w : Value} (h : KeptOperand v w) (slots : Slots) :
    slots.shapeOf w = slots.shapeOf v := by
  have hliteral : ∀ {v : Value}, v.isScalarLiteral = true → slots.shapeOf v = .ok (some .scalar) := fun {v} hv => by
    cases v with
    | bool | int | float | complex | scalar => rfl
    | _ => cases hv
  cases h with
  | node n => rfl
  | literal hv hw => rw [hliteral hv, hliteral hw]

theorem Store.SameShape.kept {st st' : Store} {v w a b : Value} (h : st.SameShape st' v w) (hv : KeptOperand v a)
    (hw : KeptOperand w b) : st.SameShape st' a b where
  shape := by
    rw [hv.shapeOf_eq, hw.shapeOf_eq]
    exact h.shape
  id_lt n hn := by
    subst hn
    cases hv with
    | node => exact h.id_lt n rfl
    | literal _ ha => cases ha
  id_lt' n hn := by
    subst hn
    cases hw with
    | node => exact h.id_lt' n rfl
    | literal _ hb => cases hb

namespace Build

variable {p : Prop} {st st' st₁ st₁' : Store} {n m : Node} {s t s' t' : ShapeInfo}

/-- The same is known of new nodes if it is of the shapes that were attached to them. -/
theorem sameShape_of_attached (hn : n.id < st.next) (hm : m.id < st'.next) (hs : st.slots.get? n.id = some s')
    (ht : st'.slots.get? m.id = some t') (hs' : s'.map Shape.plain = s.map Shape.plain)
    (ht' : t'.map Shape.plain = t.map Shape.plain) (h : ShapesAlike s t) : st.SameShape st' (.node n) (.node m) where
  shape := by
    rw [Slots.shapeOf_of_slot hs, Slots.shapeOf_of_slot ht]
    exact hs'.trans (h.trans ht'.symm)
  id_lt := by
    rintro _ ⟨⟩
    exact hn
  id_lt' := by
    rintro _ ⟨⟩
    exact hm

theorem outcome_constant_of_error (d : Datum) {f : Fault} (h : st.slots.shapeOf d.toValue = .error f) :
    ∃ st₁, outcome (constant d.toValue) st = (.error f, st₁) := by
  have hraw : outcome (rawConstant d.toValue) st =
      (.ok (.constant st.next d (st.next + 1)), { st with next := st.next + 1 + 1 }) := by
    cases d <;> rfl
  unfold constant
  rw [outcome_bind_of_ok hraw, outcome_bind, outcome_shapeOf, show Slots.shapeOf _ d.toValue = _ from h]
  exact ⟨_, rfl⟩

theorem constant_together (hw : st.WellFormed) (hw' : st'.WellFormed) (d : Datum) :
    Together (Store.Lookalike p) (outcome (constant d.toValue) st) (outcome (constant d.toValue) st') := by
  have hslots := shapeOf_toValue d st.slots st'.slots
  cases hs : st.slots.shapeOf d.toValue with
  | error f =>
    obtain ⟨st₁, hx⟩ := outcome_constant_of_error d hs
    obtain ⟨st₁', hy⟩ := outcome_constant_of_error d (hslots.trans hs)
    exact .of_error hx hy rfl
  | ok info =>
    obtain ⟨n, st₁, hx⟩ := outcome_constant d hw hs
    obtain ⟨m, st₁', hy⟩ := outcome_constant d hw' (hslots.trans hs)
    obtain ⟨e, s, s', he, rfl, hshape, hplain, hinsert, hlt⟩ := constant_ok hx
    obtain ⟨e', t, t', he', rfl, hshape', hplain', hinsert', hlt'⟩ := constant_ok hy
    obtain ⟨rfl, rfl⟩ : d = e ∧ d = e' := by
      constructor
      · cases d <;> cases e <;> cases he <;> rfl
      · cases d <;> cases e' <;> cases he' <;> rfl
    rw [hs] at hshape
    rw [hslots, hs] at hshape'
    cases hshape
    cases hshape'
    refine .of_ok hx hy ⟨rfl, ?_, fun _ => ⟨Iff.rfl, .nil, rfl⟩⟩
    refine sameShape_of_attached hlt hlt' ?_ ?_ hplain hplain' (ShapesAlike.refl _)
    · rw [hinsert]
      exact Slots.get?_insert_self _ _ _
    · rw [hinsert']
      exact Slots.get?_insert_self _ _ _

theorem operand_together {base : Store} (hb : base.Branches st st') {v w : Value}
    (h : base.SameArgument p st st' v w) :
    Together (Store.LookalikeOperand p) (outcome (operand v) st) (outcome (operand w) st') := by
  cases h with
  | standin h => exact .of_ok rfl rfl (.node h.toLookalike)
  | shared h =>
    cases v with
    | node n => exact .of_ok rfl rfl (.node (hb.lookalike h p))
    | bool | int | float | complex | scalar => exact .of_ok rfl rfl (.literal rfl)
    | array a =>
      exact (constant_together hb.left.wellFormed hb.right.wellFormed (.array a)).bind
        fun n m st₁ st₁' _ _ hnm => .of_ok rfl rfl (.node hnm)
    | _ => exact .of_error rfl rfl rfl

theorem operands_together {base : Store} (hb : base.Branches st st') {vs ws : List Value}
    (h : List.Forall₂ (base.SameArgument p st st') vs ws) :
    Together (fun st₁ st₁' => List.Forall₂ (st₁.LookalikeOperand p st₁')) (outcome (vs.mapM operand) st)
      (outcome (ws.mapM operand) st') := by
  induction vs generalizing st st' ws with
  | nil =>
    cases h
    exact .of_ok rfl rfl .nil
  | cons v vs ih =>
    obtain ⟨w, ws, hvw, hvws, rfl⟩ := List.forall₂_cons_left_iff.1 h
    rw [List.mapM_cons, List.mapM_cons]
    refine (operand_together hb hvw).bind fun a b st₁ st₁' hx hy hab => ?_
    have hg := (grows_operand v).of_ok hb.left.wellFormed hx
    have hg' := (grows_operand w).of_ok hb.right.wellFormed hy
    have hrest := ih (hb.grown hg hg') (hvws.imp fun _ _ harg => harg.grown hg hg')
    refine hrest.bind fun as bs st₂ st₂' hxs hys habs => .of_ok rfl rfl (.cons (hab.grown ?_ ?_) habs)
    · exact (Grows.mapM grows_operand vs).of_ok hg.wellFormed hxs
    · exact (Grows.mapM grows_operand ws).of_ok hg'.wellFormed hys

/-! ## Applications -/

section Terms

variable {vs ws : List Value} {f : Callable} {d e : DeclaredType}

theorem wellIndexedAll_congr (h : List.Forall₂ (st.SameWalk st') vs ws) : wellIndexedAll vs ↔ wellIndexedAll ws := by
  induction h with
  | nil => exact Iff.rfl
  | cons hvw _ ih => exact and_congr hvw.wellIndexed ih

theorem sameUse_keyUses {a b : Value} (h : st.SameShape st' a b)
    (hks : List.Forall₂ (fun v w : Value => v.symbol? = w.symbol?) vs ws) (k : Nat) :
    List.Forall₂ (st.SameUse st') (keyUses a k vs) (keyUses b k ws) := by
  refine keyUses_related (S := Eq) (fun _ _ _ hst => ⟨hst, rfl, h⟩) (hks.imp fun v w hvw => ?_) k
  rw [hvw]
  cases w.symbol? with
  | none => exact .none
  | some s => exact .some rfl

/-- Elements are walked through alike if the same is known of what is indexed, and its keys are the same symbols. -/
theorem sameWalk_of_elements (hf : f.isGetitem = true) {a b : Value} (hn : IsNewTerm n f (a :: vs) d st₁)
    (hm : IsNewTerm m f (b :: ws) e st₁') (hvs : ∀ v ∈ a :: vs, v.IsOperand) (hws : ∀ w ∈ b :: ws, w.IsOperand)
    (hab : st.SameShape st' a b) (hks : List.Forall₂ (fun v w : Value => v.symbol? = w.symbol?) vs ws) :
    st.SameWalk st' (.node n) (.node m) := by
  obtain ⟨a', ha, huses, hwell⟩ := hn.walk_getitem hf hvs
  obtain ⟨b', hb, huses', hwell'⟩ := hm.walk_getitem hf hws
  refine ⟨iff_of_true hwell hwell', ?_, hn.symbol?_eq.trans hm.symbol?_eq.symm⟩
  show List.Forall₂ (st.SameUse st') n.uses m.uses
  rw [huses, huses']
  exact sameUse_keyUses (hab.kept ha hb) hks 1

theorem sameWalk_of_terms (hn : IsNewTerm n f vs d st₁) (hm : IsNewTerm m f ws e st₁')
    (h : List.Forall₂ (st.LookalikeOperand p st') vs ws) (hp : p) : st.SameWalk st' (.node n) (.node m) := by
  obtain ⟨hvs, hws⟩ := isOperand_of_match (h.imp fun _ _ hvw => hvw.types)
  have hwalk : List.Forall₂ (st.SameWalk st') vs ws := h.imp fun _ _ hvw => hvw.walk hp
  cases hf : f.isGetitem with
  | true =>
    cases h with
    | nil =>
      obtain ⟨huses, hwell⟩ := hn.walk_nothing hf
      obtain ⟨huses', hwell'⟩ := hm.walk_nothing hf
      refine ⟨iff_of_false hwell hwell', ?_, hn.symbol?_eq.trans hm.symbol?_eq.symm⟩
      show List.Forall₂ (st.SameUse st') n.uses m.uses
      rw [huses, huses']
      exact .nil
    | cons hab hrest =>
      exact sameWalk_of_elements hf hn hm hvs hws hab.shape (hrest.imp fun _ _ hvw => (hvw.walk hp).symbol)
  | false =>
    obtain ⟨huses, hwell⟩ := hn.walk hf hvs
    obtain ⟨huses', hwell'⟩ := hm.walk hf hws
    refine ⟨hwell.trans ((wellIndexedAll_congr hwalk).trans hwell'.symm), ?_, hn.symbol?_eq.trans hm.symbol?_eq.symm⟩
    show List.Forall₂ (st.SameUse st') n.uses m.uses
    rw [huses, huses', usesOfAll_eq, usesOfAll_eq]
    exact List.rel_flatMap hwalk fun _ _ hvw => hvw.uses

theorem standin_of_scalars (hw : st.WellFormed) (hw' : st'.WellFormed) (hn : IsNewTerm n f vs d st)
    (hm : IsNewTerm m f ws e st') (hd : d.isArray = false) (hde : e.plain = d.plain) (hs : st₁.slots = st.slots)
    (hs' : st₁'.slots = st'.slots) (hlt : st.next < st₁.next) (hlt' : st'.next < st₁'.next)
    (hwalk : p → st.SameWalk st' (.node n) (.node m)) : st₁.Standin p st₁' n m where
  type_eq := by rw [hn.type_eq, hm.type_eq, hde]
  shape := by
    have hscalar : st₁.slots.shapeOf (.node n) = .ok (some .scalar) := by
      refine Slots.shapeOf_of_scalar ?_ ((DeclaredType.isArray_of_plain hn.type_eq).trans hd)
      rw [hs, hn.id_eq]
      exact hw _ (Nat.le_refl _)
    have hscalar' : st₁'.slots.shapeOf (.node m) = .ok (some .scalar) := by
      refine Slots.shapeOf_of_scalar ?_ ((DeclaredType.isArray_of_plain (hm.type_eq.trans hde)).trans hd)
      rw [hs', hm.id_eq]
      exact hw' _ (Nat.le_refl _)
    refine ⟨?_, ?_, ?_⟩
    · rw [hscalar, hscalar']
      exact ShapesAlike.refl _
    · rintro _ ⟨⟩
      exact hn.id_eq ▸ hlt
    · rintro _ ⟨⟩
      exact hm.id_eq ▸ hlt'
  walk hp := (hwalk hp).grown (.of_slots_eq hw hs (Nat.le_of_lt hlt)) (.of_slots_eq hw' hs' (Nat.le_of_lt hlt'))
  bare := .inr ⟨hn.symbol?_eq, hm.symbol?_eq⟩

variable {op : Value}

theorem outcome_term_of_none (hop : op.callable? = none) (args : List Value) (t : DeclaredType) (st : Store) :
    outcome (term op args t) st = (.error (.refusal (.operatorNotCallable op)), st) := by
  unfold term
  simp only [hop]
  rfl

theorem finishedTerm_together (hw : st.WellFormed) (hw' : st'.WellFormed)
    (h : List.Forall₂ (st.LookalikeOperand p st') vs ws) (r : Nat) (hst : ShapesAlike s t) :
    Together (Store.Standin p) (outcome (finishedTerm op vs r s) st) (outcome (finishedTerm op ws r t) st') := by
  cases hop : op.callable? with
  | none =>
    exact .of_error (outcome_bind_of_error (outcome_term_of_none hop vs _ st))
      (outcome_bind_of_error (outcome_term_of_none hop ws _ st')) rfl
  | some f =>
    obtain ⟨n, st₁, hx⟩ := outcome_finishedTerm hop vs r s hw
    obtain ⟨m, st₁', hy⟩ := outcome_finishedTerm hop ws r t hw'
    obtain ⟨g, s', hg, hn, hplain, hinsert, hlt⟩ := finishedTerm_ok hx
    obtain ⟨g', t', hg', hm, hplain', hinsert', hlt'⟩ := finishedTerm_ok hy
    obtain rfl : g = g' := Option.some.inj (hg.symm.trans hg')
    have htypes : List.Forall₂ TypesMatch vs ws := h.imp fun _ _ hvw => hvw.types
    have hgrown := (grows_finishedTerm op vs r s).of_ok hw hx
    have hgrown' := (grows_finishedTerm op ws r t).of_ok hw' hy
    refine .of_ok hx hy ⟨⟨?_, ?_, fun hp => (sameWalk_of_terms hn hm h hp).grown hgrown hgrown'⟩,
      .inr ⟨hn.symbol?_eq, hm.symbol?_eq⟩⟩
    · rw [hn.type_eq, hm.type_eq, joinedContainer_of_match htypes, joinedElementType_of_match htypes]
    · refine sameShape_of_attached (hn.id_eq ▸ hlt) (hm.id_eq ▸ hlt') ?_ ?_ hplain hplain' hst
      · rw [hinsert, Slots.get?_insert_self]
      · rw [hinsert', Slots.get?_insert_self]

/-- **Array terms over lookalikes.** -/
theorem arrayTerm_together (hw : st.WellFormed) (hw' : st'.WellFormed)
    (h : List.Forall₂ (st.LookalikeOperand p st') vs ws) :
    Together (Store.Standin p) (outcome (arrayTerm .builtin op vs) st) (outcome (arrayTerm .builtin op ws) st') := by
  obtain ⟨hvs, hws⟩ := isOperand_of_match (h.imp fun _ _ hvw => hvw.types)
  obtain ⟨x, y, hx, hy, hxy⟩ := RuleBook.builtin_rank_alike op h
  obtain ⟨x', y', hx', hy', hxy'⟩ := RuleBook.builtin_shape_alike op h
  rw [arrayTerm_eq, arrayTerm_eq, outcome_bind_of_ok (outcome_operands hvs st),
    outcome_bind_of_ok (outcome_operands hws st')]
  refine .bind_reading hx hy hxy fun r r' hr => .bind_reading hx' hy' hxy' fun s t hst => ?_
  subst hr
  cases optionRel_of_map_eq hst with
  | none => exact finishedTerm_together hw hw' h r hst
  | some hplain =>
    dsimp only
    rw [Shape.rank_of_plain hplain]
    split
    · exact .of_error rfl rfl rfl
    · exact finishedTerm_together hw hw' h r hst

/-- **Applications of one operator to the same arguments, or to lookalikes.** -/
theorem apply_together {base : Store} (hb : base.Branches st st')
    (h : List.Forall₂ (base.SameArgument p st st') vs ws) :
    Together (Store.Standin p) (outcome (apply .builtin op vs) st) (outcome (apply .builtin op ws) st') := by
  refine (operands_together hb h).bind fun as bs st₁ st₁' hx hy hab => ?_
  have hw := ((Grows.mapM grows_operand vs).of_ok hb.left.wellFormed hx).wellFormed
  have hw' := ((Grows.mapM grows_operand ws).of_ok hb.right.wellFormed hy).wellFormed
  have htypes : List.Forall₂ TypesMatch as bs := hab.imp fun _ _ hvw => hvw.types
  rw [any_isArrayTyped_of_match htypes]
  split
  · exact arrayTerm_together hw hw' hab
  · obtain ⟨e, he⟩ := promotedScalarType_operands (isOperand_of_match htypes).1
    rw [outcome_bind_of_ok (outcome_lift_ok.2 ⟨he, rfl⟩),
      outcome_bind_of_ok (outcome_lift_ok.2 ⟨promotedScalarType_of_match htypes he, rfl⟩)]
    cases hop : op.callable? with
    | none => exact .of_error (outcome_term_of_none hop as _ st₁) (outcome_term_of_none hop bs _ st₁') rfl
    | some f =>
      obtain ⟨n, st₂, hx, hn, hs, hlt⟩ := outcome_term hop as (.scalar e) st₁
      obtain ⟨m, st₂', hy, hm, hs', hlt'⟩ := outcome_term hop bs (.scalar e) st₁'
      exact .of_ok hx hy
        (standin_of_scalars hw hw' hn hm rfl rfl hs hs' hlt hlt' fun hp => sameWalk_of_terms hn hm hab hp)

end Terms

/-! ## Elements -/

theorem isOperand_of_indexKey {v k : Value} (h : indexKey v = .ok k) : k.IsOperand := by
  unfold indexKey at h
  split at h
  · cases h
  · cases h
  · cases h
    exact .inl rfl
  · split at h
    · cases h
    · cases h
      exact .inr ⟨_, rfl⟩
  · split at h
    · cases h
      exact .inl rfl
    · cases h

structure SameKey (v w : Value) : Prop where
  symbol : v.symbol? = w.symbol?
  operands : v.IsOperand ∧ w.IsOperand

theorem sameAnswer_indexKey {base : Store} {v w : Value} (h : base.SameArgument p st st' v w) :
    SameAnswer SameKey (indexKey v) (indexKey w) := by
  cases h with
  | shared =>
    cases hk : indexKey v with
    | error f => exact rfl
    | ok k => exact ⟨rfl, isOperand_of_indexKey hk, isOperand_of_indexKey hk⟩
  | @standin n m h =>
    have harray : m.isArray = n.isArray := DeclaredType.isArray_of_plain h.type_eq
    unfold indexKey
    dsimp only
    rw [harray]
    split
    · exact rfl
    · rename_i hscalar
      obtain ⟨hn, hm⟩ := h.bare.resolve_left hscalar
      exact ⟨hn.trans hm.symm, .inr ⟨n, rfl⟩, .inr ⟨m, rfl⟩⟩

/-- **Elements of the same array, or of lookalikes, at the same keys, or at lookalikes**: whatever these are made of, a
walk through the elements meets the same. -/
theorem index_together {q r : Prop} {base : Store} (hb : base.Branches st st') {array array' key key' : Value}
    (ha : base.SameArgument p st st' array array')
    (hk : List.Forall₂ (base.SameArgument q st st') (indexKeys key) (indexKeys key')) :
    Together (Store.Standin r) (outcome (index array key) st) (outcome (index array' key') st') := by
  refine (operand_together hb ha).bind fun a b st₁ st₁' hx hy hab => ?_
  have hw := ((grows_operand array).of_ok hb.left.wellFormed hx).wellFormed
  have hw' := ((grows_operand array').of_ok hb.right.wellFormed hy).wellFormed
  have htype := hab.types.arrayType
  cases hd : a.arrayType? with
  | none =>
    rw [hd, Option.map_none, Option.map_eq_none_iff] at htype
    simp only [htype]
    exact .of_error rfl rfl rfl
  | some d =>
    rw [hd] at htype
    obtain ⟨e, he, hde⟩ := Option.map_eq_some_iff.1 htype
    simp only [he]
    refine .bind_reading (outcome_mapM_lift indexKey _ st₁) (outcome_mapM_lift indexKey _ st₁')
      (SameAnswer.mapM (fun _ _ hvw => sameAnswer_indexKey hvw) hk) fun ks ks' hks => ?_
    obtain ⟨n, st₂, hx, hn, hs, hlt⟩ := outcome_term
      (show (Value.callable (.primitive .getitem)).callable? = some _ from rfl) (a :: ks) (.scalar d.eltype) st₁
    obtain ⟨m, st₂', hy, hm, hs', hlt'⟩ := outcome_term
      (show (Value.callable (.primitive .getitem)).callable? = some _ from rfl) (b :: ks') (.scalar e.eltype) st₁'
    have hoperands : (∀ v ∈ a :: ks, v.IsOperand) ∧ ∀ w ∈ b :: ks', w.IsOperand := by
      refine ⟨List.forall_mem_cons.2 ⟨hab.types.isOperand.1, fun k hk => ?_⟩,
        List.forall_mem_cons.2 ⟨hab.types.isOperand.2, fun k hk => ?_⟩⟩
      · obtain ⟨k', -, h⟩ := forall₂_exists_right hks k hk
        exact h.operands.1
      · obtain ⟨k', -, h⟩ := forall₂_exists_left hks k hk
        exact h.operands.2
    refine .of_ok hx hy (standin_of_scalars hw hw' hn hm rfl ?_ hs hs' hlt hlt' fun _ => ?_)
    · exact congrArg DeclaredType.scalar (DeclaredType.eltype_of_plain hde)
    · exact sameWalk_of_elements rfl hn hm hoperands.1 hoperands.2 hab.shape (hks.imp fun _ _ h => h.symbol)

/-! ## Arrays by index notation -/

def SameSource (p : Prop) (st st' : Store) (source source' : Option Node) : Prop :=
  p → (wellIndexedSource source ↔ wellIndexedSource source') ∧
    List.Forall₂ (st.SameUse st') (usesOfSource source) (usesOfSource source')

theorem arrayOp_walk {output body reduce source container : Value}
    (h : outcome (arrayOp output body reduce source container) st = (.ok n, st₁)) :
    ∃ src, source.toSource = .ok src ∧ n.uses = body.uses ++ usesOfSource src ∧
      (n.WellIndexed ↔ body.WellIndexed ∧ wellIndexedSource src) ∧ (Value.node n).symbol? = none ∧ n.id < st₁.next := by
  obtain ⟨st₂, hnode, -, hnext⟩ := arrayOp_ok h
  obtain ⟨out, f, src, e, k, -, -, hsrc, he, -, hindexed⟩ := arrayOpNode_ok.1 hnode
  obtain ⟨st₃, info, st₄, info', hnew, -, -, -, -, -, hlt⟩ := indexed_spec hindexed
  obtain ⟨huses, hwell, hsymbol⟩ := hnew.walk he
  exact ⟨src, hsrc, huses, hwell, hsymbol, by rw [hnew.id_eq, hnext]; exact hlt⟩

/-- **Arrays over bodies that are walked through alike.** -/
theorem arrayOp_together (hw : st.WellFormed) (hw' : st'.WellFormed)
    {output output' body body' reduce source source' container : Value}
    (ho : SameAnswer Eq output.toOutput output'.toOutput)
    (hs : SameAnswer (SameSource p st st') source.toSource source'.toSource)
    (ht : SameAnswer (fun e e' : ElementType => e.map Dtype.plain = e'.map Dtype.plain) (bodyElementType body)
      (bodyElementType body')) (hbody : st.SameWalk st' body body') :
    Together (Store.Standin p) (outcome (arrayOp output body reduce source container) st)
      (outcome (arrayOp output' body' reduce source' container) st') := by
  have hbuilt := sameBuilt_arrayOp hw hw' (ArrayOpParts.sameAnswer_read ho hs ht reduce container)
    (fun _ _ h => congrArg List.length h) (fun out _ h => h ▸ hbody.outputShape out)
  refine (sameBuilt_iff_together.1 hbuilt).imp fun n m st₁ st₁' hx hy hnm => ?_
  obtain ⟨src, hsrc, huses, hwell, hsymbol, hlt⟩ := arrayOp_walk hx
  obtain ⟨src', hsrc', huses', hwell', hsymbol', hlt'⟩ := arrayOp_walk hy
  have hg := (grows_arrayOp _ _ _ _ _).of_ok hw hx
  have hg' := (grows_arrayOp _ _ _ _ _).of_ok hw' hy
  refine ⟨⟨hnm.1.symm, ⟨hnm.2, ?_, ?_⟩, fun hp => ?_⟩, .inr ⟨hsymbol, hsymbol'⟩⟩
  · rintro _ ⟨⟩
    exact hlt
  · rintro _ ⟨⟩
    exact hlt'
  · rw [hsrc, hsrc'] at hs
    obtain ⟨hwellSource, husesSource⟩ := hs hp
    refine Store.SameWalk.grown hg hg' ⟨hwell.trans ((and_congr hbody.wellIndexed hwellSource).trans hwell'.symm), ?_,
      hsymbol.trans hsymbol'.symm⟩
    show List.Forall₂ (st.SameUse st') n.uses m.uses
    rw [huses, huses']
    exact List.rel_append hbody.uses husesSource

end Build

end ArrayTyping
