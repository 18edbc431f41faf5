import ArrayTyping.Proofs.Broadcasting
import ArrayTyping.Proofs.Operands
/-!
# Applying — applications of the library's operators to nodes

Nodes are operands as they are, so an application to nodes is built exactly if the rules give it a rank and a shape that
fit each other.  Indexing an array by scalars and combining scalars always succeed.
-/
namespace ArrayTyping

namespace Build

/-! ## Scalars -/

def contribution : Value → Value
  | .node n => .ofElementType n.type.eltype
  | v => v

theorem promotedScalarType_eq (args : List Value) :
    promotedScalarType args = (joinElementTypes (args.map contribution)).map DeclaredType.scalar := by
  have hitems : promotedScalarType args = (do return .scalar (← joinElementTypes (args.map contribution))) :=
    congrArg (fun items => do return DeclaredType.scalar (← joinElementTypes items))
      (List.map_congr_left fun v _ => by cases v <;> rfl)
  rw [hitems]
  cases joinElementTypes (args.map contribution) <;> rfl

theorem joinElementTypes_exists {items : List Value} (h : ∀ v ∈ items, ∃ i, v.item = .ok i) :
    ∃ e, joinElementTypes items = .ok e := by
  unfold joinElementTypes
  split
  · exact ⟨_, rfl⟩
  · obtain ⟨is, his⟩ := exceptMapM_exists h
    rw [his]
    exact ⟨_, rfl⟩

theorem item_ofElementType (e : ElementType) : (Value.ofElementType e).item = .ok (.ofElementType e) := by
  cases e with
  | none => rfl
  | some d => rfl

theorem promotedScalarType_operands {vs : List Value} (h : ∀ v ∈ vs, v.IsOperand) :
    ∃ e, promotedScalarType vs = .ok (.scalar e) := by
  have hjoin : ∃ e, joinElementTypes (vs.map contribution) = .ok e := by
    refine joinElementTypes_exists fun v hv => ?_
    obtain ⟨w, hw, rfl⟩ := List.mem_map.1 hv
    rcases h w hw with hl | ⟨n, rfl⟩
    · cases w with
      | bool | int | float | complex | scalar => exact ⟨_, rfl⟩
      | _ => cases hl
    · exact ⟨_, item_ofElementType _⟩
  obtain ⟨e, he⟩ := hjoin
  rw [promotedScalarType_eq, he]
  exact ⟨e, rfl⟩

/-- **Any function known by name combines scalars.** -/
theorem outcome_apply_scalars (book : RuleBook) (p : Primitive) {ns : List Node} (h : ∀ n ∈ ns, n.isArray = false)
    (st : Store) : ∃ x st' e, outcome (apply book (.callable (.primitive p)) (ns.map .node)) st = (.ok x, st') ∧
      IsNewTerm x (.primitive p) (ns.map .node) (.scalar e) st ∧ st'.slots = st.slots ∧ st.next < st'.next := by
  obtain ⟨e, he⟩ := promotedScalarType_operands (isOperand_nodes ns)
  have hany : ¬ (ns.map Value.node).any Value.isArrayTyped = true := by
    rw [List.any_map, List.any_eq_true]
    rintro ⟨n, hn, ha⟩
    rw [show (Value.isArrayTyped ∘ Value.node) n = n.isArray from rfl, h n hn] at ha
    cases ha
  obtain ⟨x, st', hx, hn⟩ := outcome_term (show (Value.callable (.primitive p)).callable? = some _ from rfl)
    (ns.map .node) (.scalar e) st
  refine ⟨x, st', e, ?_, hn⟩
  unfold apply
  rw [outcome_bind_of_ok (outcome_operands (isOperand_nodes ns) st), if_neg hany, outcome_bind, outcome_lift, he]
  exact hx

/-- **An array is indexed by any scalars.** -/
theorem outcome_index_scalars {n : Node} (ha : n.isArray = true) {ks : List Node} (hks : ∀ k ∈ ks, k.isArray = false)
    {key : Value} (hkey : indexKeys key = ks.map .node) (st : Store) :
    ∃ x st', outcome (index (.node n) key) st = (.ok x, st') ∧
      IsNewTerm x (.primitive .getitem) (.node n :: ks.map .node) (.scalar n.type.eltype) st ∧
      st'.slots = st.slots ∧ st.next < st'.next := by
  have hkeys : (ks.map Value.node).mapM indexKey = .ok (ks.map .node) := by
    rw [exceptMapM_ok, List.forall₂_same]
    intro k hk
    obtain ⟨m, hm, rfl⟩ := List.mem_map.1 hk
    rw [indexKey, if_neg (by rw [hks m hm]; exact Bool.false_ne_true)]
  obtain ⟨x, st', hx, hn⟩ := outcome_term (show (Value.callable (.primitive .getitem)).callable? = some _ from rfl)
    (.node n :: ks.map .node) (.scalar n.type.eltype) st
  refine ⟨x, st', ?_, hn⟩
  have ht : (Value.node n).arrayType? = some n.type := if_pos ha
  unfold index
  rw [outcome_bind_of_ok (show outcome (operand (.node n)) st = (.ok (.node n), st) from rfl)]
  simp only [ht, hkey]
  rw [outcome_bind, outcome_mapM_lift, hkeys]
  exact hx

end Build

namespace RuleBook

theorem outcome_rank_of_reading {book : RuleBook} {op : Value} {args : List Value} {f : RuleFn}
    (h : book.rule? .ndims op args.length = some (.reading f)) (st : Store) :
    Build.outcome (book.rank op args) st = (f st.slots op args >>= checkRank op args, st) := by
  unfold rank
  simp only [h]
  rw [Build.outcome_bind, Rule.respond, Build.outcome_bind_of_ok (Build.outcome_slots st), Build.outcome_lift]
  cases f st.slots op args <;> rfl

theorem outcome_shape_of_reading {book : RuleBook} {op : Value} {args : List Value} {f : RuleFn}
    (h : book.rule? .shape op args.length = some (.reading f)) (st : Store) :
    Build.outcome (book.shape op args) st = (f st.slots op args >>= Value.toShapeInfo, st) := by
  unfold shape
  simp only [h]
  rw [Build.outcome_bind, Rule.respond, Build.outcome_bind_of_ok (Build.outcome_slots st), Build.outcome_lift]
  cases f st.slots op args <;> rfl

theorem checkRank_ofRank (op : Value) (args : List Value) (n : Nat) : checkRank op args (.ofRank (some n)) = .ok n := by
  rw [Value.ofRank, Value.ofInt, checkRank, if_neg (Int.not_lt.2 (Int.natCast_nonneg n)), Int.toNat_natCast]

theorem toShapeInfo_ofShape (info : ShapeInfo) : (Value.ofShape info).toShapeInfo = .ok info := by
  cases info <;> rfl

theorem outcome_shape_of_answer {book : RuleBook} {op : Value} {args : List Value} {f : RuleFn}
    (h : book.rule? .shape op args.length = some (.reading f)) {st : Store} (answer : Except Fault ShapeInfo)
    (hf : f st.slots op args = (do return .ofShape (← answer))) :
    Build.outcome (book.shape op args) st = (answer, st) := by
  rw [outcome_shape_of_reading h, hf]
  cases answer with
  | error e => rfl
  | ok info => exact congrArg (·, st) (toShapeInfo_ofShape info)

end RuleBook

/-- An array that has been made, with a known shape of its declared rank. -/
structure Store.HasArray (st : Store) (n : Node) (s : Shape) : Prop where
  id_lt : n.id < st.next
  isArray : n.isArray = true
  rank_eq : n.type.rank = some s.rank
  shape_eq : st.slots.shapeOf (.node n) = .ok (some s)

theorem Store.HasArray.grown {st st' : Store} {n : Node} {s : Shape} (h : st.HasArray n s) (hg : st.Grown st') :
    st'.HasArray n s where
  id_lt := Nat.lt_of_lt_of_le h.id_lt hg.next_le
  isArray := h.isArray
  rank_eq := h.rank_eq
  shape_eq := by rw [Slots.shapeOf_congr (hg.kept _ h.id_lt), h.shape_eq]

namespace Elementwise

theorem rank_of_known {args : List Value} {ns : List Nat} (h : args.mapM Value.rank = .ok (ns.map some)) :
    rank args = .ok (some (ns.foldl max 0)) := by
  unfold rank
  rw [h]
  show Except.ok (((ns.map some).mapM id).map (·.foldl max 0)) = _
  rw [optionMapM_id_some.2 rfl]
  rfl

theorem shape_of_known {slots : Slots} {op : Value} {args : List Value} {known : List Shape} {s : Shape}
    (h : args.mapM slots.shapeOf = .ok (known.map some)) (hs : broadcast known = .ok s) :
    shape slots op args = .ok (some s) := by
  have hb : broadcastFor op known = .ok s := by
    unfold broadcastFor
    rw [hs]
  have hk : (known.map some).mapM id = some known := optionMapM_id_some.2 rfl
  unfold shape
  rw [h]
  simp only [bind, Except.bind, hk, hb]
  rfl

end Elementwise

namespace Build

/-- **An application of nodes with an array among them is built** with the rank and the shape that the rules give. -/
theorem outcome_apply_array {book : RuleBook} {op : Value} {f : Callable} (hop : op.callable? = some f) (ns : List Node)
    (ha : ∃ n ∈ ns, n.isArray = true) {s : Shape} {st : Store} (hw : st.WellFormed)
    (hrank : outcome (book.rank op (ns.map .node)) st = (.ok s.rank, st))
    (hshape : outcome (book.shape op (ns.map .node)) st = (.ok (some s), st)) :
    ∃ x st' t, outcome (apply book op (ns.map .node)) st = (.ok x, st') ∧ st'.HasArray x t ∧ t.plain = s.plain := by
  obtain ⟨x, st', hx⟩ := outcome_finishedTerm hop (ns.map .node) s.rank (some s) hw
  obtain ⟨g, info, -, hn, hplain, hslots, hnext⟩ := finishedTerm_ok hx
  obtain ⟨t, rfl, ht⟩ := Option.map_eq_some_iff.1 (hplain.trans (Option.map_some ..))
  refine ⟨x, st', t, ?_, ⟨hn.id_eq ▸ hnext, DeclaredType.isArray_of_plain hn.type_eq, ?_, ?_⟩, ht⟩
  · have hany : (ns.map Value.node).any Value.isArrayTyped = true := by
      obtain ⟨n, hn, ha⟩ := ha
      exact List.any_eq_true.2 ⟨_, List.mem_map_of_mem hn, ha⟩
    have hfit : RankFits s.rank (some s) := fun t' ht' => by rw [Option.some.inj ht']
    unfold apply
    rw [outcome_bind_of_ok (outcome_operands (isOperand_nodes ns) st), if_pos hany]
    exact arrayTerm_ok.2 ⟨_, _, _, _, _, _, outcome_operands (isOperand_nodes ns) st, hrank, hshape, hfit, hx⟩
  · rw [DeclaredType.rank_of_plain hn.type_eq, DeclaredType.rank, Shape.rank_of_plain ht]
  · exact Slots.shapeOf_of_slot (by rw [hslots, Slots.get?_insert_self])

theorem outcome_builtin_rank {p : Primitive} (ns : List Node) (rule : BuiltinRule) {r : Nat} {st : Store}
    (hrule : RuleBook.builtin.rule? .ndims (.callable (.primitive p)) ns.length = some (.reading rule.respond))
    (h : rule.respond st.slots (.callable (.primitive p)) (ns.map .node) = .ok (.ofRank (some r))) :
    outcome (RuleBook.builtin.rank (.callable (.primitive p)) (ns.map .node)) st = (.ok r, st) := by
  rw [RuleBook.outcome_rank_of_reading (by rw [List.length_map]; exact hrule), h]
  show (RuleBook.checkRank (.callable (.primitive p)) (ns.map .node) (.ofRank (some r)), st) = _
  rw [RuleBook.checkRank_ofRank]

theorem outcome_builtin_shape {p : Primitive} (ns : List Node) (rule : BuiltinRule) {info : ShapeInfo} {st : Store}
    (hrule : RuleBook.builtin.rule? .shape (.callable (.primitive p)) ns.length = some (.reading rule.respond))
    (h : rule.respond st.slots (.callable (.primitive p)) (ns.map .node) = .ok (.ofShape info)) :
    outcome (RuleBook.builtin.shape (.callable (.primitive p)) (ns.map .node)) st = (.ok info, st) :=
  RuleBook.outcome_shape_of_answer (by rw [List.length_map]; exact hrule) (.ok info) h

variable {st : Store} {l r : Node} {s t : Shape}

theorem rank_node {n : Node} {k : Rank} (h : n.type.rank = k) : (Value.node n).rank = .ok k :=
  congrArg Except.ok h

theorem outcome_matmul (hw : st.WellFormed) (hl : st.HasArray l s) (hr : st.HasArray r t) {p : Shape}
    (hrank : productRank? s.rank t.rank = some p.rank) (hp : s.product t = .ok p) :
    ∃ x st' q, outcome (matmul .builtin (.node l) (.node r)) st = (.ok x, st') ∧ st'.HasArray x q ∧
      q.plain = p.plain := by
  refine outcome_apply_array rfl [l, r] ⟨l, List.mem_cons_self, hl.isArray⟩ hw ?_ ?_
  · refine outcome_builtin_rank [l, r] .matmulNdims rfl ?_
    show (do return Value.ofRank (← MatrixProduct.rank _ (.node l) (.node r))) = _
    unfold MatrixProduct.rank
    rw [rank_node hl.rank_eq, rank_node hr.rank_eq]
    simp only [bind, Except.bind, hrank]
    rfl
  · refine outcome_builtin_shape [l, r] .matmulShape rfl ?_
    show (do return Value.ofShape (← MatrixProduct.shape _ _ (.node l) (.node r))) = _
    unfold MatrixProduct.shape
    rw [hl.shape_eq, hr.shape_eq]
    simp only [bind, Except.bind, hp]
    rfl

theorem outcome_mul (hw : st.WellFormed) (hl : st.HasArray l s) (hr : st.HasArray r t) {p : Shape}
    (hrank : max s.rank t.rank = p.rank) (hp : broadcast [s, t] = .ok p) :
    ∃ x st' q, outcome (binary .mul (.node l) (.node r)) st = (.ok (.node x), st') ∧ st'.HasArray x q ∧
      q.plain = p.plain := by
  have hmul : ∃ x st' q, outcome (apply .builtin (.callable (.primitive .mul)) ([l, r].map .node)) st = (.ok x, st') ∧
      st'.HasArray x q ∧ q.plain = p.plain := by
    refine outcome_apply_array rfl [l, r] ⟨l, List.mem_cons_self, hl.isArray⟩ hw ?_ ?_
    · refine outcome_builtin_rank [l, r] .elementwiseNdims rfl ?_
      have hranks : ([l, r].map Value.node).mapM Value.rank = .ok ([s.rank, t.rank].map some) :=
        exceptMapM_ok.2 (.cons (rank_node hl.rank_eq) (.cons (rank_node hr.rank_eq) .nil))
      show (do return Value.ofRank (← Elementwise.rank _)) = _
      rw [Elementwise.rank_of_known hranks, ← hrank, ← Nat.zero_max s.rank]
      rfl
    · refine outcome_builtin_shape [l, r] .elementwiseShape rfl ?_
      have hshapes : ([l, r].map Value.node).mapM st.slots.shapeOf = .ok ([s, t].map some) :=
        exceptMapM_ok.2 (.cons hl.shape_eq (.cons hr.shape_eq .nil))
      show (do return Value.ofShape (← Elementwise.shape _ _ _)) = _
      rw [Elementwise.shape_of_known hshapes hp]
      rfl
  obtain ⟨x, st', q, hx, hq⟩ := hmul
  refine ⟨x, st', q, ?_, hq⟩
  show outcome (do return Value.node (← apply .builtin (.callable (.primitive .mul)) ([l, r].map .node))) st = _
  rw [outcome_bind_of_ok hx]
  rfl

theorem outcome_transpose (hw : st.WellFormed) (hl : st.HasArray l s) :
    ∃ x st' q, outcome (transpose .builtin (.node l)) st = (.ok x, st') ∧ st'.HasArray x q ∧
      q.plain = s.transpose.plain := by
  have hrank : s.transpose.rank = s.rank := List.length_reverse
  refine outcome_apply_array rfl [l] ⟨l, List.mem_cons_self, hl.isArray⟩ hw ?_ ?_
  · refine outcome_builtin_rank [l] .transposeNdims rfl ?_
    show (do return Value.ofRank (← Transposition.rank (.node l))) = _
    unfold Transposition.rank
    rw [rank_node hl.rank_eq, hrank]
    rfl
  · refine outcome_builtin_shape [l] .transposeShape rfl ?_
    show (do return Value.ofShape (← Transposition.shape _ (.node l))) = _
    unfold Transposition.shape
    rw [hl.shape_eq]
    rfl

end Build

end ArrayTyping
