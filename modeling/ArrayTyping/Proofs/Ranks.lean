import ArrayTyping.Proofs.Making
/-!
# Ranks — declared rank and shape agree on every node

The rank of a node is part of its declared type, its shape stands in its slot, and the two come from different places:
from the arguments of a declaration, from two rules that know nothing of each other, from the output and the body of an
index notation.  In every run of constructors they agree all the same, whatever the rules answer.
-/
namespace ArrayTyping

open Build (outcome)

namespace Node

def output? : Node → Option (List OutputIndex)
  | .arrayOp _ output .. => some output
  | _ => none

/-- Declared type and shape of a node do not contradict each other. -/
structure Ranked (slots : Slots) (n : Node) : Prop where
  scalar : ∀ e, (Value.node n).declaredType = .ok (.scalar e) → slots.shapeOf (.node n) = .ok (some .scalar)
  array : ∀ k e r s, (Value.node n).declaredType = .ok (.array k e r) → slots.shapeOf (.node n) = .ok (some s) →
    r = some s.rank
  arrayOp : ∀ output, n.output? = some output →
    (Value.node n).rank = .ok (some output.length) ∧ slots.hasShape (.node n) = true

/-- An array of known rank whose slot is written, if only with an unknown shape. -/
def Finished (slots : Slots) (n : Node) : Prop :=
  (∃ k e r, (Value.node n).declaredType = .ok (.array k e (some r))) ∧ slots.hasShape (.node n) = true

end Node

theorem rank_of_shapeOfDims {dims : List (Option Int)} {s : Shape} (h : shapeOfDims dims = .ok (some s)) :
    s.rank = dims.length := by
  unfold shapeOfDims at h
  split at h
  · cases h
  · rename_i lengths hl
    obtain ⟨axes, ha, h⟩ := exceptBind_ok.1 h
    obtain rfl := Option.some.inj (exceptPure_ok.1 h)
    rw [Shape.rank, Shape.ofAxes, ← (exceptMapM_ok.1 ha).length_eq, optionMapM_id_some.1 hl, List.length_map]

namespace Node

theorem Ranked.congr {slots slots' : Slots} {n : Node} (h : slots'.get? n.id = slots.get? n.id) (hn : n.Ranked slots) :
    n.Ranked slots' where
  scalar e he := by
    rw [Slots.shapeOf_congr h]
    exact hn.scalar e he
  array k e r s hr hs := by
    rw [Slots.shapeOf_congr h] at hs
    exact hn.array k e r s hr hs
  arrayOp output ho := by
    rw [Slots.hasShape_congr h]
    exact hn.arrayOp output ho

theorem ranked_of_slot {slots : Slots} {n : Node} {info : ShapeInfo} (hslot : slots.get? n.id = some info)
    (ha : n.isArray = true) (hfit : ∀ s, info = some s → n.type.rank = some s.rank) : n.Ranked slots where
  scalar e he := by
    rw [isArray, Except.ok.inj he] at ha
    cases ha
  array k e r s hr hs := by
    rw [Slots.shapeOf_of_slot hslot] at hs
    rw [← hfit s (Except.ok.inj hs), Except.ok.inj hr, DeclaredType.rank]
  arrayOp output ho := by
    refine ⟨?_, Slots.hasShape_of_slot hslot⟩
    cases n <;> cases ho
    rfl

/-- Without a slot only the shape of a constant is known, and it has the dimensions that the datum reports. -/
theorem rank_of_initialShape {n : Node} {s : Shape} (ha : n.isArray = true) (h : n.initialShape = .ok (some s)) :
    n.type.rank = some s.rank := by
  cases n with
  | constant id d tm => rw [rank_of_shapeOfDims h, Node.type, Datum.type, DeclaredType.rank]
  | symbol t =>
    rw [show (symbol t).initialShape = .ok (if (symbol t).isArray then none else some .scalar) from rfl, if_pos ha] at h
    cases h
  | term id op args am t tm =>
    rw [show (term id op args am t tm).initialShape =
      .ok (if (term id op args am t tm).isArray then none else some .scalar) from rfl, if_pos ha] at h
    cases h
  | arrayOp id output om body reduce source k e tm => cases h

theorem ranked_of_no_slot {slots : Slots} {n : Node} (h : slots.get? n.id = none) (ho : n.output? = none) :
    n.Ranked slots where
  scalar e he := by
    exact Slots.shapeOf_of_scalar h (by rw [isArray, Except.ok.inj he]; rfl)
  array k e r s hr hs := by
    rw [Slots.shapeOf_of_no_slot h] at hs
    have ha : n.isArray = true := by rw [isArray, Except.ok.inj hr]; rfl
    rw [← rank_of_initialShape ha hs, Except.ok.inj hr, DeclaredType.rank]
  arrayOp output h' := by
    rw [ho] at h'
    cases h'

end Node

/-! ## The nodes a store holds -/

namespace Store

/-- The node has been made, and its rank and shape agree. -/
structure Holds (st : Store) (n : Node) : Prop where
  id_lt : n.id < st.next
  ranked : n.Ranked st.slots

theorem Holds.grown {st st' : Store} {n : Node} (h : st.Holds n) (hg : st.Grown st') : st'.Holds n :=
  ⟨Nat.lt_of_lt_of_le h.id_lt hg.next_le, h.ranked.congr (hg.kept _ h.id_lt)⟩

theorem Holds.of_eq {st st' : Store} {n : Node} (h : st.Holds n) (hs : st'.slots = st.slots) (hn : st'.next = st.next) :
    st'.Holds n :=
  ⟨hn ▸ h.id_lt, hs ▸ h.ranked⟩

/-- A new node other than an array by index notation may stay without a slot. -/
theorem holds_of_no_slot {st st' : Store} {n : Node} (hw : st.WellFormed) (hid : n.id = st.next)
    (ho : n.output? = none) (hs : st'.slots = st.slots) (hn : st.next < st'.next) : st'.Holds n where
  id_lt := hid ▸ hn
  ranked := Node.ranked_of_no_slot (by rw [hs, hid]; exact hw _ (Nat.le_refl _)) ho

theorem holds_of_slot {st st' : Store} {n : Node} {info info' : ShapeInfo} (hid : n.id = st.next)
    (ha : n.isArray = true) (hfit : ∀ s, info = some s → n.type.rank = some s.rank)
    (hplain : info'.map Shape.plain = info.map Shape.plain) (hs : st'.slots = st.slots.insert n.id info')
    (hn : st.next < st'.next) : st'.Holds n where
  id_lt := hid ▸ hn
  ranked := by
    refine Node.ranked_of_slot (by rw [hs, Slots.get?_insert_self]) ha fun s' hs' => ?_
    rw [hs', Option.map_some] at hplain
    obtain ⟨s, hs, hp⟩ := Option.map_eq_some_iff.1 hplain.symm
    rw [hfit s hs, Shape.rank_of_plain hp]

end Store

namespace Build

variable {α β : Type}

/-- Over nodes that the store holds, the answer has only nodes that the store holds then. -/
def Holding (given : List Node) (x : Build α) (nodes : α → List Node) : Prop :=
  ∀ st st' a, st.WellFormed → (∀ n ∈ given, st.Holds n) → outcome x st = (.ok a, st') → ∀ n ∈ nodes a, st'.Holds n

namespace Holding

variable {given : List Node} {nodes : α → List Node}

theorem mono {given' : List Node} {x : Build α} (h : Holding given x nodes) (hsub : given ⊆ given') :
    Holding given' x nodes :=
  fun st st' a hw hg => h st st' a hw fun n hn => hg n (hsub hn)

theorem mapM {f : β → Build α} (hgrows : ∀ b, Grows (f b)) :
    ∀ bs : List β, (∀ b ∈ bs, Holding given (f b) nodes) → Holding given (bs.mapM f) (·.flatMap nodes)
  | [], _ => by
    intro st st' as _ _ h n hn
    obtain ⟨rfl, -⟩ := outcome_mapM_nil_ok.1 h
    cases hn
  | b :: bs, hf => by
    intro st st'' as hw hg h n hn
    obtain ⟨a, st', as', ha, has, rfl⟩ := outcome_mapM_cons_ok.1 h
    have hg₁ := (hgrows b).of_ok hw ha
    rcases List.mem_append.1 hn with hn | hn
    · have hheld := hf b List.mem_cons_self st st' a hw hg ha n hn
      exact hheld.grown ((Grows.mapM hgrows bs).of_ok hg₁.wellFormed has)
    · have hrest := mapM hgrows bs fun b' hb' => hf b' (List.mem_cons_of_mem _ hb')
      exact hrest st' st'' as' hg₁.wellFormed (fun m hm => (hg m hm).grown hg₁) has n hn

end Holding

/-! ## What each constructor makes is held -/

theorem holding_namedSymbol (l : Label) (t : DeclaredType) (m : Mark) :
    Holding [] (namedSymbol l t m) fun s => [.symbol s] := by
  intro st st' s hw _ h n hn
  obtain rfl := List.mem_singleton.1 hn
  obtain ⟨s', st'', ho, hs, hslots, hnext⟩ := outcome_namedSymbol l t m st
  rw [ho] at h
  cases h
  exact Store.holds_of_no_slot hw hs.id_eq rfl hslots hnext

theorem holding_symbol (name : Value) (t : DeclaredType) : Holding [] (symbol name t) fun s => [.symbol s] := by
  intro st st' s hw hg h
  obtain ⟨l, -, h⟩ := symbol_ok.1 h
  exact holding_namedSymbol l t _ st st' s hw hg h

theorem holding_rawSymbol (name type : Value) : Holding [] (rawSymbol name type) fun s => [.symbol s] := by
  intro st st' s hw hg h
  unfold rawSymbol at h
  obtain ⟨l, st₁, h₁, h⟩ := outcome_bind_ok.1 h
  obtain ⟨-, rfl⟩ := outcome_lift_ok.1 h₁
  split at h
  · exact holding_namedSymbol l _ _ st st' s hw hg h
  · cases h

theorem holding_scalarSymbol (name dtype : Value) : Holding [] (scalarSymbol name dtype) fun s => [.symbol s] := by
  intro st st' s hw hg h
  obtain ⟨e, st₁, h₁, h⟩ := outcome_bind_ok.1 h
  obtain ⟨-, rfl⟩ := outcome_lift_ok.1 h₁
  exact holding_symbol name _ st st' s hw hg h

theorem holding_indexSymbols (names : List Value) :
    Holding [] (indexSymbols names) (·.flatMap fun s => [.symbol s]) := by
  intro st st' ss hw hg h
  obtain ⟨_, st₁, h₁, h⟩ := outcome_bind_ok.1 h
  obtain ⟨-, rfl⟩ := outcome_lift_ok.1 h₁
  refine Holding.mapM (fun _ => (steady_symbol _ _).grows) names ?_ st st' ss hw hg h
  exact fun name _ => holding_symbol name _

theorem rank_of_declaredShape {name shape rank r : Value} {s : Shape}
    (h : declaredShape name shape rank = .ok (some s, r)) : r = .ofInt s.rank := by
  rcases declaredShape_ok h with ⟨-, hnone⟩ | ⟨t, -, hs, hr⟩
  · cases hnone
  · cases hs
    exact hr

theorem toRank_ofInt (n : Nat) : (Value.ofInt n).toRank = .ok (some n) := by
  rw [Value.ofInt, Value.toRank, if_neg (Int.not_lt.2 (Int.natCast_nonneg n)), Int.toNat_natCast]

theorem ofParts_ok {container dtype rank : Value} {t : DeclaredType}
    (h : DeclaredType.ofParts container dtype rank = .ok t) :
    ∃ k e r, container.toContainer = .ok k ∧ dtype.toElementType = .ok e ∧ rank.toRank = .ok r ∧ .array k e r = t := by
  obtain ⟨k, hk, h⟩ := exceptBind_ok.1 h
  obtain ⟨e, he, h⟩ := exceptBind_ok.1 h
  obtain ⟨r, hr, h⟩ := exceptBind_ok.1 h
  exact ⟨k, e, r, hk, he, hr, exceptPure_ok.1 h⟩

theorem holding_arraySymbol (name shape dtype rank container : Value) :
    Holding [] (arraySymbol name shape dtype rank container) fun s => [.symbol s] := by
  intro st st' s hw _ h n hn
  obtain rfl := List.mem_singleton.1 hn
  obtain ⟨info, r, t, l, info', hd, ht, -, hs, hplain, hslots, hnext⟩ := arraySymbol_ok h
  obtain ⟨k, e, r', -, -, hr, rfl⟩ := ofParts_ok ht
  refine Store.holds_of_slot hs.id_eq (DeclaredType.isArray_of_plain hs.type_eq) (fun known hk => ?_) hplain hslots
    hnext
  subst hk
  rw [rank_of_declaredShape hd, toRank_ofInt] at hr
  rw [Node.type, DeclaredType.rank_of_plain hs.type_eq, DeclaredType.rank, Except.ok.inj hr]

theorem holding_rawConstant (v : Value) : Holding [] (rawConstant v) Node.nodes := by
  intro st st' n hw _ h m hm
  obtain ⟨d, -, rfl, rfl⟩ := rawConstant_ok h
  obtain rfl := List.mem_singleton.1 hm
  exact Store.holds_of_no_slot hw rfl rfl rfl (Nat.lt_succ_of_lt (Nat.lt_succ_self _))

theorem rank_of_shapeOf_datum {slots : Slots} {d : Datum} {s : Shape} (h : slots.shapeOf d.toValue = .ok (some s)) :
    s.rank = d.dims.length := by
  cases d with
  | array a => exact rank_of_shapeOfDims h
  | scalar x m =>
    cases h
    rfl

theorem holding_constant (v : Value) : Holding [] (constant v) Node.nodes := by
  intro st st' n hw _ h m hm
  obtain ⟨d, info, info', rfl, rfl, hinfo, hplain, hslots, hnext⟩ := constant_ok h
  obtain rfl := List.mem_singleton.1 hm
  refine Store.holds_of_slot rfl rfl (fun s hs => ?_) hplain hslots hnext
  subst hs
  rw [Node.type, Datum.type, DeclaredType.rank, rank_of_shapeOf_datum hinfo]

theorem holding_operand (v : Value) : Holding v.nodes (operand v) Value.nodes := by
  intro st st' w hw hg h
  rcases operand_ok h with ⟨rfl, rfl, -⟩ | ⟨a, n, rfl, rfl, h₁⟩
  · exact hg
  · exact holding_constant (.array a) st st' n hw hg h₁

theorem holding_operands (args : List Value) : Holding (nodesOfAll args) (args.mapM operand) nodesOfAll := by
  intro st st' ws hw hg h
  rw [nodesOfAll_eq]
  refine Holding.mapM grows_operand args (fun v hv => ?_) st st' ws hw hg h
  exact (holding_operand v).mono (nodes_subset_nodesOfAll hv)

theorem holds_isNewTerm {n : Node} {f : Callable} {args : List Value} {t : DeclaredType} {st st₁ st' : Store}
    (hn : IsNewTerm n f args t st₁) (hself : st'.Holds n) (hg : ∀ m ∈ f.nodes ++ nodesOfAll args, st.Holds m)
    (hgrown : st.Grown st') : ∀ m ∈ n.nodes, st'.Holds m := by
  intro m hm
  rw [hn.nodes_eq] at hm
  rcases List.mem_cons.1 hm with rfl | hm
  · exact hself
  · exact (hg m hm).grown hgrown

theorem IsNewTerm.output?_eq {n : Node} {f : Callable} {args : List Value} {t : DeclaredType} {st : Store}
    (h : IsNewTerm n f args t st) : n.output? = none := by
  obtain ⟨f', args', am, t', tm, rfl, -⟩ := h
  rfl

theorem holding_application (f : Callable) (args : List Value) (am : Mark) (t : DeclaredType) (tm : Mark) :
    Holding (f.nodes ++ nodesOfAll args) (application f args am t tm) Node.nodes := by
  intro st st' n hw hg h
  obtain ⟨n', st'', ho, hn, hslots, hnext⟩ := outcome_application f args am t tm st
  rw [ho] at h
  cases h
  have hself := Store.holds_of_no_slot hw hn.id_eq hn.output?_eq hslots hnext
  exact holds_isNewTerm hn hself hg (.of_slots_eq hw hslots (Nat.le_of_lt hnext))

theorem holding_term (op : Value) (args : List Value) (t : DeclaredType) :
    Holding (op.nodes ++ nodesOfAll args) (term op args t) Node.nodes := by
  intro st st' n hw hg h
  unfold term at h
  split at h
  · rename_i f hf
    rw [Value.callable?_nodes hf] at hg
    exact holding_application f args _ t _ st st' n hw hg h
  · cases h

theorem holding_rawTerm (op args type : Value) :
    Holding (op.nodes ++ args.nodes) (rawTerm op args type) Node.nodes := by
  intro st st' n hw hg h
  unfold rawTerm at h
  split at h
  · cases h
  · rename_i f hf
    obtain ⟨items, st₁, h₁, h⟩ := outcome_bind_ok.1 h
    obtain ⟨hitems, rfl⟩ := outcome_lift_ok.1 h₁
    split at h
    · refine holding_application f items _ _ _ st st' n hw (fun m hm => hg m ?_) h
      rw [Value.callable?_nodes hf]
      rcases List.mem_append.1 hm with hm | hm
      · exact List.mem_append_left _ hm
      · obtain ⟨v, hv, hm⟩ := mem_nodesOfAll.1 hm
        exact List.mem_append_right _ (Value.firstItems_nodes args none items hitems v hv hm)
    · cases h

/-- **An array term is held whatever its rules answer**, and it is finished: it has a rank and its slot is written. -/
theorem holds_arrayTerm {book : RuleBook} (hb : book.Grows) {op : Value} {args : List Value} {n : Node} {st st' : Store}
    (hw : st.WellFormed) (hg : ∀ m ∈ op.nodes ++ nodesOfAll args, st.Holds m)
    (h : outcome (arrayTerm book op args) st = (.ok n, st')) :
    (∀ m ∈ n.nodes, st'.Holds m) ∧ n.Finished st'.slots := by
  obtain ⟨operands, st₁, r, st₂, info, st₃, h₁, h₂, h₃, hfit, h⟩ := arrayTerm_ok.1 h
  obtain ⟨f, info', hf, hn, hplain, hslots, hnext⟩ := finishedTerm_ok h
  have hg₁ := (Grows.mapM grows_operand args).of_ok hw h₁
  have hg₂ := (hb.rank op operands).of_ok hg₁.wellFormed h₂
  have hg₃ := (hb.shape op operands).of_ok hg₂.wellFormed h₃
  have hg₄ := (grows_finishedTerm op operands r info).of_ok hg₃.wellFormed h
  have hrank : n.type.rank = some r := DeclaredType.rank_of_plain hn.type_eq
  have harray : n.isArray = true := DeclaredType.isArray_of_plain hn.type_eq
  have hself : st'.Holds n :=
    Store.holds_of_slot hn.id_eq harray (fun s hs => by rw [hrank, hfit s hs]) hplain hslots hnext
  have hheld : ∀ m ∈ f.nodes ++ nodesOfAll operands, st₁.Holds m := by
    rw [← Value.callable?_nodes hf]
    intro m hm
    rcases List.mem_append.1 hm with hm | hm
    · exact (hg m (List.mem_append_left _ hm)).grown hg₁
    · exact holding_operands args st st₁ operands hw (fun m hm => hg m (List.mem_append_right _ hm)) h₁ m hm
  refine ⟨holds_isNewTerm hn hself hheld ((hg₂.trans hg₃).trans hg₄), ?_, ?_⟩
  · rw [show (Value.node n).declaredType = .ok n.type from rfl]
    cases ht : n.type with
    | scalar e =>
      rw [Node.isArray, ht] at harray
      cases harray
    | array k e r' =>
      rw [ht] at hrank
      exact ⟨k, e, r, by rw [show r' = some r from hrank]⟩
  · exact Slots.hasShape_of_slot (by rw [hslots, Slots.get?_insert_self])

/-- **An application is held**, and if it is an array it is finished. -/
theorem holds_apply {book : RuleBook} (hb : book.Grows) {op : Value} {args : List Value} {n : Node} {st st' : Store}
    (hw : st.WellFormed) (hg : ∀ m ∈ op.nodes ++ nodesOfAll args, st.Holds m)
    (h : outcome (apply book op args) st = (.ok n, st')) :
    (∀ m ∈ n.nodes, st'.Holds m) ∧ (n.isArray = true → n.Finished st'.slots) := by
  obtain ⟨operands, st₁, h₁, h⟩ := outcome_bind_ok.1 h
  have hg₁ := (Grows.mapM grows_operand args).of_ok hw h₁
  have hheld : ∀ m ∈ op.nodes ++ nodesOfAll operands, st₁.Holds m := by
    intro m hm
    rcases List.mem_append.1 hm with hm | hm
    · exact (hg m (List.mem_append_left _ hm)).grown hg₁
    · exact holding_operands args st st₁ operands hw (fun m hm => hg m (List.mem_append_right _ hm)) h₁ m hm
  split at h
  · obtain ⟨hn, hfin⟩ := holds_arrayTerm hb hg₁.wellFormed hheld h
    exact ⟨hn, fun _ => hfin⟩
  · obtain ⟨t, st₂, h₂, h⟩ := outcome_bind_ok.1 h
    obtain ⟨ht, rfl⟩ := outcome_lift_ok.1 h₂
    refine ⟨holding_term op operands t st₁ st' n hg₁.wellFormed hheld h, fun ha => ?_⟩
    obtain ⟨f, -, hn, -⟩ := term_ok h
    obtain ⟨e, -, ht⟩ := exceptBind_ok.1 ht
    rw [Node.isArray, DeclaredType.isArray_of_plain hn.type_eq, ← exceptPure_ok.1 ht] at ha
    cases ha

theorem holds_elementwise {book : RuleBook} (hb : book.Grows) {f : Value} {args : List Value} {n : Node}
    {st st' : Store} (hw : st.WellFormed) (hg : ∀ m ∈ f.nodes ++ nodesOfAll args, st.Holds m)
    (h : outcome (elementwise book f args) st = (.ok n, st')) :
    (∀ m ∈ n.nodes, st'.Holds m) ∧ (n.isArray = true → n.Finished st'.slots) := by
  obtain ⟨c, st₁, h₁, h⟩ := outcome_bind_ok.1 h
  obtain ⟨hc, rfl⟩ := outcome_lift_ok.1 h₁
  refine holds_apply hb hw (fun m hm => hg m ?_) h
  unfold elementwiseOperator at hc
  split at hc
  · rename_i g hf
    cases hc
    rw [Value.callable?_nodes hf]
    exact hm
  · cases hc

theorem holding_index (array key : Value) : Holding (array.nodes ++ key.nodes) (index array key) Node.nodes := by
  intro st st' n hw hg h
  obtain ⟨target, st₁, h₁, h⟩ := outcome_bind_ok.1 h
  have hg₁ := (grows_operand array).of_ok hw h₁
  split at h
  · cases h
  · obtain ⟨keys, st₂, h₂, h⟩ := outcome_bind_ok.1 h
    rw [outcome_mapM_lift] at h₂
    obtain ⟨hkeys, rfl⟩ := Prod.mk.inj h₂
    refine holding_term _ _ _ st₁ st' n hg₁.wellFormed (fun m hm => ?_) h
    rcases List.mem_append.1 (show m ∈ target.nodes ++ nodesOfAll keys from hm) with hm | hm
    · exact holding_operand array st st₁ target hw (fun m hm => hg m (List.mem_append_left _ hm)) h₁ m hm
    · obtain ⟨w, hw, hm⟩ := mem_nodesOfAll.1 hm
      obtain ⟨k, hk, hkw⟩ := exceptMapM_mem hkeys w hw
      exact (hg m (List.mem_append_right _ (indexKeys_nodes hk (indexKey_nodes hkw hm)))).grown hg₁

theorem rank_of_outputShape {output : List OutputIndex} {body : Value} {s : Shape} {st st' : Store}
    (h : outcome (outputShape output body) st = (.ok (some s), st')) : s.rank = output.length := by
  obtain ⟨usage, st₁, h₁, h⟩ := outcome_bind_ok.1 h
  obtain ⟨_, st₂, h₂, h⟩ := outcome_bind_ok.1 h
  rw [outcome_bind_of_ok (outcome_slots st₂)] at h
  obtain ⟨axes, st₃, h₃, h⟩ := outcome_bind_ok.1 h
  rw [outcome_mapM_lift] at h₃
  obtain ⟨haxes, rfl⟩ := Prod.mk.inj h₃
  split at h
  · cases h
  · rename_i known hknown
    rw [outcome_bind_of_ok (outcome_record _ _)] at h
    obtain ⟨hs, -⟩ := outcome_pure_ok.1 h
    obtain rfl := Option.some.inj hs
    rw [(exceptMapM_ok.1 haxes).length_eq, optionMapM_id_some.1 hknown, List.length_map]
    rfl

theorem holding_indexed (output : List OutputIndex) (body : Value) (reduce : Callable) (source : Option Node)
    (k : Container) (e : ElementType) :
    Holding (output.flatMap OutputIndex.nodes ++ body.nodes ++ reduce.nodes ++ nodesOfSource source)
      (indexed output body reduce source k e) Node.nodes := by
  intro st st' n hw hg h m hm
  obtain ⟨st₁, info, st₂, info', hn, -, -, hshape, hplain, hslots, hnext⟩ := indexed_spec h
  rw [hn.nodes_eq] at hm
  rcases List.mem_cons.1 hm with rfl | hm
  · refine Store.holds_of_slot hn.id_eq (DeclaredType.isArray_of_plain hn.type_eq) (fun s hs => ?_) hplain hslots hnext
    subst hs
    rw [DeclaredType.rank_of_plain hn.type_eq, DeclaredType.rank, rank_of_outputShape hshape]
  · exact (hg m hm).grown ((grows_indexed output body reduce source k e).of_ok hw h)

theorem holding_arrayOp (output body reduce source container : Value) :
    Holding (output.nodes ++ body.nodes ++ reduce.nodes ++ source.nodes) (arrayOp output body reduce source container)
      Node.nodes := by
  intro st st' n hw hg h m hm
  obtain ⟨st₁, h₁, hslots, hnext⟩ := arrayOp_ok h
  obtain ⟨out, f, src, e, k, hout, hf, hsrc, -, -, h₂⟩ := arrayOpNode_ok.1 h₁
  refine Store.Holds.of_eq (holding_indexed out body f src k e st st₁ n hw (fun m hm => hg m ?_) h₂ m hm) hslots hnext
  rw [Value.callable?_nodes hf]
  simp only [List.mem_append] at hm ⊢
  rcases hm with ((hm | hm) | hm) | hm
  · exact .inl (.inl (.inl (Value.toOutput_nodes hout hm)))
  · exact .inl (.inl (.inr hm))
  · exact .inl (.inr hm)
  · exact .inr (Value.toSource_nodes hsrc hm)

end Build

end ArrayTyping
