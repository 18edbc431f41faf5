import ArrayTyping.Proofs.Applying
import ArrayTyping.Proofs.Resolution
/-!
# IndexNotation — whole arrays element by element

A matrix product, a reversal and a product element by element can be written out over index symbols.  The shape of what
is written out is resolved from the uses of its symbols, the shape of the whole-array operation is propagated by a rule,
and both come to the same axes.
-/
namespace ArrayTyping

open Build (outcome)

/-! ## Symbols as keys and outputs -/

/-- Scalar symbols no two of which stand for the same variable. -/
structure IndexSymbols (ss : List Symbol) : Prop where
  scalar : ∀ s ∈ ss, s.type.isArray = false
  distinct : ss.Pairwise fun s t => s.same t = false

theorem IndexSymbols.sublist {ss ts : List Symbol} (h : IndexSymbols ss) (hsub : ts.Sublist ss) : IndexSymbols ts where
  scalar t ht := h.scalar t (hsub.subset ht)
  distinct := h.distinct.sublist hsub

/-- Two places that hold the same variable are one place. -/
theorem IndexSymbols.eq_of_same {ss : List Symbol} (h : IndexSymbols ss) {p q : Nat} {s t : Symbol}
    (hp : ss[p]? = some s) (hq : ss[q]? = some t) (hst : s.same t = true) : p = q := by
  obtain ⟨hp', rfl⟩ := List.getElem?_eq_some_iff.1 hp
  obtain ⟨hq', rfl⟩ := List.getElem?_eq_some_iff.1 hq
  have hdiff := List.pairwise_iff_getElem.1 h.distinct
  rcases Nat.lt_trichotomy p q with hlt | heq | hgt
  · rw [hdiff p q hp' hq' hlt] at hst
    cases hst
  · exact heq
  · rw [Symbol.same_comm, hdiff q p hq' hp' hgt] at hst
    cases hst

def Symbol.toValue (s : Symbol) : Value := .node (.symbol s)

def elementUses (array : Value) (ss : List Symbol) : List Use := keyUses array 1 (ss.map Symbol.toValue)

theorem keyUses_symbols (array : Value) (d : Nat) (ss : List Symbol) :
    keyUses array d (ss.map Symbol.toValue) = (ss.zipIdx d).map fun e => ⟨e.1, array, e.2⟩ := by
  induction ss generalizing d with
  | nil => rfl
  | cons s ss ih =>
    rw [List.map_cons, keyUses_cons, ih, List.zipIdx_cons, List.map_cons]
    rfl

theorem getElem?_elementUses (array : Value) (ss : List Symbol) (p : Nat) :
    (elementUses array ss)[p]? = ss[p]?.map fun s => ⟨s, array, p + 1⟩ := by
  rw [elementUses, keyUses_symbols, List.getElem?_map, List.getElem?_zipIdx, Option.map_map]
  cases ss[p]? with
  | none => rfl
  | some s => simp [Nat.add_comm]

theorem mem_elementUses {array : Value} {ss : List Symbol} {u : Use} :
    u ∈ elementUses array ss ↔ ∃ p s, ss[p]? = some s ∧ u = ⟨s, array, p + 1⟩ := by
  rw [List.mem_iff_getElem?]
  constructor
  · rintro ⟨p, hp⟩
    rw [getElem?_elementUses] at hp
    obtain ⟨s, hs, rfl⟩ := Option.map_eq_some_iff.1 hp
    exact ⟨p, s, hs, rfl⟩
  · rintro ⟨p, s, hs, rfl⟩
    exact ⟨p, by rw [getElem?_elementUses, hs]; rfl⟩

theorem firstUse?_elementUses {array : Value} {ss : List Symbol} (h : IndexSymbols ss) {p : Nat} {s : Symbol}
    (hs : ss[p]? = some s) : firstUse? (elementUses array ss) s = some ⟨s, array, p + 1⟩ := by
  cases hf : firstUse? (elementUses array ss) s with
  | none =>
    have hmem : (⟨s, array, p + 1⟩ : Use) ∈ elementUses array ss := mem_elementUses.2 ⟨p, s, hs, rfl⟩
    have hdiff := firstUse?_eq_none.1 hf _ hmem
    rw [s.same_refl] at hdiff
    cases hdiff
  | some u =>
    obtain ⟨hu, hsame⟩ := firstUse?_eq_some hf
    obtain ⟨q, t, ht, rfl⟩ := mem_elementUses.1 hu
    obtain rfl := h.eq_of_same ht hs hsame
    rw [hs] at ht
    rw [Option.some.inj ht]

def axisOf (slots : Slots) (uses : List Use) (s : Symbol) : Option Axis := (firstUse? uses s).bind (Use.axis? slots)

theorem axesOf_elementUses {slots : Slots} {array : Value} {l : Shape} {ss : List Symbol} (h : IndexSymbols ss)
    (hl : slots.shapeOf array = .ok (some l)) (hlen : ss.length = l.rank) :
    ss.map (axisOf slots (elementUses array ss)) = l.axes.map some := by
  refine List.ext_getElem? fun p => ?_
  rw [List.getElem?_map, List.getElem?_map]
  cases hs : ss[p]? with
  | none =>
    have hp := List.getElem?_eq_none_iff.1 hs
    rw [hlen] at hp
    rw [List.getElem?_eq_none (show l.axes.length ≤ p from hp)]
    rfl
  | some s =>
    have hp : p < l.axes.length := by
      have hp := (List.getElem?_eq_some_iff.1 hs).1
      rw [hlen] at hp
      exact hp
    rw [Option.map_some, axisOf, firstUse?_elementUses h hs, List.getElem?_eq_getElem hp]
    show some (Use.axis? slots ⟨s, array, p + 1⟩) = some (some l.axes[p])
    rw [Use.axis?_of_known hl, Shape.axis, Nat.add_sub_cancel, List.getD_eq_getElem?_getD, List.getElem?_eq_getElem hp]
    rfl

theorem axisOf_append_of_some {slots : Slots} {us vs : List Use} {s : Symbol} {a : Axis}
    (h : axisOf slots us s = some a) : axisOf slots (us ++ vs) s = some a := by
  obtain ⟨u, hu, ha⟩ := Option.bind_eq_some_iff.1 h
  rw [axisOf, firstUse?, List.find?_append, show us.find? _ = some u from hu]
  exact ha

theorem axesOf_append {slots : Slots} {us : List Use} (vs : List Use) {ss : List Symbol} {axes : List Axis}
    (h : ss.map (axisOf slots us) = axes.map some) : ss.map (axisOf slots (us ++ vs)) = axes.map some := by
  rw [← h]
  refine List.map_congr_left fun s hs => ?_
  have hmem : axisOf slots us s ∈ axes.map some := h ▸ List.mem_map_of_mem hs
  obtain ⟨a, -, ha⟩ := List.mem_map.1 hmem
  rw [← ha, axisOf_append_of_some ha.symm]

theorem axisOf_append_of_unused {slots : Slots} {us vs : List Use} {s : Symbol}
    (h : ∀ u ∈ us, u.symbol.same s = false) : axisOf slots (us ++ vs) s = axisOf slots vs s := by
  rw [axisOf, firstUse?, List.find?_append, show us.find? _ = none from firstUse?_eq_none.2 h]
  rfl

theorem eq_of_same_elementUses {array : Value} {ss : List Symbol} (h : IndexSymbols ss) {u v : Use}
    (hu : u ∈ elementUses array ss) (hv : v ∈ elementUses array ss)
    (hsame : u.symbol.same v.symbol = true) : u = v := by
  obtain ⟨p, s, hs, rfl⟩ := mem_elementUses.1 hu
  obtain ⟨q, t, ht, rfl⟩ := mem_elementUses.1 hv
  obtain rfl := h.eq_of_same hs ht hsame
  rw [hs] at ht
  rw [Option.some.inj ht]

theorem not_conflicting_elementUses {slots : Slots} {array : Value} {ss : List Symbol} (h : IndexSymbols ss) :
    ¬ Conflicting slots (elementUses array ss) := by
  rintro ⟨u, hu, v, hv, hsame, a, b, ha, hb, hne⟩
  obtain rfl := eq_of_same_elementUses h hu hv hsame
  rw [ha] at hb
  exact hne (congrArg Axis.toList (Option.some.inj hb))

/-- **Two arrays indexed by distinct symbols conflict exactly at a symbol they share.** -/
theorem conflicting_pair_iff {slots : Slots} {left right : Value} {l r : Shape} {ls rs : List Symbol}
    (hl : slots.shapeOf left = .ok (some l)) (hr : slots.shapeOf right = .ok (some r)) (hls : IndexSymbols ls)
    (hrs : IndexSymbols rs) :
    Conflicting slots (elementUses left ls ++ elementUses right rs) ↔
      ∃ p q s t, ls[p]? = some s ∧ rs[q]? = some t ∧ s.same t = true ∧
        (l.axis (p + 1)).toList ≠ (r.axis (q + 1)).toList := by
  constructor
  · rintro ⟨u, hu, v, hv, hsame, a, b, ha, hb, hne⟩
    have hself : u ≠ v := by
      rintro rfl
      rw [ha] at hb
      exact hne (congrArg Axis.toList (Option.some.inj hb))
    rcases List.mem_append.1 hu with hu | hu <;> rcases List.mem_append.1 hv with hv | hv
    · exact absurd (eq_of_same_elementUses hls hu hv hsame) hself
    · obtain ⟨p, s, hs, rfl⟩ := mem_elementUses.1 hu
      obtain ⟨q, t, ht, rfl⟩ := mem_elementUses.1 hv
      rw [Use.axis?_of_known hl] at ha
      rw [Use.axis?_of_known hr] at hb
      rw [← Option.some.inj ha, ← Option.some.inj hb] at hne
      exact ⟨p, q, s, t, hs, ht, hsame, hne⟩
    · obtain ⟨q, t, ht, rfl⟩ := mem_elementUses.1 hu
      obtain ⟨p, s, hs, rfl⟩ := mem_elementUses.1 hv
      rw [Use.axis?_of_known hr] at ha
      rw [Use.axis?_of_known hl] at hb
      rw [← Option.some.inj ha, ← Option.some.inj hb] at hne
      exact ⟨p, q, s, t, hs, ht, by rw [Symbol.same_comm]; exact hsame, hne.symm⟩
    · exact absurd (eq_of_same_elementUses hrs hu hv hsame) hself
  · rintro ⟨p, q, s, t, hs, ht, hsame, hne⟩
    refine ⟨⟨s, left, p + 1⟩, List.mem_append_left _ (mem_elementUses.2 ⟨p, s, hs, rfl⟩), ⟨t, right, q + 1⟩,
      List.mem_append_right _ (mem_elementUses.2 ⟨q, t, ht, rfl⟩), hsame, _, _, Use.axis?_of_known hl,
      Use.axis?_of_known hr, hne⟩

theorem not_conflicting_alike_iff {slots : Slots} {left right : Value} {l r : Shape} {ss : List Symbol}
    (hl : slots.shapeOf left = .ok (some l)) (hr : slots.shapeOf right = .ok (some r)) (h : IndexSymbols ss)
    (hlen : ss.length = l.rank) (hlen' : ss.length = r.rank) :
    ¬ Conflicting slots (elementUses left ss ++ elementUses right ss) ↔ SameIndices l.axes r.axes := by
  rw [conflicting_pair_iff hl hr h h]
  constructor
  · intro hno
    refine List.forall₂_iff_get.2 ⟨hlen.symm.trans hlen', fun p hp hq => ?_⟩
    have hp' : p < ss.length := hlen ▸ hp
    refine Decidable.byContradiction fun hne => hno ⟨p, p, ss[p], ss[p], List.getElem?_eq_getElem hp',
      List.getElem?_eq_getElem hp', Symbol.same_refl _, ?_⟩
    rw [Shape.axis_of_lt hp, Shape.axis_of_lt hq]
    exact hne
  · rintro hsame ⟨p, q, s, t, hs, ht, hst, hne⟩
    obtain rfl := h.eq_of_same hs ht hst
    have hp := (List.getElem?_eq_some_iff.1 hs).1
    have hl : p < l.axes.length := Nat.lt_of_lt_of_eq hp hlen
    have hr : p < r.axes.length := Nat.lt_of_lt_of_eq hp hlen'
    rw [Shape.axis_of_lt hl, Shape.axis_of_lt hr] at hne
    exact hne ((List.forall₂_iff_get.1 hsame).2 p hl hr)

theorem not_conflicting_matrices_iff {slots : Slots} {left right : Value} {l r : Shape} {ls rs : List Axis}
    {x y z w : Axis} {stack : List Symbol} {i j k : Symbol} (hl : slots.shapeOf left = .ok (some l))
    (hr : slots.shapeOf right = .ok (some r)) (hlm : l.IsMatrices ls x y) (hrm : r.IsMatrices rs z w)
    (hlen : stack.length = ls.length) (hlen' : stack.length = rs.length) (h : IndexSymbols (stack ++ [i, j, k])) :
    ¬ Conflicting slots (elementUses left (stack ++ [i, j]) ++ elementUses right (stack ++ [j, k])) ↔
      y.toList = z.toList ∧ SameIndices ls rs := by
  have hls : IndexSymbols (stack ++ [i, j]) := h.sublist (by simp)
  have hrs : IndexSymbols (stack ++ [j, k]) := h.sublist (by simp)
  rw [conflicting_pair_iff hl hr hls hrs]
  constructor
  · intro hno
    refine ⟨?_, List.forall₂_iff_get.2 ⟨hlen.symm.trans hlen', fun p hp hq => ?_⟩⟩
    · refine Decidable.byContradiction fun hne => hno ⟨ls.length + 1, rs.length, j, j, ?_, ?_, j.same_refl, ?_⟩
      · simp [← hlen]
      · simp [← hlen']
      · rw [hlm.axis_columns, hrm.axis_rows]
        exact hne
    · have hp' : p < stack.length := hlen ▸ hp
      have hget : ∀ ts, (stack ++ ts)[p]? = some stack[p] := fun ts => by
        rw [List.getElem?_append_left hp', List.getElem?_eq_getElem hp']
      refine Decidable.byContradiction fun hne => hno ⟨p, p, stack[p], stack[p], hget _, hget _, Symbol.same_refl _, ?_⟩
      rw [hlm.axis_stack hp, hrm.axis_stack hq]
      exact hne
  · rintro ⟨hyz, hstack⟩ ⟨p, q, s, t, hs, ht, hst, hne⟩
    -- every symbol has one place among all of them; from the inner symbol on, the right operand is one place behind
    have hlt : p < stack.length + 2 := by
      have hlt := (List.getElem?_eq_some_iff.1 hs).1
      rwa [List.length_append] at hlt
    have hp : (stack ++ [i, j, k])[p]? = some s := by
      rw [show stack ++ [i, j, k] = (stack ++ [i, j]) ++ [k] by simp,
        List.getElem?_append_left (by simpa using hlt), hs]
    by_cases hq : q < stack.length
    · have hq' : (stack ++ [i, j, k])[q]? = some t := by
        rw [List.getElem?_append_left hq, ← ht, List.getElem?_append_left hq]
      obtain rfl := h.eq_of_same hp hq' hst
      rw [hlm.axis_stack (hlen ▸ hq), hrm.axis_stack (hlen' ▸ hq)] at hne
      exact hne ((List.forall₂_iff_get.1 hstack).2 p (hlen ▸ hq) (hlen' ▸ hq))
    · have hle := Nat.le_of_not_lt hq
      have hq' : (stack ++ [i, j, k])[q + 1]? = some t := by
        rw [List.getElem?_append_right (Nat.le_succ_of_le hle), ← ht, List.getElem?_append_right hle, Nat.succ_sub hle]
        rfl
      obtain rfl := h.eq_of_same hp hq' hst
      obtain rfl : q = stack.length := by omega
      rw [hlen, hlm.axis_columns, ← hlen, hlen', hrm.axis_rows] at hne
      exact hne hyz

theorem readable_elementUses {slots : Slots} {array : Value} {l : Shape} (hl : slots.shapeOf array = .ok (some l))
    (ss : List Symbol) : ∀ u ∈ elementUses array ss, u.Readable slots := by
  intro u hu
  obtain ⟨p, s, -, rfl⟩ := mem_elementUses.1 hu
  exact ⟨⟨_, hl⟩, Nat.succ_pos p⟩

/-! ## Building the notation -/

/-- The key that symbols make in a subscript: a single one stands for itself. -/
def subscriptOf : List Symbol → Value
  | [s] => s.toValue
  | ss => .ofItems (ss.map Symbol.toValue)

theorem indexKeys_subscriptOf (ss : List Symbol) : Build.indexKeys (subscriptOf ss) = ss.map Symbol.toValue := by
  unfold subscriptOf
  split
  · rfl
  · rfl

namespace Build

def element (array : Node) (ss : List Symbol) : Build Node := index (.node array) (subscriptOf ss)

def comprehension (output : List Symbol) (body : Value) : Build Node :=
  arrayOp (.ofItems (output.map Symbol.toValue)) body (.callable (.primitive .add)) .none (.kind .plain)

def productByIndices (output : List Symbol) (left : Node) (ls : List Symbol) (right : Node) (rs : List Symbol) :
    Build Node := do
  let a ← element left ls
  let b ← element right rs
  let body ← binary .mul (.node a) (.node b)
  comprehension output body

def rearranged (output : List Symbol) (array : Node) (ss : List Symbol) : Build Node := do
  let a ← element array ss
  comprehension output (.node a)

theorem toOutput_symbols {ss : List Symbol} (h : ∀ s ∈ ss, s.type.isArray = false) :
    (Value.ofItems (ss.map Symbol.toValue)).toOutput = .ok (ss.map .symbol) := by
  show (ss.map Symbol.toValue).mapM OutputIndex.ofValue = _
  rw [exceptMapM_ok, List.forall₂_map_left_iff, List.forall₂_map_right_iff, List.forall₂_same]
  intro s hs
  rw [Symbol.toValue, OutputIndex.ofValue, h s hs]
  rfl

variable {output : List Symbol} {body : Node} {st : Store}

theorem outcome_comprehension (hw : st.WellFormed) (hout : ∀ s ∈ output, s.type.isArray = false)
    (hb : body.WellIndexed) (hr : ∀ u ∈ body.uses, u.Readable st.slots) (hc : ¬ Conflicting st.slots body.uses)
    {axes : List Axis} (haxes : output.map (axisOf st.slots body.uses) = axes.map some) :
    ∃ p st' s, outcome (comprehension output (.node body)) st = (.ok p, st') ∧ st'.HasArray p s ∧
      s.plain = (Shape.ofAxes axes).plain := by
  have hused : ¬ Unresolved body.uses (output.map .symbol) := by
    rintro ⟨s, hs, hno⟩
    obtain ⟨t, ht, heq⟩ := List.mem_map.1 hs
    cases heq
    have hmem : axisOf st.slots body.uses s ∈ axes.map some := haxes ▸ List.mem_map_of_mem ht
    rw [axisOf, firstUse?_eq_none.2 hno] at hmem
    obtain ⟨a, -, ha⟩ := List.mem_map.1 hmem
    cases ha
  have hshape : ∀ st₁ : Store, st₁.slots = st.slots →
      (outcome (outputShape (output.map .symbol) (.node body)) st₁).1 = .ok (some (.ofAxes axes)) := by
    intro st₁ hst₁
    have hmap : (output.map OutputIndex.symbol).map (OutputIndex.axis? st.slots body.uses) = axes.map some := by
      rw [List.map_map, ← haxes]
      rfl
    rw [← hst₁] at hr hc hmap
    rw [outputShape_of_consistent _ (show (Value.node body).WellIndexed from hb) hr hc,
      axes_of_not_unresolved (show ∀ u ∈ (Value.node body).uses, u.Readable st₁.slots from hr) _ hused,
      show (Value.node body).uses = body.uses from rfl, hmap]
    show Except.ok (((axes.map some).mapM id).map Shape.ofAxes) = _
    rw [optionMapM_id_some.2 rfl]
    rfl
  obtain ⟨e, he⟩ := bodyElementType_node body
  obtain ⟨p, st₁, h₁⟩ := outcome_indexed (.primitive .add) none .plain e hw fun st₁ hs _ => ⟨_, hshape st₁ hs⟩
  obtain ⟨st₂, info, st₃, info', hn, hs₂, -, h₂, hplain, hslots, hnext⟩ := indexed_spec h₁
  have hinfo : info = some (.ofAxes axes) := by
    have hi := hshape st₂ hs₂
    rw [h₂] at hi
    exact Except.ok.inj hi
  rw [hinfo] at hplain
  obtain ⟨s, rfl, hs⟩ := Option.map_eq_some_iff.1 (hplain.trans (Option.map_some ..))
  have hget : st₁.slots.shapeOf (.node p) = .ok (some s) :=
    Slots.shapeOf_of_slot (by rw [hslots, Slots.get?_insert_self])
  have hnode := arrayOpNode_ok.2 ⟨_, _, _, _, _, toOutput_symbols hout,
    show (Value.callable (.primitive .add)).callable? = some _ from rfl,
    show Value.none.toSource = .ok none from rfl, he,
    show (Value.kind .plain).toContainer = .ok .plain from rfl, h₁⟩
  obtain ⟨st', h', hs', hn'⟩ := outcome_arrayOp hnode hget
  have hlen : output.length = axes.length := by
    have h := congrArg List.length haxes
    rwa [List.length_map, List.length_map] at h
  refine ⟨p, st', s, h', ⟨?_, DeclaredType.isArray_of_plain hn.type_eq, ?_, by rw [hs']; exact hget⟩, hs⟩
  · rw [hn.id_eq, hn']
    exact hnext
  · rw [DeclaredType.rank_of_plain hn.type_eq, DeclaredType.rank, List.length_map, hlen, Shape.rank_of_plain hs]
    rfl

theorem not_conflicting_of_comprehension {p : Node} {st' : Store} (hb : body.WellIndexed)
    (hr : ∀ u ∈ body.uses, u.Readable st.slots) (h : outcome (comprehension output (.node body)) st = (.ok p, st')) :
    ¬ Conflicting st.slots body.uses := by
  intro hc
  obtain ⟨st₁, h₁, -⟩ := arrayOp_ok h
  obtain ⟨out, f, src, e, k, -, -, -, -, -, h₂⟩ := arrayOpNode_ok.1 h₁
  obtain ⟨st₂, info, st₃, info', -, hs, -, h₃, -⟩ := indexed_spec h₂
  rw [← hs] at hr hc
  obtain ⟨f, hf, -⟩ := outputShape_of_conflicting out (show (Value.node body).WellIndexed from hb) hr hc
  rw [h₃] at hf
  cases hf

theorem outcome_element {array : Node} (ha : array.isArray = true) {ss : List Symbol}
    (hss : ∀ s ∈ ss, s.type.isArray = false) (st : Store) :
    ∃ x st', outcome (element array ss) st = (.ok x, st') ∧ x.isArray = false ∧ x.WellIndexed ∧
      x.uses = elementUses (.node array) ss ∧ st'.slots = st.slots ∧ st.next < st'.next := by
  have hkey : indexKeys (subscriptOf ss) = (ss.map Node.symbol).map .node := by
    rw [indexKeys_subscriptOf, List.map_map]
    rfl
  have hkeys : ∀ k ∈ ss.map Node.symbol, k.isArray = false := by
    intro k hk
    obtain ⟨s, hs, rfl⟩ := List.mem_map.1 hk
    exact hss s hs
  obtain ⟨x, st', hx, hn, hst⟩ := outcome_index_scalars ha hkeys hkey st
  obtain ⟨huses, hwell⟩ := hn.walk_indexing (isOperand_nodes _)
  refine ⟨x, st', hx, DeclaredType.isArray_of_plain hn.type_eq, hwell, ?_, hst⟩
  rw [huses, List.map_map]
  rfl

theorem outcome_mul_scalars {a b : Node} (ha : a.isArray = false) (hb : b.isArray = false) (hwa : a.WellIndexed)
    (hwb : b.WellIndexed) (st : Store) :
    ∃ x st', outcome (binary .mul (.node a) (.node b)) st = (.ok (.node x), st') ∧ x.WellIndexed ∧
      x.uses = a.uses ++ b.uses ∧ st'.slots = st.slots ∧ st.next < st'.next := by
  have hscalar : ∀ n ∈ [a, b], n.isArray = false := List.forall_mem_cons.2 ⟨ha, List.forall_mem_singleton.2 hb⟩
  obtain ⟨x, st', e, hx, hn, hst⟩ := outcome_apply_scalars .builtin .mul hscalar st
  obtain ⟨huses, hwell⟩ := hn.walk rfl (isOperand_nodes _)
  refine ⟨x, st', ?_, hwell.2 ⟨hwa, hwb, trivial⟩, ?_, hst⟩
  · show outcome (do return Value.node (← apply .builtin (.callable (.primitive .mul)) ([a, b].map .node))) st = _
    rw [outcome_bind_of_ok hx]
    rfl
  · rw [huses]
    show a.uses ++ (b.uses ++ []) = _
    rw [List.append_nil]

variable {left right : Node} {l r : Shape} {ls rs : List Symbol}

theorem outcome_productByIndices (output : List Symbol) (hl : left.isArray = true) (hr : right.isArray = true)
    (hls : IndexSymbols ls) (hrs : IndexSymbols rs) (st : Store) :
    ∃ body st₁,
      outcome (productByIndices output left ls right rs) st = outcome (comprehension output (.node body)) st₁ ∧
      body.WellIndexed ∧ body.uses = elementUses (.node left) ls ++ elementUses (.node right) rs ∧
      st₁.slots = st.slots ∧ st.next ≤ st₁.next := by
  obtain ⟨a, st₁, h₁, ha, hwa, hua, hs₁, hn₁⟩ := outcome_element hl hls.scalar st
  obtain ⟨b, st₂, h₂, hb, hwb, hub, hs₂, hn₂⟩ := outcome_element hr hrs.scalar st₁
  obtain ⟨body, st₃, h₃, hw, hu, hs₃, hn₃⟩ := outcome_mul_scalars ha hb hwa hwb st₂
  refine ⟨body, st₃, ?_, hw, by rw [hu, hua, hub], by rw [hs₃, hs₂, hs₁], ?_⟩
  · unfold productByIndices
    rw [outcome_bind_of_ok h₁, outcome_bind_of_ok h₂, outcome_bind_of_ok h₃]
  · exact Nat.le_of_lt (Nat.lt_trans hn₁ (Nat.lt_trans hn₂ hn₃))

theorem not_conflicting_of_productByIndices (hl : st.HasArray left l) (hr : st.HasArray right r) (hls : IndexSymbols ls)
    (hrs : IndexSymbols rs) {p : Node} {st' : Store}
    (h : outcome (productByIndices output left ls right rs) st = (.ok p, st')) :
    ¬ Conflicting st.slots (elementUses (.node left) ls ++ elementUses (.node right) rs) := by
  obtain ⟨body, st₁, heq, hw, hu, hs, -⟩ := outcome_productByIndices output hl.isArray hr.isArray hls hrs st
  have hread : ∀ u ∈ body.uses, u.Readable st₁.slots := by
    rw [hu, hs]
    exact List.forall_mem_append.2 ⟨readable_elementUses hl.shape_eq ls, readable_elementUses hr.shape_eq rs⟩
  rw [← hu, ← hs]
  exact not_conflicting_of_comprehension hw hread (heq ▸ h)

theorem productByIndices_of_axes (hw : st.WellFormed) (hl : st.HasArray left l) (hr : st.HasArray right r)
    (hout : ∀ s ∈ output, s.type.isArray = false) (hls : IndexSymbols ls) (hrs : IndexSymbols rs)
    (hc : ¬ Conflicting st.slots (elementUses (.node left) ls ++ elementUses (.node right) rs)) {axes : List Axis}
    (haxes : output.map (axisOf st.slots (elementUses (.node left) ls ++ elementUses (.node right) rs)) =
      axes.map some) :
    ∃ p st' s, outcome (productByIndices output left ls right rs) st = (.ok p, st') ∧ st'.HasArray p s ∧
      s.plain = (Shape.ofAxes axes).plain := by
  obtain ⟨body, st₁, heq, hwi, hu, hs, hn⟩ := outcome_productByIndices output hl.isArray hr.isArray hls hrs st
  have hread : ∀ u ∈ body.uses, u.Readable st₁.slots := by
    rw [hu, hs]
    exact List.forall_mem_append.2 ⟨readable_elementUses hl.shape_eq ls, readable_elementUses hr.shape_eq rs⟩
  rw [← hu, ← hs] at hc haxes
  rw [heq]
  exact outcome_comprehension (Store.Grown.of_slots_eq hw hs hn).wellFormed hout hwi hread hc haxes

/-! ## Agreement with the rules of whole arrays -/

/-- Two arrays of one rank whose shapes are known and equal. -/
def SameShape (st : Store) (p q : Node) : Prop :=
  p.type.rank = q.type.rank ∧ ∃ s t, st.slots.shapeOf (.node p) = .ok (some s) ∧
    st.slots.shapeOf (.node q) = .ok (some t) ∧ s.plain = t.plain

theorem sameShape_of_hasArray {p q : Node} {s t : Shape} (hp : st.HasArray p s) (hq : st.HasArray q t)
    (h : s.plain = t.plain) : SameShape st p q :=
  ⟨by rw [hp.rank_eq, hq.rank_eq, Shape.rank_of_plain h], s, t, hp.shape_eq, hq.shape_eq, h⟩

/-- What an operation on whole arrays builds after `byIndices`, of the axes that `byIndices` has, has its shape. -/
theorem sameShape_of_outcomes {α : Type} {byIndices : Build Node} {whole : Build α} (wrap : Node → α)
    (hgi : Grows byIndices) (hgw : Grows whole) {st : Store} (hw : st.WellFormed) {axes : List Axis}
    (hi : ∃ p st' s, outcome byIndices st = (.ok p, st') ∧ st'.HasArray p s ∧ s.plain = (Shape.ofAxes axes).plain)
    (hwhole : ∀ st', st.Grown st' → ∃ q st'' t, outcome whole st' = (.ok (wrap q), st'') ∧ st''.HasArray q t ∧
      t.plain = (Shape.ofAxes axes).plain) {p : Node} {st' : Store} (hp : outcome byIndices st = (.ok p, st')) :
    ∃ q st'', outcome whole st' = (.ok (wrap q), st'') ∧ SameShape st'' p q := by
  obtain ⟨p', st₁, s, hp', hs, hplain⟩ := hi
  obtain ⟨rfl, rfl⟩ : p = p' ∧ st' = st₁ := by
    rw [hp] at hp'
    exact ⟨Except.ok.inj (Prod.mk.inj hp').1, (Prod.mk.inj hp').2⟩
  have hg := hgi.of_ok hw hp
  obtain ⟨q, st'', t, hq, ht, hplain'⟩ := hwhole st' hg
  have hg' := hgw.of_ok hg.wellFormed hq
  exact ⟨q, st'', hq, sameShape_of_hasArray (hs.grown hg') ht (hplain.trans hplain'.symm)⟩

theorem grows_productByIndices (output : List Symbol) (left : Node) (ls : List Symbol) (right : Node)
    (rs : List Symbol) :
    Grows (productByIndices output left ls right rs) :=
  (grows_index _ _).bind fun _ => (grows_index _ _).bind fun _ =>
    (grows_binary _ _ _).bind fun _ => grows_arrayOp _ _ _ _ _

theorem grows_rearranged (output : List Symbol) (array : Node) (ss : List Symbol) :
    Grows (rearranged output array ss) :=
  (grows_index _ _).bind fun _ => grows_arrayOp _ _ _ _ _

section Matrices

variable {stack : List Symbol} {i j k : Symbol} {la ra : List Axis} {x y z w : Axis}

theorem map_append_pair_inj {α β γ : Type} {f : α → γ} {g : β → γ} {as : List α} {bs : List β} {a a' : α} {b b' : β}
    (hlen : as.length = bs.length) (h : (as ++ [a, a']).map f = (bs ++ [b, b']).map g) :
    as.map f = bs.map g ∧ f a = g b ∧ f a' = g b' := by
  rw [List.map_append, List.map_append] at h
  obtain ⟨hfront, hpair⟩ := List.append_inj h (by rw [List.length_map, List.length_map, hlen])
  injection hpair with ha hrest
  injection hrest with ha'
  exact ⟨hfront, ha, ha'⟩

theorem axesOf_matrices (hl : st.HasArray left l) (hr : st.HasArray right r) (hlm : l.IsMatrices la x y)
    (hrm : r.IsMatrices ra z w) (hlen : stack.length = la.length) (hlen' : stack.length = ra.length)
    (h : IndexSymbols (stack ++ [i, j, k])) :
    (stack ++ [i, k]).map (axisOf st.slots
      (elementUses (.node left) (stack ++ [i, j]) ++ elementUses (.node right) (stack ++ [j, k]))) =
      (la ++ [x, w]).map some := by
  have hleft := axesOf_elementUses (h.sublist (by simp) : IndexSymbols (stack ++ [i, j])) hl.shape_eq
    (by rw [hlm.rank_eq, ← hlen, List.length_append]; rfl)
  have hright := axesOf_elementUses (h.sublist (by simp) : IndexSymbols (stack ++ [j, k])) hr.shape_eq
    (by rw [hrm.rank_eq, ← hlen', List.length_append]; rfl)
  have hunused : ∀ u ∈ elementUses (.node left) (stack ++ [i, j]), u.symbol.same k = false := by
    intro u hu
    obtain ⟨p, s, hs, rfl⟩ := mem_elementUses.1 hu
    have hd := h.distinct
    rw [show stack ++ [i, j, k] = (stack ++ [i, j]) ++ [k] by simp, List.pairwise_append] at hd
    exact hd.2.2 s (List.mem_of_getElem? hs) k (List.mem_singleton_self k)
  rw [hlm.axes_eq] at hleft
  rw [hrm.axes_eq] at hright
  obtain ⟨hstack, hi, -⟩ := map_append_pair_inj hlen hleft
  obtain ⟨-, -, hk⟩ := map_append_pair_inj hlen' hright
  rw [List.map_append, List.map_append, axesOf_append _ hstack]
  simp only [List.map_cons, List.map_nil, axisOf_append_of_some hi, axisOf_append_of_unused hunused, hk]

theorem outcome_matmul_matrices (hw : st.WellFormed) (hl : st.HasArray left l) (hr : st.HasArray right r)
    (hlm : l.IsMatrices la x y) (hrm : r.IsMatrices ra z w) (hyz : y.toList = z.toList) (hstack : SameIndices la ra)
    (hm : Measured la) :
    ∃ p st' s, outcome (matmul .builtin (.node left) (.node right)) st = (.ok p, st') ∧ st'.HasArray p s ∧
      s.plain = (Shape.ofAxes (la ++ [x, w])).plain := by
  refine outcome_matmul hw hl hr ?_ (Shape.product_of_isMatrices hlm hrm hyz hstack hm)
  have hrank : (Shape.ofAxes (la ++ [x, w])).rank = la.length + 2 := List.length_append
  rw [hlm.rank_eq, hrm.rank_eq, ← hstack.length_eq, hrank, productRank?]
  rw [if_neg (by omega), if_neg (by omega), if_neg (by omega), if_neg (by omega), Nat.max_self]

/-- **A matrix product by indices is the matrix product**, and is built exactly if stacks and inner axes agree. -/
theorem productByIndices_matrices (hw : st.WellFormed) (hl : st.HasArray left l) (hr : st.HasArray right r)
    (hlm : l.IsMatrices la x y) (hrm : r.IsMatrices ra z w) (hlen : stack.length = la.length)
    (hlen' : stack.length = ra.length) (hm : Measured la) (h : IndexSymbols (stack ++ [i, j, k])) :
    let byIndices := productByIndices (stack ++ [i, k]) left (stack ++ [i, j]) right (stack ++ [j, k])
    ((∃ p st', outcome byIndices st = (.ok p, st')) ↔ y.toList = z.toList ∧ SameIndices la ra) ∧
    ∀ p st', outcome byIndices st = (.ok p, st') →
      ∃ q st'', outcome (matmul .builtin (.node left) (.node right)) st' = (.ok q, st'') ∧ SameShape st'' p q := by
  intro byIndices
  have hls : IndexSymbols (stack ++ [i, j]) := h.sublist (by simp)
  have hrs : IndexSymbols (stack ++ [j, k]) := h.sublist (by simp)
  have hout : IndexSymbols (stack ++ [i, k]) := h.sublist (by simp)
  have hiff := not_conflicting_matrices_iff hl.shape_eq hr.shape_eq hlm hrm hlen hlen' h
  have hbuild : y.toList = z.toList ∧ SameIndices la ra → ∃ p st' s, outcome byIndices st = (.ok p, st') ∧
      st'.HasArray p s ∧ s.plain = (Shape.ofAxes (la ++ [x, w])).plain := fun hagree =>
    productByIndices_of_axes hw hl hr hout.scalar hls hrs (hiff.2 hagree) (axesOf_matrices hl hr hlm hrm hlen hlen' h)
  have hagree : ∀ p st', outcome byIndices st = (.ok p, st') → y.toList = z.toList ∧ SameIndices la ra :=
    fun p st' hp => hiff.1 (not_conflicting_of_productByIndices hl hr hls hrs hp)
  refine ⟨⟨fun ⟨p, st', hp⟩ => hagree p st' hp, fun ha => ?_⟩, fun p st' hp => ?_⟩
  · obtain ⟨p, st', s, hp, -⟩ := hbuild ha
    exact ⟨p, st', hp⟩
  · obtain ⟨hyz, hstack⟩ := hagree p st' hp
    exact sameShape_of_outcomes id (grows_productByIndices _ _ _ _ _) (grows_apply RuleBook.builtin_grows _ _) hw
      (hbuild ⟨hyz, hstack⟩)
      (fun _ hg => outcome_matmul_matrices hg.wellFormed (hl.grown hg) (hr.grown hg) hlm hrm hyz hstack hm) hp

end Matrices

/-- **A product by the same indices is the product element by element**, and is built exactly if all axes agree. -/
theorem productByIndices_alike {ss : List Symbol} (hw : st.WellFormed) (hl : st.HasArray left l)
    (hr : st.HasArray right r) (hlen : ss.length = l.rank) (hlen' : ss.length = r.rank) (hm : Measured l.axes)
    (h : IndexSymbols ss) :
    ((∃ p st', outcome (productByIndices ss left ss right ss) st = (.ok p, st')) ↔ SameIndices l.axes r.axes) ∧
    ∀ p st', outcome (productByIndices ss left ss right ss) st = (.ok p, st') →
      ∃ q st'', outcome (binary .mul (.node left) (.node right)) st' = (.ok (.node q), st'') ∧ SameShape st'' p q := by
  have hiff := not_conflicting_alike_iff hl.shape_eq hr.shape_eq h hlen hlen'
  have hbuild : SameIndices l.axes r.axes →
      ∃ p st' s, outcome (productByIndices ss left ss right ss) st = (.ok p, st') ∧
      st'.HasArray p s ∧ s.plain = (Shape.ofAxes l.axes).plain := fun hagree =>
    productByIndices_of_axes hw hl hr h.scalar h h (hiff.2 hagree)
      (axesOf_append _ (axesOf_elementUses h hl.shape_eq hlen))
  have hagree : ∀ p st', outcome (productByIndices ss left ss right ss) st = (.ok p, st') → SameIndices l.axes r.axes :=
    fun p st' hp => hiff.1 (not_conflicting_of_productByIndices hl hr h h hp)
  refine ⟨⟨fun ⟨p, st', hp⟩ => hagree p st' hp, fun ha => ?_⟩, fun p st' hp => ?_⟩
  · obtain ⟨p, st', s, hp, -⟩ := hbuild ha
    exact ⟨p, st', hp⟩
  · have hsame := hagree p st' hp
    have hrank : max l.rank r.rank = (Shape.ofAxes l.axes).rank := by
      rw [← hlen', hlen, Nat.max_self]
      rfl
    exact sameShape_of_outcomes .node (grows_productByIndices _ _ _ _ _) (grows_binary _ _ _) hw (hbuild hsame)
      (fun _ hg => outcome_mul hg.wellFormed (hl.grown hg) (hr.grown hg) hrank (broadcast_pair hsame hm)) hp

/-- **The elements in the reverse order of their indices are the transposition.** -/
theorem rearranged_reverse {ss : List Symbol} (hw : st.WellFormed) (hl : st.HasArray left l) (hlen : ss.length = l.rank)
    (h : IndexSymbols ss) :
    ∃ p st', outcome (rearranged ss.reverse left ss) st = (.ok p, st') ∧
      ∃ q st'', outcome (transpose .builtin (.node left)) st' = (.ok q, st'') ∧ SameShape st'' p q := by
  obtain ⟨body, st₁, h₁, -, hwi, hu, hs, hn⟩ := outcome_element hl.isArray h.scalar st
  have hg := Store.Grown.of_slots_eq hw hs (Nat.le_of_lt hn)
  have hl₁ := hl.grown hg
  have haxes : ss.reverse.map (axisOf st₁.slots body.uses) = l.axes.reverse.map some := by
    rw [hu, List.map_reverse, List.map_reverse, axesOf_elementUses h hl₁.shape_eq hlen]
  have hbuild : ∃ p st' s, outcome (rearranged ss.reverse left ss) st = (.ok p, st') ∧ st'.HasArray p s ∧
      s.plain = (Shape.ofAxes l.axes.reverse).plain := by
    unfold rearranged
    rw [outcome_bind_of_ok h₁]
    refine outcome_comprehension hg.wellFormed (fun s hs => h.scalar s (List.mem_reverse.1 hs)) hwi ?_ ?_ haxes
    · rw [hu]
      exact readable_elementUses hl₁.shape_eq ss
    · rw [hu]
      exact not_conflicting_elementUses h
  have ⟨p, st', s, hp, _⟩ := hbuild
  exact ⟨p, st', hp, sameShape_of_outcomes id (grows_rearranged _ _ _) (grows_apply RuleBook.builtin_grows _ _) hw
    hbuild
    (fun _ hg => outcome_transpose hg.wellFormed (hl.grown hg)) hp⟩

/-- **Index notation and the rules of whole arrays agree**, at every rank.  A matrix product by indices is built
exactly if the inner axes agree and the stacks do in pairs; the elements in reverse order of their indices are always
built; a product by the same indices is built exactly if all axes agree in pairs.  What is built has the rank and the
shape of the matrix product, of the transposition and of the product element by element, which are built then. -/
theorem indexNotation_agrees {st : Store} (hw : st.WellFormed) :
    (∀ (left right : Node) (l r : Shape) (la ra : List Axis) (x y z w : Axis) (stack : List Symbol) (i j k : Symbol),
      st.HasArray left l → st.HasArray right r → l.IsMatrices la x y → r.IsMatrices ra z w →
      stack.length = la.length → stack.length = ra.length → Measured l.axes → Measured r.axes →
      IndexSymbols (stack ++ [i, j, k]) →
      let byIndices := productByIndices (stack ++ [i, k]) left (stack ++ [i, j]) right (stack ++ [j, k])
      ((∃ p st', outcome byIndices st = (.ok p, st')) ↔ y.toList = z.toList ∧ SameIndices la ra) ∧
      ∀ p st', outcome byIndices st = (.ok p, st') →
        ∃ q st'', outcome (matmul .builtin (.node left) (.node right)) st' = (.ok q, st'') ∧ SameShape st'' p q) ∧
    (∀ (array : Node) (l : Shape) (ss : List Symbol),
      st.HasArray array l → ss.length = l.rank → Measured l.axes → IndexSymbols ss →
      ∃ p st', outcome (rearranged ss.reverse array ss) st = (.ok p, st') ∧
        ∃ q st'', outcome (transpose .builtin (.node array)) st' = (.ok q, st'') ∧ SameShape st'' p q) ∧
    (∀ (left right : Node) (l r : Shape) (ss : List Symbol),
      st.HasArray left l → st.HasArray right r → ss.length = l.rank → ss.length = r.rank →
      Measured l.axes → Measured r.axes → IndexSymbols ss →
      ((∃ p st', outcome (productByIndices ss left ss right ss) st = (.ok p, st')) ↔ SameIndices l.axes r.axes) ∧
      ∀ p st', outcome (productByIndices ss left ss right ss) st = (.ok p, st') →
        ∃ q st'', outcome (binary .mul (.node left) (.node right)) st' = (.ok (.node q), st'') ∧
          SameShape st'' p q) := by
  refine ⟨?_, ?_, ?_⟩
  · intro left right l r la ra x y z w stack i j k hl hr hlm hrm hlen hlen' hm _ hs
    have hla : Measured la := fun a ha => hm a (hlm.axes_eq ▸ List.mem_append_left _ ha)
    exact productByIndices_matrices hw hl hr hlm hrm hlen hlen' hla hs
  · intro array l ss hl hlen _ hs
    exact rearranged_reverse hw hl hlen hs
  · intro left right l r ss hl hr hlen hlen' hm _ hs
    exact productByIndices_alike hw hl hr hlen hlen' hm hs

/-- A stack of two matrices by a stack of three: refused by indices.  By a stack of two it is built. -/
theorem indexNotation_agrees_stacked :
    let st : Store := { Store.empty with next := 20 }
    let matrices (id n rows columns : Nat) : Node :=
      .constant id (.array ⟨0, [some n, some rows, some columns], none, .filled (.int 0)⟩) (id + 1)
    let symbol (id : Nat) (name : String) : Symbol := ⟨id, .ofString name, .scalar (some .index), id + 1⟩
    let s := symbol 6 "s"
    let i := symbol 8 "i"
    let j := symbol 10 "j"
    let k := symbol 12 "k"
    let build (right : Node) := productByIndices [s, i, k] (matrices 0 2 3 4) [s, i, j] right [s, j, k]
    (∃ p st' q st'', outcome (build (matrices 2 2 4 5)) st = (.ok p, st') ∧
      outcome (matmul .builtin (.node (matrices 0 2 3 4)) (.node (matrices 2 2 4 5))) st' = (.ok q, st'') ∧
      SameShape st'' p q) ∧
    ¬ ∃ p st', outcome (build (matrices 4 3 4 5)) st = (.ok p, st') := by
  intro st matrices symbol s i j k build
  have hw : st.WellFormed := fun _ _ => rfl
  have harray : ∀ id n rows columns, id < 20 → st.HasArray (matrices id n rows columns)
      (.ofAxes [.ofLength n, .ofLength rows, .ofLength columns]) := fun _ _ _ _ hid => ⟨hid, rfl, rfl, rfl⟩
  have hs : IndexSymbols ([s] ++ [i, j, k]) := ⟨by decide, by decide⟩
  have hagree := fun id n hid hm => (indexNotation_agrees hw).1 (matrices 0 2 3 4) (matrices id n 4 5) _ _
    [.ofLength 2] [.ofLength n] (.ofLength 3) (.ofLength 4) (.ofLength 4) (.ofLength 5) [s] i j k
    (harray 0 2 3 4 (by decide)) (harray id n 4 5 hid) ⟨rfl⟩ ⟨rfl⟩ rfl rfl (by decide) hm hs
  constructor
  · obtain ⟨hiff, hmatmul⟩ := hagree 2 2 (by decide) (by decide)
    obtain ⟨p, st', hp⟩ := hiff.2 ⟨rfl, .cons rfl .nil⟩
    obtain ⟨q, st'', hq, hsame⟩ := hmatmul p st' hp
    exact ⟨p, st', q, st'', hp, hq, hsame⟩
  · intro hbuilt
    obtain ⟨-, hstack⟩ := (hagree 4 3 (by decide) (by decide)).1.1 hbuilt
    cases hstack with
    | cons heq _ => exact absurd heq (by decide)

end Build

end ArrayTyping
