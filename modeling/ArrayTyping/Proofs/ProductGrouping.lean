import ArrayTyping.Proofs.MatrixProducts
import ArrayTyping.Proofs.Profiles
/-!
# ProductGrouping — products of three stacks of matrices

A product of three stacks of matrices may be taken from the left or from the right.  The two contractions are checked at
different steps but between the same axes, since the rows and the columns of a product are those of its operands; and the
stacks broadcast in the one grouping as they do in the other, whatever their depths.
-/
namespace ArrayTyping

open Build (outcome matmul Yields)

/-! ## Shapes -/

namespace Shape

variable {s t u p : Shape} {as bs cs : List Axis} {x y z w v k : Axis}

theorem exists_isMatrices (h : 2 ≤ s.rank) : ∃ stack rows columns, s.IsMatrices stack rows columns := by
  obtain ⟨axes, m⟩ := s
  cases endsIn axes with
  | nil => exact absurd h (by simp [rank])
  | one a => exact absurd h (by simp [rank])
  | two as a b => exact ⟨as, a, b, ⟨rfl⟩⟩

/-- **The product of two stacks of matrices**: the contracted axes have the same indices and the stacks broadcast. -/
theorem IsMatrices.product_ok (hs : s.IsMatrices as x y) (ht : t.IsMatrices bs z w) : s.product t = .ok p ↔
    y.toList = z.toList ∧ ∃ q, broadcast [ofAxes as, ofAxes bs] = .ok q ∧ p = ofAxes (q.axes ++ [x, w]) := by
  rw [Shape.product_ok, hs.getLast?_eq, ht.contracted?_eq, hs.stack_eq, ht.stack_eq, hs.rows?_eq, ht.columns?_eq]
  constructor
  · rintro ⟨a, b, q, ⟨⟩, ⟨⟩, hab, hq, rfl⟩
    exact ⟨Axis.agrees_iff.1 hab, q, hq, by rw [List.append_assoc]; rfl⟩
  · rintro ⟨hyz, q, hq, rfl⟩
    exact ⟨y, z, q, rfl, rfl, Axis.agrees_iff.2 hyz, hq, by rw [List.append_assoc]; rfl⟩

theorem broadcast_ofAxes {ss : List Shape} {q : Shape} (h : broadcast ss = .ok q) : ofAxes q.axes = q :=
  (broadcast_ok_iff.1 h).2.2.2.symm

theorem product_left_iff (hs : s.IsMatrices as x y) (ht : t.IsMatrices bs z w) (hu : u.IsMatrices cs v k) :
    (∃ q, s.product t = .ok q ∧ q.product u = .ok p) ↔ y.toList = z.toList ∧ w.toList = v.toList ∧
      ∃ m, broadcast [ofAxes as, ofAxes bs, ofAxes cs] = .ok m ∧ p = ofAxes (m.axes ++ [x, k]) := by
  constructor
  · rintro ⟨q, hq, hp⟩
    obtain ⟨hyz, l, hl, rfl⟩ := (hs.product_ok ht).1 hq
    have hm : (ofAxes (l.axes ++ [x, w])).IsMatrices l.axes x w := ⟨rfl⟩
    obtain ⟨hwv, m, hbroad, rfl⟩ := (hm.product_ok hu).1 hp
    rw [broadcast_ofAxes hl] at hbroad
    exact ⟨hyz, hwv, m, broadcast_cons_cons.2 ⟨l, hl, hbroad⟩, rfl⟩
  · rintro ⟨hyz, hwv, m, hbroad, rfl⟩
    obtain ⟨l, hl, hbroad⟩ := broadcast_cons_cons.1 hbroad
    have hm : (ofAxes (l.axes ++ [x, w])).IsMatrices l.axes x w := ⟨rfl⟩
    refine ⟨_, (hs.product_ok ht).2 ⟨hyz, l, hl, rfl⟩, (hm.product_ok hu).2 ⟨hwv, m, ?_, rfl⟩⟩
    rw [broadcast_ofAxes hl]
    exact hbroad

theorem product_right_iff (hs : s.IsMatrices as x y) (ht : t.IsMatrices bs z w) (hu : u.IsMatrices cs v k) :
    (∃ q, t.product u = .ok q ∧ s.product q = .ok p) ↔ y.toList = z.toList ∧ w.toList = v.toList ∧
      ∃ m, broadcast [ofAxes as, ofAxes bs, ofAxes cs] = .ok m ∧ p = ofAxes (m.axes ++ [x, k]) := by
  have hsplit : [ofAxes as, ofAxes bs, ofAxes cs] = [ofAxes as] ++ [ofAxes bs, ofAxes cs] := rfl
  constructor
  · rintro ⟨q, hq, hp⟩
    obtain ⟨hwv, l, hl, rfl⟩ := (ht.product_ok hu).1 hq
    have hm : (ofAxes (l.axes ++ [z, k])).IsMatrices l.axes z k := ⟨rfl⟩
    obtain ⟨hyz, m, hbroad, rfl⟩ := (hs.product_ok hm).1 hp
    rw [broadcast_ofAxes hl] at hbroad
    have hsingle : Measured (ofAxes as).axes := (broadcast_ok_iff.1 hbroad).1 _ List.mem_cons_self
    refine ⟨hyz, hwv, m, ?_, rfl⟩
    rw [hsplit, broadcast_append]
    exact ⟨_, l, broadcast_singleton hsingle, hl, hbroad⟩
  · rintro ⟨hyz, hwv, m, hbroad, rfl⟩
    rw [hsplit, broadcast_append] at hbroad
    obtain ⟨a, l, ha, hl, hbroad⟩ := hbroad
    have hsingle : Measured (ofAxes as).axes := (broadcast_ok_iff.1 ha).1 _ List.mem_cons_self
    cases (broadcast_singleton hsingle).symm.trans ha
    have hm : (ofAxes (l.axes ++ [z, k])).IsMatrices l.axes z k := ⟨rfl⟩
    refine ⟨_, (ht.product_ok hu).2 ⟨hwv, l, hl, rfl⟩, (hs.product_ok hm).2 ⟨hyz, m, ?_, rfl⟩⟩
    rw [broadcast_ofAxes hl]
    exact hbroad

/-- **Products of stacks of matrices associate.** -/
theorem product_assoc (hs : 2 ≤ s.rank) (ht : 2 ≤ t.rank) (hu : 2 ≤ u.rank) :
    (∃ q, s.product t = .ok q ∧ q.product u = .ok p) ↔ ∃ q, t.product u = .ok q ∧ s.product q = .ok p := by
  obtain ⟨as, x, y, hs⟩ := exists_isMatrices hs
  obtain ⟨bs, z, w, ht⟩ := exists_isMatrices ht
  obtain ⟨cs, v, k, hu⟩ := exists_isMatrices hu
  rw [product_left_iff hs ht hu, product_right_iff hs ht hu]

end Shape

/-! ## Profiles -/

def Profile.known (k : Container) (s : Shape) : Profile := ⟨some k, some s.rank, some s.plain⟩

theorem Inference.product_known {k l : Container} {s t : Shape} {q : Profile} :
    product.Gives [.known k s, .known l t] q ↔ ∃ p, s.product t = .ok p ∧ q = .known (k.combine l) p := by
  have hshape : product.shape [.known k s, .known l t] = (s.product t).toOption.map (some ∘ Shape.plain) :=
    map_plain_product s t
  have hrank : product.rank [.known k s, .known l t] = productRank? s.rank t.rank := rfl
  constructor
  · intro h
    have hs := h.shape_eq
    rw [hshape] at hs
    obtain ⟨p, hp, hplain⟩ := Option.map_eq_some_iff.1 hs
    have hp := toOption_eq_some.1 hp
    refine ⟨p, hp, ?_⟩
    obtain ⟨kind?, rank, shape⟩ := q
    cases h.kind_eq
    cases h.rank_eq.trans (hrank.trans (Shape.rank_of_product hp))
    cases hplain
    rfl
  · rintro ⟨p, hp, rfl⟩
    refine ⟨rfl, (Shape.rank_of_product hp).symm, ⟨_, rfl⟩, ?_, ?_⟩
    · rw [hshape]
      exact Option.map_eq_some_iff.2 ⟨p, toOption_eq_some.2 hp, rfl⟩
    · rintro t ⟨⟩
      exact congrArg some (Shape.rank_of_plain p.plain_plain).symm

/-! ## Groupings -/

namespace Build

def productFromLeft (a b c : Value) : Build Node := do
  let x ← matmul .builtin a b
  matmul .builtin (.node x) c

def productFromRight (a b c : Value) : Build Node := do
  let y ← matmul .builtin b c
  matmul .builtin a (.node y)

variable {st : Store} {a b c : Value} {p q r : Profile}

theorem yields_matmul (hw : st.WellFormed) (ha : st.HasProfile a p) (hb : st.HasProfile b q)
    (hp : p.kind?.isSome = true) : Yields (matmul .builtin a b) st (Inference.product.Gives [p, q]) :=
  yields_apply Inference.isOf_product hw (.cons ha (.cons hb .nil)) ⟨p, List.mem_cons_self, hp⟩

theorem yields_productFromLeft (hw : st.WellFormed) (ha : st.HasProfile a p) (hb : st.HasProfile b q)
    (hc : st.HasProfile c r) (hp : p.kind?.isSome = true) : Yields (productFromLeft a b c) st fun z =>
      ∃ x, Inference.product.Gives [p, q] x ∧ Inference.product.Gives [x, r] z := by
  refine (yields_matmul hw ha hb hp).bind fun n st' x hg hn hx => ?_
  exact yields_matmul hg.wellFormed hn (hc.grown hg) (by rw [hx.kind_eq]; rfl)

theorem yields_productFromRight (hw : st.WellFormed) (ha : st.HasProfile a p) (hb : st.HasProfile b q)
    (hc : st.HasProfile c r) (hp : p.kind?.isSome = true) (hq : q.kind?.isSome = true) :
    Yields (productFromRight a b c) st fun z =>
      ∃ y, Inference.product.Gives [q, r] y ∧ Inference.product.Gives [p, y] z := by
  refine (yields_matmul hw hb hc hq).bind fun n st' y hg hn _ => ?_
  exact yields_matmul hg.wellFormed (ha.grown hg) hn hp

end Build

theorem Store.HasOperand.exists_known {st : Store} {v : Value} {s : Shape} (h : st.HasOperand v s) (hs : 1 ≤ s.rank) :
    ∃ k, st.HasProfile v (.known k s) := by
  have hne : v.rank ≠ .ok (some 0) := by
    rw [h.rank_eq]
    intro h0
    have : s.rank = 0 := Option.some.inj (Except.ok.inj h0)
    omega
  have harray : v.isArrayTyped = true := by
    cases v with
    | node n =>
      cases ht : n.type with
      | scalar e => exact absurd (Build.rank_node (congrArg DeclaredType.rank ht)) hne
      | array k e r => exact congrArg DeclaredType.isArray ht
    | array a => rfl
    | bool | int | float | complex | scalar => exact absurd rfl hne
    | _ => cases h.shape_eq
  obtain ⟨k, hk⟩ := Option.isSome_iff_exists.1 ((Value.isSome_kind? v).trans harray)
  exact ⟨k, hk, h.rank_eq, ⟨some s, h.shape_eq, rfl⟩, h.id_lt⟩

theorem sameArray_of_known {st st' : Store} {n n' : Node} {k : Container} {s : Shape}
    (h : st.HasProfile (.node n) (.known k s)) (h' : st'.HasProfile (.node n') (.known k s)) :
    SameArray st n st' n' := by
  have hk : n.type.container? = some k := (Value.kind?_node n).symm.trans h.kind_eq
  have hk' : n'.type.container? = some k := (Value.kind?_node n').symm.trans h'.kind_eq
  obtain ⟨info, hinfo, hplain⟩ := h.shape_eq
  obtain ⟨info', hinfo', hplain'⟩ := h'.shape_eq
  obtain ⟨t, rfl, ht⟩ := Option.map_eq_some_iff.1 hplain
  obtain ⟨t', rfl, ht'⟩ := Option.map_eq_some_iff.1 hplain'
  refine ⟨?_, ?_, hk'.trans hk.symm, Except.ok.inj (h'.rank_eq.trans h.rank_eq.symm), t, t', hinfo, hinfo',
    Shape.map_plain_of_plain (ht'.trans ht.symm)⟩
  · exact (Value.isSome_kind? (.node n)).symm.trans (congrArg Option.isSome h.kind_eq)
  · exact (Value.isSome_kind? (.node n')).symm.trans (congrArg Option.isSome h'.kind_eq)

section Assoc

open Inference (product product_known)

variable {k l m : Container} {s t u : Shape} {z : Profile}

theorem product_left_known : (∃ x, product.Gives [.known k s, .known l t] x ∧ product.Gives [x, .known m u] z) ↔
    ∃ p, (∃ q, s.product t = .ok q ∧ q.product u = .ok p) ∧ z = .known ((k.combine l).combine m) p := by
  constructor
  · rintro ⟨x, hx, hz⟩
    obtain ⟨q, hq, rfl⟩ := product_known.1 hx
    obtain ⟨p, hp, rfl⟩ := product_known.1 hz
    exact ⟨p, ⟨q, hq, hp⟩, rfl⟩
  · rintro ⟨p, ⟨q, hq, hp⟩, rfl⟩
    exact ⟨_, product_known.2 ⟨q, hq, rfl⟩, product_known.2 ⟨p, hp, rfl⟩⟩

theorem product_right_known : (∃ y, product.Gives [.known l t, .known m u] y ∧ product.Gives [.known k s, y] z) ↔
    ∃ p, (∃ q, t.product u = .ok q ∧ s.product q = .ok p) ∧ z = .known (k.combine (l.combine m)) p := by
  constructor
  · rintro ⟨y, hy, hz⟩
    obtain ⟨q, hq, rfl⟩ := product_known.1 hy
    obtain ⟨p, hp, rfl⟩ := product_known.1 hz
    exact ⟨p, ⟨q, hq, hp⟩, rfl⟩
  · rintro ⟨p, ⟨q, hq, hp⟩, rfl⟩
    exact ⟨_, product_known.2 ⟨q, hq, rfl⟩, product_known.2 ⟨p, hp, rfl⟩⟩

end Assoc

/-- **Products of stacks of matrices associate.**  Of operands of known shapes with at least two axes each, the product
from the left is built exactly if the one from the right is, and to an array of the same kind, rank and axes. -/
theorem Build.matmul_assoc {st : Store} (hw : st.WellFormed) {a b c : Value} {s t u : Shape} (ha : st.HasOperand a s)
    (hb : st.HasOperand b t) (hc : st.HasOperand c u) (hs : 2 ≤ s.rank) (ht : 2 ≤ t.rank) (hu : 2 ≤ u.rank) :
    ((∃ n st', outcome (productFromLeft a b c) st = (.ok n, st')) ↔
      ∃ n st', outcome (productFromRight a b c) st = (.ok n, st')) ∧
    ∀ n st₁ n' st₂, outcome (productFromLeft a b c) st = (.ok n, st₁) →
      outcome (productFromRight a b c) st = (.ok n', st₂) → SameArray st₁ n st₂ n' := by
  obtain ⟨k, ha⟩ := ha.exists_known (by omega)
  obtain ⟨l, hb⟩ := hb.exists_known (by omega)
  obtain ⟨m, hc⟩ := hc.exists_known (by omega)
  obtain ⟨hiff, hsame⟩ := (yields_productFromLeft hw ha hb hc rfl).agree (yields_productFromRight hw ha hb hc rfl rfl)
    fun z => by
      rw [product_left_known, product_right_known, Container.combine_assoc]
      simp only [Shape.product_assoc hs ht hu]
  refine ⟨hiff, fun n st₁ n' st₂ hn hn' => ?_⟩
  obtain ⟨z, hz, hnz, hnz'⟩ := hsame n st₁ n' st₂ hn hn'
  obtain ⟨p, -, rfl⟩ := product_left_known.1 hz
  exact sameArray_of_known hnz hnz'

/-- A matrix, a stack of matrices and a stack of stacks. -/
theorem Build.matmul_assoc_stacked :
    let array (dims : List Nat) : Value :=
      .array ⟨Mark.unmarked, dims.map fun n => some (n : Int), some (.native .bool), .filled (.int 0)⟩
    ∃ n st₁ n' st₂, outcome (productFromLeft (array [2, 3]) (array [5, 3, 4]) (array [7, 1, 4, 6])) .empty = (.ok n, st₁) ∧
      outcome (productFromRight (array [2, 3]) (array [5, 3, 4]) (array [7, 1, 4, 6])) .empty = (.ok n', st₂) ∧
      SameArray st₁ n st₂ n' ∧ n.type.rank = some 4 := by
  intro array
  have hoperand : ∀ dims, Store.empty.slots.shapeOf (array dims) = .ok (some (.ofLengths dims)) →
      Store.empty.HasOperand (array dims) (.ofLengths dims) := fun dims h => .of_known h (by simp [array])
  have ha := hoperand [2, 3] rfl
  have hb := hoperand [5, 3, 4] rfl
  have hc := hoperand [7, 1, 4, 6] rfl
  obtain ⟨hiff, hsame⟩ := matmul_assoc Store.empty_wellFormed ha hb hc (by decide) (by decide) (by decide)
  obtain ⟨k, ha⟩ := ha.exists_known (by decide)
  obtain ⟨l, hb⟩ := hb.exists_known (by decide)
  obtain ⟨m, hc⟩ := hc.exists_known (by decide)
  have hyields := yields_productFromLeft Store.empty_wellFormed ha hb hc rfl
  obtain ⟨n, st₁, hn⟩ := hyields.built _ (product_left_known.2 ⟨.ofLengths [7, 5, 2, 6], ⟨_, rfl, rfl⟩, rfl⟩)
  obtain ⟨n', st₂, hn'⟩ := hiff.1 ⟨n, st₁, hn⟩
  refine ⟨n, st₁, n', st₂, hn, hn', hsame n st₁ n' st₂ hn hn', ?_⟩
  obtain ⟨-, z, hz, hnz⟩ := hyields.profile n st₁ hn
  obtain ⟨p, ⟨q, hq, hp⟩, rfl⟩ := product_left_known.1 hz
  cases hq
  cases hp
  exact Except.ok.inj hnz.rank_eq

end ArrayTyping
