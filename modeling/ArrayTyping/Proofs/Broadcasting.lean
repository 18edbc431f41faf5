import ArrayTyping.Proofs.Axes
import ArrayTyping.Proofs.Outcome
import ArrayTyping.Rules
/-!
# Broadcasting — shapes that need no stretching

Shapes with the same indices along every dimension broadcast to the first of them.  So the product of two stacks of
matrices whose stacks agree is the left stack with the rows of the left and the columns of the right operand.
-/
namespace ArrayTyping

def SameIndices (as bs : List Axis) : Prop := List.Forall₂ (fun a b => a.toList = b.toList) as bs

def Measured (as : List Axis) : Prop := ∀ a ∈ as, a.length ≤ Axis.maxLength

instance (as : List Axis) : Decidable (Measured as) := inferInstanceAs (Decidable (∀ a ∈ as, a.length ≤ Axis.maxLength))

theorem Axis.length?_of_le {a : Axis} (h : a.length ≤ maxLength) : a.length? = some a.length := if_pos h

theorem Axis.length_eq_of_toList_eq {a b : Axis} (h : a.toList = b.toList) : a.length = b.length := by
  rw [← a.length_toList, ← b.length_toList, h]

namespace Broadcast

theorem read_of_singleton {a : Axis} (h : a.length = 1) (position : Nat) (c : Choice) :
    c.read position a = .ok { c with stretchable := c.stretchable.or (some a) } := by
  unfold Choice.read
  rw [Axis.length?_of_le (h ▸ by decide), h]
  rfl

theorem read_of_none {a : Axis} (h : a.length ≤ Axis.maxLength) (hne : a.length ≠ 1) (position : Nat)
    (s : Option Axis) : Choice.read position ⟨none, s⟩ a = .ok ⟨some a, s⟩ := by
  unfold Choice.read
  rw [Axis.length?_of_le h]
  split
  · rename_i heq
    cases heq
  · rename_i heq
    exact absurd (Option.some.inj heq) hne
  · rfl

theorem read_of_agreeing {a e : Axis} (h : a.length ≤ Axis.maxLength) (hne : a.length ≠ 1)
    (hae : a.toList = e.toList) (position : Nat) (s : Option Axis) :
    Choice.read position ⟨some e, s⟩ a = .ok ⟨some e, s⟩ := by
  unfold Choice.read
  rw [Axis.length?_of_le h]
  split
  · rename_i heq
    cases heq
  · rename_i heq
    exact absurd (Option.some.inj heq) hne
  · exact if_pos (Axis.agrees_iff.2 hae)

theorem choose_pair {a b : Axis} (hab : a.toList = b.toList) (h : a.length ≤ Axis.maxLength) (position : Nat) :
    ∃ c : Choice, [a, b].foldlM (Choice.read position) ⟨none, none⟩ = .ok c ∧ c.chosen.or c.stretchable = some a := by
  have hlen := Axis.length_eq_of_toList_eq hab
  by_cases h1 : a.length = 1
  · refine ⟨⟨none, some a⟩, ?_, rfl⟩
    rw [List.foldlM_cons, read_of_singleton h1]
    show [b].foldlM (Choice.read position) ⟨none, some a⟩ = _
    rw [List.foldlM_cons, read_of_singleton (hlen ▸ h1)]
    rfl
  · refine ⟨⟨some a, none⟩, ?_, rfl⟩
    rw [List.foldlM_cons, read_of_none h h1]
    show [b].foldlM (Choice.read position) ⟨some a, none⟩ = _
    rw [List.foldlM_cons, read_of_agreeing (hlen ▸ h) (hlen ▸ h1) hab.symm]
    rfl

theorem column_pair {l r : Shape} (hlen : l.rank = r.rank) {p : Nat} {a b : Axis} (ha : l.axes[p]? = some a)
    (hb : r.axes[p]? = some b) : column l.rank [l, r] p = [a, b] := by
  unfold column
  simp only [List.filterMap_cons, ← hlen, Nat.sub_self, Nat.not_lt_zero, if_false, Nat.sub_zero, ha, hb,
    List.filterMap_nil]

theorem axisAt_of_choice {n p : Nat} {shapes : List Shape} {c : Choice} {a : Axis}
    (hc : (column n shapes p).foldlM (Choice.read (p + 1)) ⟨none, none⟩ = .ok c)
    (ha : c.chosen.or c.stretchable = some a) : axisAt n shapes p = .ok a := by
  unfold axisAt
  rw [hc]
  simp only [bind, Except.bind, ha]

end Broadcast

/-- **Shapes with the same indices broadcast to the first of them.** -/
theorem broadcast_pair {l r : Shape} (h : SameIndices l.axes r.axes) (hm : Measured l.axes) :
    broadcast [l, r] = .ok (.ofAxes l.axes) := by
  have hlen : l.rank = r.rank := h.length_eq
  have hrank : Broadcast.rank [l, r] = l.rank := by
    simp only [Broadcast.rank, List.foldl_cons, List.foldl_nil, ← hlen, Nat.zero_max, Nat.max_self]
  have haxes : (List.range l.rank).mapM (Broadcast.axisAt l.rank [l, r]) = .ok l.axes := by
    rw [exceptMapM_ok, List.forall₂_iff_get]
    refine ⟨List.length_range, fun p hp hp' => ?_⟩
    have hr : p < r.axes.length := h.length_eq ▸ hp'
    have hab : l.axes[p].toList = r.axes[p].toList := (List.forall₂_iff_get.1 h).2 p hp' hr
    obtain ⟨c, hc, hor⟩ := Broadcast.choose_pair hab (hm _ (List.getElem_mem hp')) (p + 1)
    simp only [List.get_eq_getElem, List.getElem_range]
    refine Broadcast.axisAt_of_choice ?_ hor
    rw [Broadcast.column_pair hlen (List.getElem?_eq_getElem hp') (List.getElem?_eq_getElem hr), hc]
  unfold broadcast
  simp only [hrank, haxes]
  rfl

namespace Shape

/-- A stack of matrices: the axes of the stack, then rows and columns. -/
structure IsMatrices (s : Shape) (stack : List Axis) (rows columns : Axis) : Prop where
  axes_eq : s.axes = stack ++ [rows, columns]

theorem axis_of_getElem? {s : Shape} {p : Nat} {a : Axis} (h : s.axes[p]? = some a) : s.axis (p + 1) = a := by
  rw [axis, Nat.add_sub_cancel, List.getD_eq_getElem?_getD, h]
  rfl

theorem axis_of_lt {s : Shape} {p : Nat} (h : p < s.axes.length) : s.axis (p + 1) = s.axes[p] :=
  axis_of_getElem? (List.getElem?_eq_getElem h)

namespace IsMatrices

variable {s : Shape} {stack : List Axis} {rows columns : Axis}

theorem rank_eq (h : s.IsMatrices stack rows columns) : s.rank = stack.length + 2 := by
  rw [rank, h.axes_eq, List.length_append]
  rfl

theorem stack_eq (h : s.IsMatrices stack rows columns) : s.stack = ofAxes stack := by
  rw [Shape.stack, h.rank_eq, h.axes_eq, Nat.add_sub_cancel, List.take_left]

theorem getLast?_eq (h : s.IsMatrices stack rows columns) : s.axes.getLast? = some columns := by
  rw [h.axes_eq, List.getLast?_append]
  rfl

theorem getElem?_eq (h : s.IsMatrices stack rows columns) : s.axes[s.rank - 2]? = some rows := by
  rw [h.rank_eq, h.axes_eq, Nat.add_sub_cancel, List.getElem?_append_right (Nat.le_refl _), Nat.sub_self]
  rfl

theorem axis_stack (h : s.IsMatrices stack rows columns) {p : Nat} (hp : p < stack.length) :
    s.axis (p + 1) = stack[p] :=
  axis_of_getElem? (by rw [h.axes_eq, List.getElem?_append_left hp, List.getElem?_eq_getElem hp])

theorem axis_rows (h : s.IsMatrices stack rows columns) : s.axis (stack.length + 1) = rows :=
  axis_of_getElem? (by simp [h.axes_eq])

theorem axis_columns (h : s.IsMatrices stack rows columns) : s.axis (stack.length + 1 + 1) = columns :=
  axis_of_getElem? (by simp [h.axes_eq])

theorem contracted?_eq (h : s.IsMatrices stack rows columns) : s.contracted? = some rows := by
  have hrank := h.rank_eq
  rw [contracted?, if_neg (by omega), h.getElem?_eq]

theorem rows?_eq (h : s.IsMatrices stack rows columns) : s.rows? = some rows := by
  have hrank := h.rank_eq
  rw [rows?, if_pos (by omega), h.getElem?_eq]

theorem columns?_eq (h : s.IsMatrices stack rows columns) : s.columns? = some columns := by
  have hrank := h.rank_eq
  rw [columns?, if_pos (by omega), h.getLast?_eq]

end IsMatrices

/-- **The product of stacks of matrices with the same stack.** -/
theorem product_of_isMatrices {l r : Shape} {ls rs : List Axis} {x y z w : Axis} (hl : l.IsMatrices ls x y)
    (hr : r.IsMatrices rs z w) (hyz : y.toList = z.toList) (hstack : SameIndices ls rs) (hm : Measured ls) :
    l.product r = .ok (ofAxes (ls ++ [x, w])) := by
  have hb : broadcast [ofAxes ls, ofAxes rs] = .ok (ofAxes ls) := broadcast_pair hstack hm
  unfold product
  rw [hl.getLast?_eq, hr.contracted?_eq]
  simp only [Axis.agrees_iff.2 hyz, if_true, hl.stack_eq, hr.stack_eq, hb, hl.rows?_eq, hr.columns?_eq]
  rw [ofAxes, Option.toList_some, Option.toList_some, List.append_assoc]
  rfl

end Shape

end ArrayTyping
