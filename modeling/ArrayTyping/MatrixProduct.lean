import ArrayTyping.Broadcast
/-!
# MatrixProduct — shapes of products and reversals

The last axis of the left operand is contracted with the second-to-last axis of the right one (its only axis, for a
vector).  All axes before the last two of either operand form its stack, and the two stacks broadcast.
-/
namespace ArrayTyping

inductive ProductFault where
  /-- An operand has no axis to contract. -/
  | scalarOperand
  /-- The contracted axes disagree; `dimension` is the right operand's, counted from one. -/
  | contraction (dimension : Nat) (expected got : Axis)
  /-- The stacks do not broadcast. -/
  | stacks (fault : BroadcastFault)

namespace Shape

def stack (s : Shape) : Shape := ofAxes (s.axes.take (s.rank - 2))

/-- The axis a right operand contracts: its only one, or the second to last. -/
def contracted? (s : Shape) : Option Axis :=
  if s.rank = 1 then s.axes.head? else s.axes[s.rank - 2]?

/-- The axis a left operand keeps as rows, if it is at least a matrix. -/
def rows? (s : Shape) : Option Axis := if 2 ≤ s.rank then s.axes[s.rank - 2]? else none

def columns? (s : Shape) : Option Axis := if 2 ≤ s.rank then s.axes.getLast? else none

def product (l r : Shape) : Except ProductFault Shape :=
  match l.axes.getLast?, r.contracted? with
  | some expected, some got =>
    if expected.agrees got then
      match broadcast [l.stack, r.stack] with
      | .ok s => .ok (ofAxes (s.axes ++ l.rows?.toList ++ r.columns?.toList))
      | .error e => .error (.stacks e)
    else .error (.contraction (max (r.rank - 1) 1) expected got)
  | _, _ => .error .scalarOperand

def transpose (s : Shape) : Shape := ofAxes s.axes.reverse

end Shape

/-- The rank of the matrix product of operands of ranks `l` and `r`; scalars have no product. -/
def productRank? (l r : Nat) : Option Nat :=
  if l = 0 ∨ r = 0 then none
  else if l = 1 ∧ r = 1 then some 0
  else if l = 1 then some (r - 1)
  else if r = 1 then some (l - 1)
  else some (max l r)

end ArrayTyping
