import ArrayTyping.Shape
/-!
# Broadcast — one shape for several operands

Shapes are aligned at their trailing end.  At each position a singleton axis stretches, and all other axes must agree;
the first of those is the result's axis, or the first singleton where there is no other.
-/
namespace ArrayTyping

inductive BroadcastFault where
  /-- An axis is too long to be measured. -/
  | tooLong
  /-- Two axes at the 1-based `position` of the result disagree. -/
  | mismatch (position : Nat) (expected got : Axis)
  /-- No operand has an axis at that position. -/
  | vacant (position : Nat)
deriving DecidableEq

namespace Broadcast

/-- What the axes read so far at one position leave: the first that is not a singleton and the first that is. -/
structure Choice where
  chosen : Option Axis
  stretchable : Option Axis

def Choice.read (position : Nat) (c : Choice) (a : Axis) : Except BroadcastFault Choice :=
  match a.length? with
  | none => .error .tooLong
  | some 1 => .ok { c with stretchable := c.stretchable.or (some a) }
  | some _ =>
    match c.chosen with
    | none => .ok { c with chosen := some a }
    | some e => if a.agrees e then .ok c else .error (.mismatch position e a)

/-- The axes that stand at the 0-based `position` of a result of rank `n`, in operand order. -/
def column (n : Nat) (shapes : List Shape) (position : Nat) : List Axis :=
  shapes.filterMap fun s =>
    if position < n - s.rank then none else s.axes[position - (n - s.rank)]?

def axisAt (n : Nat) (shapes : List Shape) (position : Nat) : Except BroadcastFault Axis := do
  let c ← (column n shapes position).foldlM (Choice.read (position + 1)) ⟨none, none⟩
  match c.chosen.or c.stretchable with
  | some a => .ok a
  | none => .error (.vacant (position + 1))

def rank (shapes : List Shape) : Nat := shapes.foldl (fun n s => max n s.rank) 0

end Broadcast

/-- The common shape of `shapes`, or the leftmost position where there is none. -/
def broadcast (shapes : List Shape) : Except BroadcastFault Shape := do
  let n := Broadcast.rank shapes
  let axes ← (List.range n).mapM (Broadcast.axisAt n shapes)
  return Shape.ofAxes axes

end ArrayTyping
