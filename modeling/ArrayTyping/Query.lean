import ArrayTyping.Typing
/-!
# Query — what is known of a value

A query answers from the declared type and the shape, and is refused where the answer is not known.  Dimensions count
from one; every dimension past the rank has the trivial axis.
-/
namespace ArrayTyping

namespace Query

def knownShape (slots : Slots) (v : Value) (f : Fact) : Except Fault Shape := do
  match ← slots.shapeOf v with
  | some s => return s
  | none => throw (.conflict (.unknownFact v f))

def toDimension : Value → Except Fault Nat
  | .int n m => if n < 1 then .error (.refusal (.dimensionTooSmall (.int n m))) else .ok n.toNat
  | v => .error (.refusal (.dimensionNotInt v))

def dimensionCount (v : Value) : Except Fault Nat := do
  match (← v.declaredType).rank with
  | some n => return n
  | none => throw (.conflict (.unknownFact v .dimensionCount))

def elementType (v : Value) : Except Fault Dtype := do
  match (← v.declaredType).eltype with
  | some d => return d
  | none => throw (.conflict (.unknownFact v .elementType))

/-- A measure that fails only by being too large. -/
def measured {α : Type} : Option α → Except Fault α
  | some a => .ok a
  | none => .error .overflow

def totalLength (slots : Slots) (v : Value) : Except Fault Nat := do
  measured (← knownShape slots v .length).total?

def lengths (slots : Slots) (v : Value) : Except Fault (List Nat) := do
  measured (← knownShape slots v .size).lengths?

def length (slots : Slots) (v : Value) (d : Nat) : Except Fault Nat := do
  if (← dimensionCount v) < d then return 1
  measured ((← knownShape slots v .size).axis d).length?

def axes (slots : Slots) (v : Value) : Except Fault (List Axis) := do
  return (← knownShape slots v .axes).axes

def axis (slots : Slots) (v : Value) (d : Nat) : Except Fault Axis := do
  return (← knownShape slots v .axes).axis d

def indexSpace (slots : Slots) (v : Value) : Except Fault (List Axis) := do
  return (← knownShape slots v .indexSpace).axes

/-- A length that a container may report. -/
def reportedLength (n : Nat) : Except Fault Nat := measured (if n ≤ Axis.maxLength then some n else none)

end Query

end ArrayTyping
