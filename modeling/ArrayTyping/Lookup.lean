import ArrayTyping.Arithmetic
/-!
# Lookup — the entry of a container under a key

A sequence has an item at every position and a part for every slice, a dictionary a value for each of its keys.  A
concrete array takes one key for each dimension, and as many more as add a dimension.
-/
namespace ArrayTyping

namespace ConcreteArray

/-- The position that a key names along a dimension; what is no position is no index at all. -/
def axisPosition (length : Nat) (key : Value) : Except Fault Nat :=
  match Sequence.positionOf length key with
  | .ok n => .ok n
  | .error _ => .error (.slip .index)

/-- The lengths that remain after the keys: a position takes a dimension away, a slice or a list of positions keeps one,
nothing and a truth value add one. -/
def remaining : List Nat → List Value → Except Fault (List Nat)
  | lengths, [] => .ok lengths
  | lengths, .none :: keys => do return 1 :: (← remaining lengths keys)
  | lengths, .bool b :: keys => do return (if b then 1 else 0) :: (← remaining lengths keys)
  | n :: lengths, .slice start stop step _ :: keys => do
    let r ← SliceRange.ofParts start stop step n
    return r.count :: (← remaining lengths keys)
  | n :: lengths, .list positions _ :: keys => do
    positions.forM fun p => do
      let _ ← axisPosition n p
    return positions.length :: (← remaining lengths keys)
  | n :: lengths, key :: keys => do
    let _ ← axisPosition n key
    remaining lengths keys
  | [], _ :: _ => .error (.slip .index)

def entry (a : ConcreteArray) (key : Value) : Except Fault Value := do
  let keys := (Sequence.tupleItems? key).getD [key]
  return filled (← remaining a.lengths keys) a.element

end ConcreteArray

namespace Lookup

def inEntries (entries : List (Value × Value)) (key : Value) : Except Fault Value :=
  if !key.isHashable then .error .typeSlip
  else
    match entries.find? fun e => e.1.sameKey key with
    | some e => .ok e.2
    | none => .error (.slip .key)

def inAxis (a : Axis) (key : Value) : Except Fault Value := do
  return .ofInt (a.nth (← Sequence.positionOf a.length key))

def item (container key : Value) : Except Fault Value :=
  match container with
  | .list items _ => Sequence.itemAt items key
  | .range a => inAxis a key
  | v =>
    match Sequence.tupleItems? v, v.text? with
    | some items, _ => Sequence.itemAt items key
    | none, some s => Sequence.itemAt (characters s) key
    | none, none => .error .typeSlip

def entry (container key : Value) : Except Fault Value :=
  match container, key with
  | .dict entries _, key => inEntries entries key
  | .dtype _, _ => .error (.slip .key)
  | .array a, key => if a.isLazy then .error .typeSlip else a.entry key
  | .scalar s _, key =>
    let single : ConcreteArray := ⟨Mark.unmarked, [], some (.native s.type), .filled s.number⟩
    match single.entry key with
    | .ok v => .ok v
    | .error _ => .error (.slip .index)
  | v, .slice start stop step _ => Sequence.slice v start stop step
  | v, key => item v key

end Lookup

end ArrayTyping
