import ArrayTyping.Fault
import ArrayTyping.IndexSpace
/-!
# Sequence — the items of values, in order

Lists, tuples and texts hold their items, axes enumerate their indices, a dictionary gives its keys, and an index space
all tuples over its axes.  Positions count from zero, or from the end if they are negative.  A slice keeps every
`step`-th item between two bounds.
-/
namespace ArrayTyping

def firstOf {α : Type} (limit : Option Nat) (items : List α) : List α :=
  match limit with
  | some n => items.take n
  | none => items

namespace ConcreteArray

def element (a : ConcreteArray) : Value :=
  match a.eltype with
  | some (.native t) => .ofScalar ⟨t, a.fill⟩
  | some (.swapped t _) => .ofScalar ⟨t, a.fill⟩
  | _ => .ofNumber a.fill

def withDims (a : ConcreteArray) (dims : List (Option Int)) : ConcreteArray :=
  { a with mark := Mark.unmarked, dims := dims }

/-- The part of the array that remains over the given dimensions: a number if there are none. -/
def part (a : ConcreteArray) (dims : List (Option Int)) : Value :=
  if dims.isEmpty then a.element else .array (a.withDims dims)

def rows (a : ConcreteArray) : Except Fault (List Value) :=
  match a.isLazy, a.dims with
  | false, n :: dims => .ok (List.replicate (n.getD 0).toNat (a.part dims))
  | _, _ => .error .typeSlip

end ConcreteArray

namespace Axis

def items (limit : Option Nat) (a : Axis) : Except Fault (List Value) :=
  match a.length? with
  | some n => .ok ((a.firstIndices (limit.getD n)).map .ofInt)
  | none => .error .overflow

end Axis

def characters (s : String) : List Value := s.toList.map fun c => .ofString c.toString

def tuplesOver (limit : Option Nat) (pools : List (List Value)) : List (List Value) :=
  match limit with
  | some n => IndexSpace.firstTuples n pools
  | none => IndexSpace.tuples pools

mutual

def Value.firstItems (limit : Option Nat) : Value → Except Fault (List Value)
  | .list items _ => .ok (firstOf limit items)
  | .tuple items _ => .ok (firstOf limit items)
  | .dict entries _ => .ok (firstOf limit (entries.map (·.1)))
  | .range a => a.items limit
  | .shape s => .ok (firstOf limit (s.axes.map .range))
  | .space axes _ => do return (tuplesOver limit (← axes.pools limit)).map .ofItems
  | .text s _ => .ok (firstOf limit (characters s))
  | .kind k => .ok (firstOf limit (characters k.name))
  | .code c => .ok (firstOf limit (characters c.text))
  | .array a => do return firstOf limit (← a.rows)
  | .iterator source _ => source.firstItems limit
  | .node n => .error (.refusal (.notIterable n))
  | _ => .error .typeSlip
termination_by structural v => v

def Value.pools (limit : Option Nat) : Value → Except Fault (List (List Value))
  | .list items _ => poolsOfAll limit items
  | .tuple items _ => poolsOfAll limit items
  | .dict entries _ => poolsOfKeys limit entries
  | .range a => if a.length = 0 then .ok [] else .error .typeSlip
  | .shape s => s.axes.mapM (·.items limit)
  | .space axes _ => do return tuplesOver none (← axes.pools none)
  | .text s _ => .ok ((characters s).map ([·]))
  | .kind k => .ok ((characters k.name).map ([·]))
  | .code c => .ok ((characters c.text).map ([·]))
  | .array a => do
    (← a.rows).mapM fun
      | .array row => row.rows
      | _ => .error .typeSlip
  | .iterator source _ => source.pools limit
  | .node n => .error (.refusal (.notIterable n))
  | _ => .error .typeSlip
termination_by structural v => v

def poolsOfAll (limit : Option Nat) : List Value → Except Fault (List (List Value))
  | [] => .ok []
  | v :: vs => do return (← v.firstItems limit) :: (← poolsOfAll limit vs)
termination_by structural vs => vs

def poolsOfKeys (limit : Option Nat) : List (Value × Value) → Except Fault (List (List Value))
  | [] => .ok []
  | (k, _) :: es => do return (← k.firstItems limit) :: (← poolsOfKeys limit es)
termination_by structural es => es

end

namespace Value

def iterate (v : Value) : Except Fault (List Value) := v.firstItems Option.none

/-- The first `n` items a value iterates over; an axis need not be measured for them. -/
def someItems (n : Nat) : Value → Except Fault (List Value)
  | .range a => .ok ((a.firstIndices n).map .ofInt)
  | v => v.firstItems (some n)

/-- A reading of every item a value iterates over; one that refuses the first item looks no further. -/
def mapItems {α : Type} (f : Value → Except Fault α) (v : Value) : Except Fault (List α) := do
  let _ ← (← v.someItems 1).mapM f
  (← v.iterate).mapM f

def slicePart : Value → Except Fault (Option Int)
  | .none => .ok Option.none
  | v =>
    match v.position? with
    | some n => .ok (some n)
    | Option.none => .error .typeSlip

end Value

/-- Which positions a slice keeps: `count` of them from `start` on, `step` apart, the next one at `stop` or past it. -/
structure SliceRange where
  start : Int
  stop : Int
  step : Int
  count : Nat

namespace SliceRange

/-- A bound brought between `low` and `high`, counted from the end of `length` items if it is negative. -/
def clamp (length low high n : Int) : Int :=
  let n := if n < 0 then n + length else n
  if n < low then low else if high < n then high else n

def ofParts (start stop step : Value) (length : Nat) : Except Fault SliceRange := do
  let step := (← step.slicePart).getD 1
  if step = 0 then throw (.slip .value)
  let n : Int := length
  let (low, high) := if step < 0 then (-1, n - 1) else (0, n)
  let first := ((← start.slicePart).map (clamp n low high)).getD (if step < 0 then high else low)
  let last := ((← stop.slicePart).map (clamp n low high)).getD (if step < 0 then low else high)
  let count := if step < 0 then (first - last - step - 1) / -step else (last - first + step - 1) / step
  return ⟨first, last, step, count.toNat⟩

def isWhole (r : SliceRange) (length : Nat) : Bool := r.step == 1 && r.count == length

def select {α : Type} (r : SliceRange) (items : List α) : List α :=
  (List.range r.count).filterMap fun (k : Nat) => items[(r.start + k * r.step).toNat]?

end SliceRange

namespace Sequence

/-- The position an index names among `length` items. -/
def positionOf (length : Nat) (key : Value) : Except Fault Nat :=
  match key.position? with
  | none => .error .typeSlip
  | some i =>
    let n := if i < 0 then i + length else i
    if 0 ≤ n ∧ n < length then .ok n.toNat else .error (.slip .index)

def itemAt (items : List Value) (key : Value) : Except Fault Value := do
  match items[← positionOf items.length key]? with
  | some v => return v
  | none => throw (.slip .index)

def tupleItems? : Value → Option (List Value)
  | .tuple items _ => some items
  | .shape s => some (s.axes.map .range)
  | _ => none

def isPlain : Value → Bool
  | .tuple _ _ => true
  | .text _ _ => true
  | _ => false

/-- The part of a sequence that a slice keeps; all of a tuple or text is the same one again. -/
def slice (v start stop step : Value) : Except Fault Value := do
  let range (length : Nat) : Except Fault SliceRange := SliceRange.ofParts start stop step length
  match v with
  | .list items _ => return .ofList ((← range items.length).select items)
  | .range a =>
    let r ← range a.length
    match Axis.ofBounds? (a.start + r.start * a.step) (a.start + r.stop * a.step) (a.step * r.step) with
    | some b => return .range b
    | none => throw (.slip .value)
  | v =>
    match tupleItems? v, v.text? with
    | some items, _ =>
      let r ← range items.length
      return if isPlain v && r.isWhole items.length then v else .ofItems (r.select items)
    | none, some s =>
      let r ← range s.length
      return if isPlain v && r.isWhole s.length then v else .ofString (String.ofList (r.select s.toList))
    | none, none => throw .typeSlip

/-- Two sequences of one sort as one; next to an empty one a tuple or text is the same one again. -/
def joined (v w : Value) : Except Fault Value :=
  let oneOf (emptyLeft emptyRight : Bool) (both : Value) : Value :=
    if emptyRight && isPlain v then v else if emptyLeft && isPlain w then w else both
  match v, w with
  | .list xs _, .list ys _ => .ok (.ofList (xs ++ ys))
  | v, w =>
    match tupleItems? v, tupleItems? w, v.text?, w.text? with
    | some xs, some ys, _, _ => .ok (oneOf xs.isEmpty ys.isEmpty (.ofItems (xs ++ ys)))
    | _, _, some s, some t => .ok (oneOf s.isEmpty t.isEmpty (.ofString (s ++ t)))
    | _, _, _, _ => .error .typeSlip

def repeatedItems {α : Type} (n : Int) (items : List α) : List α :=
  if items.isEmpty then [] else (List.replicate n.toNat items).flatten

def isRepeatable : Value → Bool
  | .list _ _ => true
  | v => (tupleItems? v).isSome || v.text?.isSome

def repeated (v : Value) (n : Int) : Except Fault Value :=
  if !isRepeatable v then .error .typeSlip
  else if n < -Int.pow 2 63 ∨ Int.pow 2 63 ≤ n then .error .overflow
  else if isPlain v && n == 1 then .ok v
  else
    .ok <| match v with
      | .list xs _ => .ofList (repeatedItems n xs)
      | v =>
        match tupleItems? v with
        | some items => .ofItems (repeatedItems n items)
        | none => .ofString (String.ofList (repeatedItems n (v.text?.getD "").toList))

end Sequence

end ArrayTyping
