import ArrayTyping.Mark
/-!
# Axis — the indices along one dimension

An axis is an arithmetic progression of indices, written by its first index, an excluded bound and a non-zero step.
Two spellings may enumerate the same indices: `agrees` compares what they enumerate, `=` compares the spellings and the
marks.
-/
namespace ArrayTyping

/-- The indices `start`, `start + step`, … on the near side of `stop`. -/
structure Axis where
  start : Int
  stop : Int
  step : Int
  step_ne_zero : step ≠ 0
  mark : Mark
deriving DecidableEq

namespace Axis

def ofLength (n : Nat) : Axis := ⟨0, n, 1, by decide, Mark.unmarked⟩

/-- The axis of every dimension past an array's rank: the single index zero. -/
def trivial : Axis := { ofLength 1 with mark := Mark.trivialAxis }

def ofBounds? (start stop step : Int) : Option Axis :=
  if h : step ≠ 0 then some ⟨start, stop, step, h, Mark.unmarked⟩ else none

/-- How many indices there are: the distance to the bound in steps, rounded up, and zero behind it. -/
def length (a : Axis) : Nat :=
  if 0 < a.step then ((a.stop - a.start + a.step - 1) / a.step).toNat
  else ((a.start - a.stop - a.step - 1) / -a.step).toNat

def nth (a : Axis) (k : Nat) : Int := a.start + k * a.step

def toList (a : Axis) : List Int := (List.range a.length).map a.nth

/-- The first `limit` indices in order, found without the others. -/
def firstIndices (limit : Nat) (a : Axis) : List Int := (List.range (min limit a.length)).map a.nth

/-- Whether two axes enumerate the same indices: equal lengths, then equal first indices, then equal steps, each
compared only where the length leaves it visible. -/
def agrees (a b : Axis) : Bool :=
  a.length == b.length &&
    (a.length == 0 || (a.start == b.start && (a.length == 1 || a.step == b.step)))

def contains (a : Axis) (x : Int) : Bool :=
  let k := (x - a.start) / a.step
  decide (0 ≤ k) && decide (k < a.length) && a.start + k * a.step == x

def maxLength : Nat := Nat.pow 2 63 - 1

def length? (a : Axis) : Option Nat :=
  if a.length ≤ maxLength then some a.length else none

def text (a : Axis) : String :=
  if a.step == 1 then s!"range({a.start}, {a.stop})" else s!"range({a.start}, {a.stop}, {a.step})"

/-- The same axis as it was before it was kept. -/
def plain (a : Axis) : Axis := { a with mark := Mark.unmarked }

def kept (a : Axis) : StateM Mark Axis := do return { a with mark := ← Mark.given a.mark }

end Axis

end ArrayTyping
