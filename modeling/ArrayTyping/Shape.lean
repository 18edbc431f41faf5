import ArrayTyping.Axis
/-!
# Shape — one axis per dimension

A shape is known as a whole or not at all: `ShapeInfo` is `none` where it is not.  Dimensions count from one, and every
dimension past the rank has the trivial axis.
-/
namespace ArrayTyping

structure Shape where
  axes : List Axis
  mark : Mark
deriving DecidableEq

/-- What is known of a shape; `none` is an unknown shape. -/
abbrev ShapeInfo := Option Shape

/-- What is known of a number of dimensions; `none` is an unknown one. -/
abbrev Rank := Option Nat

namespace Shape

def ofAxes (axes : List Axis) : Shape := ⟨axes, Mark.unmarked⟩

def scalar : Shape := ⟨[], Mark.scalarShape⟩

def ofLengths (lengths : List Nat) : Shape := ofAxes (lengths.map Axis.ofLength)

def rank (s : Shape) : Nat := s.axes.length

def lengths? (s : Shape) : Option (List Nat) := s.axes.mapM Axis.length?

/-- How many index tuples there are, if every axis can be measured. -/
def total? (s : Shape) : Option Nat := s.lengths?.map (·.foldl (· * ·) 1)

/-- The axis of the dimension `d`, counted from one. -/
def axis (s : Shape) (d : Nat) : Axis := s.axes.getD (d - 1) Axis.trivial

/-- Whether two shapes have the same rank and enumerate the same indices along every dimension. -/
def agrees (s t : Shape) : Bool :=
  s.axes.length == t.axes.length && (s.axes.zip t.axes).all fun (a, b) => a.agrees b

def plain (s : Shape) : Shape := ofAxes (s.axes.map Axis.plain)

def kept (s : Shape) : StateM Mark Shape := do return ⟨← s.axes.mapM Axis.kept, ← Mark.given s.mark⟩

end Shape

end ArrayTyping
