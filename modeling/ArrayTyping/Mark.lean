/-!
# Mark — the identity of values

Equal values that were made apart are told apart by their marks.  What has just been computed is unmarked; it gets a
mark of its own when it is kept, and carries that mark wherever it goes.
-/
namespace ArrayTyping

/-- What tells a kept value from its equals. -/
abbrev Mark := Nat

namespace Mark

def unmarked : Mark := 0

/-- The mark of the one axis that lies past every rank. -/
def trivialAxis : Mark := 1

def scalarShape : Mark := 2

def first : Mark := 3

def same (i j : Mark) : Bool := i != unmarked && i == j

/-- The mark itself, or the next free one for what has none. -/
def given (m : Mark) : StateM Mark Mark :=
  if m = unmarked then modifyGet fun next => (next, next + 1) else pure m

end Mark

end ArrayTyping
