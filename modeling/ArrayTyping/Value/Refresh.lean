import ArrayTyping.Value
/-!
# Refresh — the contents that shared lists and dictionaries have by now

A list or dictionary that has grown is known by its mark.  Wherever a value still holds an earlier state of it,
refreshing puts the present one in its place.
-/
namespace ArrayTyping

/-- The present states of what has changed since it was made, by mark. -/
abbrev Cells := List (Mark × Value)

mutual

/-- The value with the present state of everything in it. -/
def Value.refreshed (cells : Cells) : Value → Value
  | .list items m => (cells.lookup m).getD (.list (refreshedAll cells items) m)
  | .dict entries m => (cells.lookup m).getD (.dict (refreshedEntries cells entries) m)
  | .tuple items m => .tuple (refreshedAll cells items) m
  | .slice start stop step m =>
    .slice (start.refreshed cells) (stop.refreshed cells) (step.refreshed cells) m
  | .callable f => .callable (f.refreshed cells)
  | .node n => .node (n.refreshed cells)
  | .occurrence array dimension m => .occurrence (array.refreshed cells) (dimension.refreshed cells) m
  | .view n m => .view (n.refreshed cells) m
  | .space axes m => .space (axes.refreshed cells) m
  | .iterator source m => .iterator (source.refreshed cells) m
  | v => v
termination_by structural v => v

def refreshedAll (cells : Cells) : List Value → List Value
  | [] => []
  | v :: vs => v.refreshed cells :: refreshedAll cells vs
termination_by structural vs => vs

def refreshedEntries (cells : Cells) : List (Value × Value) → List (Value × Value)
  | [] => []
  | (k, v) :: es => (k.refreshed cells, v.refreshed cells) :: refreshedEntries cells es
termination_by structural es => es

def Node.refreshed (cells : Cells) : Node → Node
  | .term id op args argsMark t typeMark =>
    .term id (op.refreshed cells) (refreshedAll cells args) argsMark t typeMark
  | .arrayOp id output outputMark body reduce source k e typeMark =>
    .arrayOp id output outputMark (body.refreshed cells) (reduce.refreshed cells) (refreshedSource cells source) k e
      typeMark
  | n => n
termination_by structural n => n

def refreshedSource (cells : Cells) : Option Node → Option Node
  | .none => none
  | .some n => some (n.refreshed cells)
termination_by structural n => n

def Callable.refreshed (cells : Cells) : Callable → Callable
  | .scaled k m => .scaled (k.refreshed cells) m
  | .unhashable k m => .unhashable (k.refreshed cells) m
  | .elementwise f m => .elementwise (f.refreshed cells) m
  | .answer id label v => .answer id label (v.refreshed cells)
  | f => f
termination_by structural f => f

end

namespace Cells

/-- Puts a new state of one list or dictionary in the place of the former one, everywhere. -/
def update (cells : Cells) (m : Mark) (v : Value) : Cells :=
  (m, v) :: (cells.filter (·.1 != m)).map fun (n, w) =>
    (n, match w with
      | .list items k => .list (refreshedAll [(m, v)] items) k
      | .dict entries k => .dict (refreshedEntries [(m, v)] entries) k
      | w => w)

end Cells

end ArrayTyping
