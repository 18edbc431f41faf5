import ArrayTyping.IndexUsage
/-!
# OutputShape — the shape that index notation gives

Each output index takes the axis of its first use in the body, and an integer the trivial axis.  The shape is unknown
as soon as one of these axes is.
-/
namespace ArrayTyping

def OutputIndex.axis (slots : Slots) (usage : Usage) (body : Value) : OutputIndex → Except Fault (Option Axis)
  | .literal _ _ => .ok (some .trivial)
  | .symbol s =>
    match usage.find? s with
    | some (o :: _) => o.axis slots
    | _ => .error (.conflict (.unresolved s.name body))

namespace Build

def outputShape (output : List OutputIndex) (body : Value) : Build ShapeInfo := do
  let usage ← body.collectUsage []
  let _ ← usage.checkConsistency
  let slots ← slots
  let axes ← output.mapM fun i => (i.axis slots usage body : Except Fault (Option Axis))
  match axes.mapM id with
  | none =>
    record (.shapeUnknown body)
    return none
  | some known =>
    record (.shapeResolved (.ofAxes known) body)
    return some (.ofAxes known)

end Build

end ArrayTyping
