import ArrayTyping.Script.Procedure
/-!
# Shapes — shapes, attached shapes and index usage
-/
namespace ArrayTyping.Script

open Procedure

namespace Shapes

def measure (f : Shape → Except Fault Value) (_ : Slots) (v : Value) : Except Fault Value :=
  match v with
  | .shape s => f s
  | _ => .error (.slip .attribute)

def toOccurrence : Value → Except Fault Occurrence
  | .occurrence array dimension _ => .ok ⟨array, dimension⟩
  | _ => .error (.slip .attribute)

/-- The occurrence that an item of a list of occurrences is, on an array that has a shape. -/
def toListed (slots : Slots) (v : Value) : Except Fault Occurrence := do
  let o ← toOccurrence v
  let _ ← o.isKnown slots
  return o

def keyName : Value → Except Fault Label
  | .node (.symbol s) => .ok s.name
  | .kind k => .ok (.ofString k.capitals)
  | .code c => .ok (.ofString c.capitals)
  | .dtype d => .ok (.ofString ((d.numeric?.map Numeric.name).getD "object"))
  | _ => .error (.slip .attribute)

/-- The axis of every key that has one, in order; each entry is read just before it is checked. -/
def checkEntries : List (Value × Value) → Build (List (Value × Value))
  | [] => return []
  | (key, items) :: es => do
    let os ← items.mapItems (toListed (← Build.slots))
    match ← Usage.checkSymbol (keyName key) os with
    | none => checkEntries es
    | some a => return (key, .range a) :: (← checkEntries es)

def ofUsage (u : Usage) : List (Value × Value) :=
  u.map fun (s, os) => (.node (.symbol s), .ofList (os.map Occurrence.toValue))

/-- Adds a use to the dictionary with the given mark: behind the others of its symbol, or as a new entry. -/
def growing (dictionary : Mark) : Visit Session := fun s o => do
  let session ← get
  match session.cells.lookup dictionary with
  | some (.dict entries m) =>
    let (occurrence, next) := o.toValue.kept.run session.store.next
    let session := { session with store := { session.store with next := next } }
    match entries.find? fun e => e.1.sameKey (.node (.symbol s)) with
    | some (_, .list items l) =>
      set { session with cells := session.cells.update l (.list (items ++ [occurrence]) l) }
    | some _ => throw (.slip .attribute)
    | none =>
      let entry : Value × Value := (.node (.symbol s), .list [occurrence] next)
      set { session with
        store := { session.store with next := next + 1 }
        cells := session.cells.update m (.dict (entries ++ [entry]) m) }
  | _ => throw (.slip .attribute)

def walk {α : Type} (w : Walk Session α) : Run α := fun s =>
  let (r, s) := w.run s
  (match r with
    | .ok a => .ok a
    | .error f => .error (.fault f), s)

/-- Collects the usage in a value into a new dictionary or a given one, which grows in place. -/
def collect (v usage : Value) : Run Value := do
  match usage with
  | .none => return .dict (ofUsage (← Run.ofExcept (v.collectUsage []))) Mark.unmarked
  | .dict entries m =>
    if v.isComposite then
      Run.update m (.dict entries m)
      walk (v.visitUses (growing m))
    Run.refresh usage
  | usage =>
    walk (v.visitUses fun _ _ => throw (.slip .attribute))
    return usage

def looseOutput : Value → OutputIndex
  | .node (.symbol s) => .symbol s
  | _ => .literal 0 Mark.unmarked

def outputShape (output body : Value) : Build Value := do
  match output.iterate with
  | .ok items => return .ofShape (← Build.outputShape (items.map looseOutput) body)
  | .error e =>
    let usage ← body.collectUsage []
    let _ ← usage.checkConsistency
    throw e

end Shapes

open Shapes in
def shapeProcedures : List Procedure :=
  [reading "shape_of" "node" fun slots v => do return .ofShape (← slots.shapeOf v),
   building2 "attach_shape" "node" "shape" fun v spec => do return .ofShape (← Build.attachShape v spec),
   reading "has_shape" "node" fun slots v => .ok (.bool (slots.hasShape v)),
   reading "coerce_shape" "spec" fun _ v => do return .ofShape (← v.toShapeInfo),
   reading "from_spec" "spec" fun _ v => do return .shape (← v.toShape),
   reading "is_known_shape" "shape" fun _ v => .ok (.bool (match v with | .shape _ => true | _ => false)),
   reading "shape_ndim" "s" (measure fun s => .ok (.ofInt s.rank)),
   reading "shape_lengths" "s" (measure fun s => do return .ofLengths (← Query.measured s.lengths?)),
   reading "shape_total" "s" (measure fun s => do return .ofInt (← Query.measured s.total?)),
   reading2 "shape_axis" "s" "dim" fun _ v d =>
      match v with
      | .shape s => do return .range (← s.axisAt d)
      | _ => .error (.slip .attribute),
   onValues "collect_index_usage" ⟨required ["node"] ++ [optional "usage"], false, []⟩ fun
      | [v, usage], _ => collect v usage
      | _, _ => Run.fail .typeSlip,
   building "check_index_consistency" "usage" fun
      | .dict entries _ => do return .dict (← checkEntries entries) Mark.unmarked
      | _ => throw (.slip .attribute),
   reading2 "occurrence" "array" "dimension" fun _ array dimension =>
      .ok (.occurrence array dimension Mark.unmarked),
   reading "occurrence_axis" "occurrence" fun slots v => do
      match ← (← toOccurrence v).axis slots with
      | some a => return .range a
      | none => return .unknown,
   reading "occurrence_known" "occurrence" fun slots v => do return .bool (← (← toOccurrence v).isKnown slots),
   building2 "make_shape" "output_idx" "body" outputShape]

end ArrayTyping.Script
