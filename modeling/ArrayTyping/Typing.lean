import ArrayTyping.Sequence
import ArrayTyping.Store
import ArrayTyping.Value.Equality
/-!
# Typing — the declared type and the shape of a value

Nodes carry their declared type and have their shape in the store; literals are scalars; concrete arrays report both.
Everything else has neither.
-/
namespace ArrayTyping

namespace Value

/-- The type that a value names.  A value that has an element type but does not know it says so; one that reports
something else in its place is wrong, and all others are `refused`. -/
def namedDtype (refused : Fault) (v : Value) : Except Fault Dtype :=
  match v.namedDtype?, v with
  | some d, _ => .ok d
  | Option.none, .view n _ => .error (.conflict (.unknownFact (.node n) .elementType))
  | Option.none, .type (.scalar _) _ => .error (.slip .value)
  | Option.none, .array a =>
    match a.storage with
    | .deferred true => .error (.slip .value)
    | _ => .error refused
  | Option.none, _ => .error refused

/-- What a value contributes to a joined element type: literals without a type of their own are weak. -/
def item : Value → Except Fault Dtype.Item
  | .unknown => .ok .unknown
  | .none => .ok (.strong .default)
  | .bool _ => .ok (.strong .bool)
  | .int n _ => .ok (.weakInt n)
  | .float _ _ => .ok .weakFloat
  | .complex _ _ _ => .ok .weakComplex
  | .scalar s _ => .ok (.strong (.native s.type))
  | .array a =>
    match a.isLazy, a.eltype with
    | false, some d => .ok (.strong d)
    | _, _ => do return .strong (← (Value.array a).namedDtype .typeSlip)
  | v => do return .strong (← v.namedDtype .typeSlip)

def declaredType (v : Value) : Except Fault DeclaredType :=
  match v with
  | .node n => .ok n.type
  | .array a => .ok (Datum.array a).type
  | v =>
    if v.isScalarLiteral then do return .scalar (Dtype.join [← v.item])
    else .error (.refusal (.noDeclaredType v))

def arrayType? : Value → Option DeclaredType
  | .node n => if n.isArray then some n.type else Option.none
  | .array a => some (Datum.array a).type
  | _ => Option.none

def elementType (v : Value) : Except Fault ElementType := do return (← v.declaredType).eltype

def rank (v : Value) : Except Fault Rank := do return (← v.declaredType).rank

def container (v : Value) : Except Fault Container := do
  match (← v.declaredType).container? with
  | some k => return k
  | Option.none => throw (.refusal (.notArrayTyped v))

end Value

/-- The shape that reported lengths make: unknown if one is open, refused if one is negative. -/
def shapeOfDims (dims : List (Option Int)) : Except Fault ShapeInfo :=
  match dims.mapM id with
  | none => .ok none
  | some lengths => do
    let axes ← lengths.mapM fun n =>
      if n < 0 then .error (.refusal (.negativeLength n)) else .ok (Axis.ofLength n.toNat)
    return some (.ofAxes axes)

/-- The shape of a node before anything is attached to it. -/
def Node.initialShape : Node → Except Fault ShapeInfo
  | .constant _ d _ => shapeOfDims d.dims
  | n => .ok (if n.isArray then none else some .scalar)

def Slots.shapeOf (slots : Slots) (v : Value) : Except Fault ShapeInfo :=
  match v with
  | .node n =>
    match slots.get? n.id with
    | some s => .ok s
    | none => n.initialShape
  | .array a => shapeOfDims a.dims
  | v => if v.isScalarLiteral then .ok (some .scalar) else .error (.refusal (.noShape v))

def Slots.hasShape (slots : Slots) : Value → Bool
  | .node n => (slots.get? n.id).isSome
  | _ => false

namespace Build

def shapeOf (v : Value) : Build ShapeInfo := do (← slots).shapeOf v

end Build

namespace Value

/-- Whether a number lies below the integer `n`, or is equal to it where `orEqual`.  Complex numbers compare by their
parts in turn, but only where they have a type of their own. -/
def compared? (orEqual : Bool) (v : Value) (n : Int) : Option Bool :=
  match v, v.number? with
  | .scalar _ _, some (.complex re im) =>
    (Number.lt? (.float re) (.int n)).map fun below =>
      below || (Number.equal (.float re) (.int n) && (decide (im < 0.0) || (orEqual && im == 0.0)))
  | _, some a => (a.lt? (.int n)).map (· || (orEqual && a.equal (.int n)))
  | _, Option.none => Option.none

def below? (v : Value) (n : Int) : Option Bool := v.compared? false n

def atMost? (v : Value) (n : Int) : Option Bool := v.compared? true n

/-- The axis a value describes: an axis, or a length. -/
def toAxis : Value → Except Fault Axis
  | .range a => .ok a
  | .int n _ => if n < 0 then .error (.refusal (.negativeLength n)) else .ok (Axis.ofLength n.toNat)
  | v => .error (.refusal (.invalidAxis v))

def toShape : Value → Except Fault Shape
  | .shape s => .ok s
  | v =>
    match v.iterate with
    | .ok items => do return .ofAxes (← items.mapM toAxis)
    | .error f => .error (if f.isOfType then .refusal .shapeNotIterable else f)

def toShapeInfo : Value → Except Fault ShapeInfo
  | .unknown => .ok Option.none
  | v => do return some (← v.toShape)

def toElementType : Value → Except Fault ElementType
  | .unknown => .ok Option.none
  | .none => .error (.refusal .noElementType)
  | v => do return some (← v.namedDtype (.refusal (.invalidElementType v)))

def toContainer (v : Value) : Except Fault Container :=
  match v.text?.bind Container.ofName? with
  | some k => .ok k
  | Option.none => .error (.slip .value)

def toRank : Value → Except Fault Rank
  | .unknown => .ok Option.none
  | .int n _ => if n < 0 then .error (.refusal (.negativeRank n)) else .ok (some n.toNat)
  | _ => .error (.refusal .rankNotInt)

end Value

namespace DeclaredType

def ofParts (container eltype rank : Value) : Except Fault DeclaredType := do
  let k ← container.toContainer
  let e ← eltype.toElementType
  let n ← rank.toRank
  return .array k e n

end DeclaredType

end ArrayTyping
