import ArrayTyping.Typing
/-!
# IndexUsage — where index symbols are used

A body is walked through its applications in order.  At an indexing the keys are numbered from dimension one, and every
key that is a symbol is an occurrence of it; nothing below an indexing is walked.  All occurrences of a symbol on arrays
of known shape must agree on their axis.
-/
namespace ArrayTyping

/-- One use of an index symbol: the `array` indexed along the `dimension`, counted from one. -/
structure Occurrence where
  array : Value
  dimension : Value

namespace Occurrence

def along (array : Value) (d : Nat) : Occurrence := ⟨array, .ofInt d⟩

def toValue (o : Occurrence) : Value := .occurrence o.array o.dimension Mark.unmarked

end Occurrence

/-- The occurrences of each symbol, symbols in order of their first use. -/
abbrev Usage := List (Symbol × List Occurrence)

namespace Usage

/-- Adds an occurrence behind the others of its symbol. -/
def add (s : Symbol) (o : Occurrence) : Usage → Usage
  | [] => [(s, [o])]
  | (t, os) :: u => if t.same s then (t, os ++ [o]) :: u else (t, os) :: add s o u

def find? (u : Usage) (s : Symbol) : Option (List Occurrence) := (List.find? (fun e => e.1.same s) u).map (·.2)

end Usage

def Callable.isGetitem : Callable → Bool
  | .primitive .getitem => true
  | _ => false

/-- A walk that updates a state at every use it comes to; what it has done by then outlasts a failure. -/
abbrev Walk (σ : Type) := ExceptT Fault (StateM σ)

abbrev Visit (σ : Type) := Symbol → Occurrence → Walk σ Unit

/-- Visits the symbols among `keys`, numbered from `dimension`, as uses along `array`. -/
def visitKeys {σ : Type} (visit : Visit σ) (array : Value) : Nat → List Value → Walk σ Unit
  | _, [] => return ()
  | dimension, .node (.symbol s) :: keys => do
    visit s (.along array dimension)
    visitKeys visit array (dimension + 1) keys
  | dimension, _ :: keys => visitKeys visit array (dimension + 1) keys

mutual

/-- Visits the uses in a node; an indexing of nothing is refused. -/
def Node.visitUses {σ : Type} (visit : Visit σ) : Node → Walk σ Unit
  | .symbol _ => return ()
  | .constant _ _ _ => return ()
  | .term _ op args _ _ _ =>
    if op.isGetitem then
      match args with
      | [] => throw (.slip .value)
      | array :: keys => visitKeys visit array 1 keys
    else visitUsesAll visit args
  | .arrayOp _ _ _ body _ source _ _ _ => do
    body.visitUses visit
    visitUsesOfSource visit source
termination_by structural n => n

def Value.visitUses {σ : Type} (visit : Visit σ) : Value → Walk σ Unit
  | .node n => n.visitUses visit
  | _ => return ()
termination_by structural v => v

def visitUsesAll {σ : Type} (visit : Visit σ) : List Value → Walk σ Unit
  | [] => return ()
  | v :: vs => do
    v.visitUses visit
    visitUsesAll visit vs
termination_by structural vs => vs

def visitUsesOfSource {σ : Type} (visit : Visit σ) : Option Node → Walk σ Unit
  | .none => return ()
  | .some n => n.visitUses visit
termination_by structural n => n

end

namespace Usage

def collecting : Visit Usage := fun s o => modify (·.add s o)

end Usage

def Value.collectUsage (v : Value) (u : Usage) : Except Fault Usage :=
  match (v.visitUses Usage.collecting).run.run u with
  | (.ok _, u) => .ok u
  | (.error f, _) => .error f

/-- The axis of a shape at a dimension that any value gives. -/
def Shape.axisAt (s : Shape) (d : Value) : Except Fault Axis :=
  match d.below? 1, d.atMost? s.rank with
  | some true, _ => .error (.refusal (.dimensionTooSmall d))
  | some false, some false => .ok .trivial
  | some false, some true =>
    match d, d.position? with
    | _, some i => .ok (s.axis i.toNat)
    | .scalar ⟨.bool, .int i⟩ _, none => .ok (s.axis i.toNat)
    | _, none => .error .typeSlip
  | _, _ => .error .typeSlip

namespace Occurrence

def isKnown (slots : Slots) (o : Occurrence) : Except Fault Bool := do
  return (← slots.shapeOf o.array).isSome

def axis (slots : Slots) (o : Occurrence) : Except Fault (Option Axis) := do
  match ← slots.shapeOf o.array with
  | none => return none
  | some s => return some (← s.axisAt o.dimension)

/-- The dimension as part of a report, which only integers and truth values can be. -/
def reportedDimension (o : Occurrence) : Except Fault DataValue :=
  match o.dimension with
  | .int n _ => .ok (.int n)
  | .bool b => .ok (.bool b)
  | _ => .error (.refusal (.dataEntry (.ofString "dimension")))

end Occurrence

namespace Usage

def known (slots : Slots) : List Occurrence → Except Fault (List (Occurrence × Shape))
  | [] => .ok []
  | o :: os => do
    let s? ← slots.shapeOf o.array
    let rest ← known slots os
    match s? with
    | some s => return (o, s) :: rest
    | none => return rest

/-- Refuses the first occurrence whose axis is not `expected`; the symbol's `name` is asked for only then. -/
def checkAgainst (name : Except Fault Label) (expected : Axis) : List (Occurrence × Shape) → Except Fault Unit
  | [] => .ok ()
  | (o, s) :: rest => do
    let got ← s.axisAt o.dimension
    if got.agrees expected then checkAgainst name expected rest
    else throw (.conflict (.index (← name) o.array (← o.reportedDimension) expected got))

/-- The axis that all occurrences of a symbol on arrays of known shape have, if there are any. -/
def reference (slots : Slots) (name : Except Fault Label) (os : List Occurrence) : Except Fault (Option Axis) := do
  match ← known slots os with
  | [] => return none
  | (o, s) :: rest =>
    let expected ← s.axisAt o.dimension
    checkAgainst name expected rest
    return some expected

/-- The axis of one symbol, if it has one; a symbol without one is recorded. -/
def checkSymbol (name : Except Fault Label) (os : List Occurrence) : Build (Option Axis) := do
  match ← reference (← Build.slots) name os with
  | some a => return some a
  | none =>
    Build.record (.looseIndex (← name))
    return none

def checkConsistency : Usage → Build (List (Symbol × Axis))
  | [] => return []
  | (s, os) :: u => do
    match ← checkSymbol (.ok s.name) os with
    | none => checkConsistency u
    | some a => return (s, a) :: (← checkConsistency u)

end Usage

end ArrayTyping
