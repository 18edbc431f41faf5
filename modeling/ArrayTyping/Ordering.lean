import ArrayTyping.Arithmetic
/-!
# Ordering — which of two values is the smaller one

Numbers are ordered by value, texts by their characters, and sequences of one sort by the first place where they
differ.  Nothing else has an order.
-/
namespace ArrayTyping

namespace Number

/-- The order of numbers, complex ones by their parts in turn. -/
def lessByParts (a b : Number) : Bool :=
  match a, b with
  | .complex re im, .complex re' im' => decide (re < re') || (re == re' && decide (im < im'))
  | a, b => (a.lt? b).getD false

end Number

namespace NumericOperand

def less (a b : NumericOperand) : Bool :=
  match a.number, b.number with
  | .int n, .int m => decide (n < m)
  | x, y =>
    let t := jointType [a, b]
    match a.inType t, b.inType t with
    | .ok n, .ok m => n.lessByParts m
    | _, _ => x.lessByParts y

end NumericOperand

namespace Literal

def less (v w : Value) : Except Fault Bool :=
  if v.isTypedScalar || w.isTypedScalar then
    match v.numericOperand?, w.numericOperand? with
    | some a, some b => .ok (a.less b)
    | _, _ => .error .typeSlip
  else
    match v.number?, w.number? with
    | some n, some m =>
      match n.lt? m with
      | some b => .ok b
      | none => .error .typeSlip
    | _, _ => .error .typeSlip

end Literal

/-- Whether a single number of arrays lies below another one; several numbers have no common answer. -/
def ConcreteArray.less (v w : Value) : Except Fault Bool := do
  let (ns, a) ← v.elements
  let (ms, b) ← w.elements
  let lengths ← commonLengths ns ms
  let below ← Literal.less a b
  if lengths.foldl (· * ·) 1 = 1 then return below else throw (.slip .value)

def Value.lessAtom (v w : Value) : Except Fault Bool :=
  if v.isScalarLiteral && w.isScalarLiteral then Literal.less v w
  else if v.isConcreteArray || w.isConcreteArray then ConcreteArray.less v w
  else
    match v.text?, w.text? with
    | some s, some t => .ok (decide (s < t))
    | _, _ => .error .typeSlip

/-- The order of two sequences of axes, which are ordered only by their number. -/
def lessAxes (as : List Axis) (ws : List Value) : Except Fault Bool :=
  if (as.zip ws).any fun (a, w) => !(Value.range a).matches w then .error .typeSlip
  else .ok (decide (as.length < ws.length))

mutual

def Value.less : Value → Value → Except Fault Bool
  | .list xs _, .list ys _ => lessAll xs ys
  | .tuple xs _, .tuple ys _ => lessAll xs ys
  | .tuple xs _, .shape s => lessAll xs (s.axes.map Value.range)
  | .shape s, .tuple ys _ => lessAxes s.axes ys
  | .shape s, .shape t => lessAxes s.axes (t.axes.map Value.range)
  | v, w => v.lessAtom w
termination_by structural v => v

/-- Whether a sequence comes before another one: by the first items that differ, else by length. -/
def lessAll : List Value → List Value → Except Fault Bool
  | [], ws => .ok !ws.isEmpty
  | _ :: _, [] => .ok false
  | v :: vs, w :: ws => if v.matches w then lessAll vs ws else v.less w
termination_by structural vs => vs

end

namespace Order

/-- The smaller or larger of two values, the first one on a tie. -/
def pick (larger : Bool) (v w : Value) : Except Fault Value := do
  if ← if larger then v.less w else w.less v then return w else return v

def extremum (larger : Bool) : List Value → Except Fault Value
  | [] => .error .typeSlip
  | [v] => do
    match ← v.iterate with
    | [] => throw (.slip .value)
    | w :: ws => ws.foldlM (pick larger) w
  | v :: vs => vs.foldlM (pick larger) v

end Order

end ArrayTyping
