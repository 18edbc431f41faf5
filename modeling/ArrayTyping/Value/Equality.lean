import ArrayTyping.Number.Typed
import ArrayTyping.Value.Identity
/-!
# Equality — when two values count as the same

Numbers compare by value, texts by their characters, axes by the indices they enumerate.  Nodes compare by structure and
not by the shapes attached to them, except that a constant is only ever the same as itself.  Inside a container a value
is always the same as itself, even where it does not equal itself.

A value looked up by its content has to be the same exactly: a number in a type of its own is not rounded before it is
compared, and a type is not the same as its spelling.
-/
namespace ArrayTyping

/-- The type that a value names: by a spelling, as a family whose members it holds, or as its own element type. -/
def Value.namedDtype? : Value → Option Dtype
  | .dtype d => some d
  | .callable (.family .float) => some .float64
  | .callable (.family .int) => some .int64
  | .callable (.family .bool) => some .bool
  | .callable (.family .complex) => some .complex128
  | .callable (.family _) => some .object
  | .scalar s _ => some (.native s.type)
  | .type (.scalar e) _ => e
  | .view n _ => n.type.eltype
  | v => v.text?.bind Dtype.ofName?

/-- The type that a value stands for where it is compared with a type; nothing stands for the default one. -/
def Value.comparedDtype? : Value → Option Dtype
  | .none => some .default
  | v => v.namedDtype?

def Value.isTypedScalar : Value → Bool
  | .scalar _ _ => true
  | _ => false

def Value.numericOperand? : Value → Option NumericOperand
  | .bool b => some (.typed (.ofBool b))
  | .scalar s _ => some (.typed s)
  | v => v.number?.map .literal

/-- Whether two literals are the same number: in the type of an operation on them if one has a type of its own, unless
they are compared exactly. -/
def Value.sameNumber (exact : Bool) (v w : Value) : Bool :=
  if exact || !(v.isTypedScalar || w.isTypedScalar) then
    match v.number?, w.number? with
    | some n, some m => n.equal m
    | _, _ => false
  else
    match v.numericOperand?, w.numericOperand? with
    | some a, some b => a.equal b
    | _, _ => false

def Value.sameAtom (exact : Bool) (v w : Value) : Bool :=
  if v.isScalarLiteral && w.isScalarLiteral then v.sameNumber exact w
  else
    match v.text?, w.text? with
    | some s, some t => s == t
    | _, _ =>
      match v, w with
      | .range a, .range b => a.agrees b
      | .type t _, .type u _ => t.same u
      | .dtype d, .dtype e => d.same e
      | .dtype d, w => !exact && (w.comparedDtype?.map (·.same d)).getD false
      | .scalar _ _, .dtype _ => false
      | v, .dtype d => !exact && (v.comparedDtype?.map (·.same d)).getD false
      | v, w => v.isIdentical w

namespace OutputIndex

def same : OutputIndex → OutputIndex → Bool
  | .literal n _, .literal m _ => n == m
  | .symbol s, .symbol t => s.same t
  | _, _ => false

def sameAll (xs ys : List OutputIndex) : Bool :=
  xs.length == ys.length && (xs.zip ys).all fun (x, y) => x.same y

end OutputIndex

def ElementType.same : ElementType → ElementType → Bool
  | some d, some e => d.same e
  | none, none => true
  | _, _ => false

def sameAxes : List Axis → List Value → Bool
  | [], [] => true
  | a :: as, .range b :: bs => a.agrees b && sameAxes as bs
  | _, _ => false

mutual

def Value.equals (exact : Bool) : Value → Value → Bool
  | .list xs _, .list ys _ => sameValues exact xs ys
  | .tuple xs _, .tuple ys _ => sameValues exact xs ys
  | .tuple xs _, .shape s => sameValues exact xs (s.axes.map Value.range)
  | .shape s, .tuple ys _ => sameAxes s.axes ys
  | .shape s, .shape t => s.agrees t
  | .dict xs _, .dict ys _ => xs.length == ys.length && sameEntries exact xs ys
  | .slice a b c _, .slice d e f _ =>
    (a.isIdentical d || a.equals exact d) && (b.isIdentical e || b.equals exact e)
      && (c.isIdentical f || c.equals exact f)
  | .callable f, .callable g => f.equals exact g
  | .node n, .node m => n.same exact m
  | .occurrence a d _, .occurrence b e _ =>
    (a.isIdentical b || a.equals exact b) && (d.isIdentical e || d.equals exact e)
  | .view n _, .view m _ => n.same exact m
  | .space a _, .space b _ => a.isIdentical b || a.equals exact b
  | v, w => v.sameAtom exact w
termination_by structural v => v

def sameValues (exact : Bool) : List Value → List Value → Bool
  | [], [] => true
  | v :: vs, w :: ws => (v.isIdentical w || v.equals exact w) && sameValues exact vs ws
  | _, _ => false
termination_by structural vs => vs

/-- Whether every entry has its value under the same key on the other side. -/
def sameEntries (exact : Bool) : List (Value × Value) → List (Value × Value) → Bool
  | [], _ => true
  | (k, v) :: es, fs =>
    (fs.any fun (l, w) => (k.isIdentical l || k.equals true l) && (v.isIdentical w || v.equals exact w))
      && sameEntries exact es fs
termination_by structural es => es

def Node.same (exact : Bool) : Node → Node → Bool
  | .symbol s, .symbol t => s.same t
  | .term i f xs _ t _, .term j g ys _ u _ =>
    i == j || ((f.isIdentical g || f.equals exact g) && sameValues exact xs ys && t.same u)
  | .constant i _ _, .constant j _ _ => i == j
  | .arrayOp i out _ body f source k e _, .arrayOp j out' _ body' f' source' k' e' _ =>
    i == j || (OutputIndex.sameAll out out' && (body.isIdentical body' || body.equals exact body')
      && (f.isIdentical f' || f.equals exact f') && sameSource exact source source' && k == k' && e.same e')
  | _, _ => false
termination_by structural n => n

def sameSource (exact : Bool) : Option Node → Option Node → Bool
  | .none, .none => true
  | .some n, .some m => n.same exact m
  | _, _ => false
termination_by structural n => n

/-- Whether two callables are equal; members of the families of operators are if what they hold is. -/
def Callable.equals (exact : Bool) : Callable → Callable → Bool
  | .scaled k _, .scaled l _ => k.equals exact l
  | .unhashable k _, .unhashable l _ => k.equals exact l
  | .elementwise f _, .elementwise g _ => f.isIdentical g || f.equals exact g
  | f, g => f.isIdentical g
termination_by structural f => f

end

/-- Whether two values are the same inside a container. -/
def Value.matches (v w : Value) : Bool := v.isIdentical w || v.equals false w

def Value.sameKey (v w : Value) : Bool := v.isIdentical w || v.equals true w

mutual

def Value.isHashable : Value → Bool
  | .list _ _ => false
  | .dict _ _ => false
  | .slice _ _ _ _ => false
  | .tuple xs _ => allHashable xs
  | .array a => a.isLazy
  | .callable f => f.isHashable
  | .node n => n.isHashable
  | .occurrence a d _ => a.isHashable && d.isHashable
  | .view n _ => n.isHashable
  | .space axes _ => axes.isHashable
  | _ => true
termination_by structural v => v

def allHashable : List Value → Bool
  | [] => true
  | v :: vs => v.isHashable && allHashable vs
termination_by structural vs => vs

def Node.isHashable : Node → Bool
  | .symbol _ => true
  | .term _ f xs _ _ _ => f.isHashable && allHashable xs
  | .constant _ _ _ => true
  | .arrayOp _ _ _ body f source _ _ _ => body.isHashable && f.isHashable && sourceHashable source
termination_by structural n => n

def sourceHashable : Option Node → Bool
  | .none => true
  | .some n => n.isHashable
termination_by structural n => n

def Callable.isHashable : Callable → Bool
  | .scaled k _ => k.isHashable
  | .unhashable _ _ => false
  | .elementwise f _ => f.isHashable
  | _ => true
termination_by structural f => f

end

def Value.family? : Value → Option Family
  | .bool _ => some .bool
  | .int _ _ => some .int
  | .float _ _ => some .float
  | .complex _ _ _ => some .complex
  | .callable (.scaled _ _) => some .scaled
  | .callable (.unhashable _ _) => some .unhashable
  | .callable (.elementwise _ _) => some .elementwise
  | .node (.arrayOp ..) => some .arrayOp
  | _ => Option.none

def Value.isFamily : Value → Bool
  | .callable (.family _) => true
  | _ => false

end ArrayTyping
