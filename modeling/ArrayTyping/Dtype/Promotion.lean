import ArrayTyping.Dtype
/-!
# Promotion — the element type of a mixed operation

Two types promote to the least type that holds both.  Over several operands the types are folded in descending
category, so that narrow integers are weighed against the floating-point type they meet and not against each other
first.  Plain literals are weak: they raise the category of a result, never its width.
-/
namespace ArrayTyping

namespace Width

def next? : Width → Option Width
  | .one => some .two
  | .two => some .four
  | .four => some .eight
  | .eight => none

def max (a b : Width) : Width := if a.bytes ≤ b.bytes then b else a

/-- The precision that holds every integer of this width, up to the widest there is. -/
def precision : Width → Precision
  | .one => .half
  | .two => .single
  | .four => .double
  | .eight => .double

end Width

namespace Precision

def max : Precision → Precision → Precision
  | .double, _ => .double
  | _, .double => .double
  | .single, _ => .single
  | _, .single => .single
  | .half, .half => .half

def toComplex : Precision → ComplexPrecision
  | .half => .single
  | .single => .single
  | .double => .double

end Precision

def ComplexPrecision.max : ComplexPrecision → ComplexPrecision → ComplexPrecision
  | .single, .single => .single
  | _, _ => .double

namespace Numeric

/-- The type of a signed integer of width `s` with an unsigned one of width `u`: a signed type wider than the unsigned
one, and floating-point where there is none. -/
def mixSigns (s u : Width) : Numeric :=
  match u.next? with
  | some w => .signed (s.max w)
  | none => .float .double

def promote : Numeric → Numeric → Numeric
  | .bool, t => t
  | t, .bool => t
  | .signed a, .signed b => .signed (a.max b)
  | .unsigned a, .unsigned b => .unsigned (a.max b)
  | .signed s, .unsigned u => mixSigns s u
  | .unsigned u, .signed s => mixSigns s u
  | .signed w, .float p => .float (w.precision.max p)
  | .float p, .signed w => .float (w.precision.max p)
  | .unsigned w, .float p => .float (w.precision.max p)
  | .float p, .unsigned w => .float (w.precision.max p)
  | .float p, .float q => .float (p.max q)
  | .complex c, .complex d => .complex (c.max d)
  | .complex c, .float p => .complex (c.max p.toComplex)
  | .float p, .complex c => .complex (c.max p.toComplex)
  | .complex c, .signed w => .complex (c.max w.precision.toComplex)
  | .signed w, .complex c => .complex (c.max w.precision.toComplex)
  | .complex c, .unsigned w => .complex (c.max w.precision.toComplex)
  | .unsigned w, .complex c => .complex (c.max w.precision.toComplex)

/-- Booleans, integers, floating-point and complex numbers, in rising order. -/
def category : Numeric → Nat
  | .bool => 0
  | .signed _ => 1
  | .unsigned _ => 1
  | .float _ => 2
  | .complex _ => 3

end Numeric

namespace Dtype

def numeric? : Dtype → Option Numeric
  | .native t => some t
  | .swapped t _ => some t
  | .object => none

inductive Item where
  | unknown
  /-- A type that must be held. -/
  | strong (d : Dtype)
  /-- A literal integer. -/
  | weakInt (n : Int)
  | weakFloat
  | weakComplex
deriving DecidableEq

namespace Item

def strong? : Item → Option Dtype
  | .strong d => some d
  | _ => none

def weakCategory? : Item → Option Nat
  | .weakInt _ => some 1
  | .weakFloat => some 2
  | .weakComplex => some 3
  | _ => none

end Item

def ofCategory (c : Nat) (ts : List Numeric) : List Numeric := ts.filter (·.category == c)

def descending (ts : List Numeric) : List Numeric :=
  ofCategory 3 ts ++ ofCategory 2 ts ++ ofCategory 1 ts ++ ofCategory 0 ts

/-- The type that holds all of `ds`, in native byte order; there is none for no types. -/
def joinStrong? (ds : List Dtype) : Option Dtype :=
  if ds.contains .object then some .object
  else
    match descending (ds.filterMap numeric?) with
    | [] => none
    | t :: ts => some (.native (ts.foldl Numeric.promote t))

def ofWeakCategory : Nat → Dtype
  | 1 => int64
  | 2 => float64
  | _ => complex128

/-- The result type `r` raised to the category `w` of the literals it meets. -/
def raise (r : Dtype) (w : Nat) : Dtype :=
  match r with
  | .native t =>
    if w ≤ t.category then r
    else if w ≤ 2 then ofWeakCategory w
    else if t = .float .half ∨ t = .float .single then complex64
    else complex128
  | _ => r

/-- The type of one literal integer: the first of the widest signed, the widest unsigned and `object` that holds it. -/
def ofInt (n : Int) : Dtype :=
  if -Int.pow 2 63 ≤ n ∧ n < Int.pow 2 63 then int64
  else if 0 ≤ n ∧ n < Int.pow 2 64 then uint64
  else object

def ofItems : List Item → Dtype
  | [.weakInt n] => ofInt n
  | items =>
    let weak := (items.filterMap Item.weakCategory?).foldl max 0
    match joinStrong? (items.filterMap Item.strong?) with
    | some r => r.raise weak
    | none => ofWeakCategory weak

/-- The element type joined over `items`: unknown if one of them is, the default type if there are none. -/
def join (items : List Item) : ElementType :=
  if items.contains .unknown then none
  else if items.isEmpty then some default
  else some (ofItems items)

end Dtype

end ArrayTyping
