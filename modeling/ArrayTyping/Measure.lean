import ArrayTyping.Query
/-!
# Measure — lengths, truth and membership

What holds items has a length, of which it cannot report more than a machine counts, and says whether a value is among
its items.  Every value counts as true or false: nothing, the unknown, zero and what is empty are false.
-/
namespace ArrayTyping

mutual

def Value.length (slots : Slots) : Value → Except Fault Nat
  | .list items _ => .ok items.length
  | .tuple items _ => .ok items.length
  | .dict entries _ => .ok entries.length
  | .range a => Query.measured a.length?
  | .shape s => .ok s.rank
  | .space axes _ => do Query.reportedLength ((← axes.itemLengths slots).foldl (· * ·) 1)
  | .text s _ => .ok s.length
  | .kind k => .ok k.name.length
  | .code c => .ok c.text.length
  | .dtype _ => .ok 0
  | .view n _ => do Query.reportedLength (← Query.totalLength slots (.node n))
  | .array a =>
    match a.isLazy, a.lengths with
    | false, n :: _ => .ok n
    | _, _ => .error .typeSlip
  | _ => .error .typeSlip
termination_by structural v => v

def Value.itemLengths (slots : Slots) : Value → Except Fault (List Nat)
  | .list items _ => lengthsOfAll slots items
  | .tuple items _ => lengthsOfAll slots items
  | .dict entries _ => lengthsOfKeys slots entries
  | .range a => if a.length = 0 then .ok [] else .error .typeSlip
  | .shape s => s.axes.mapM fun a => Query.measured a.length?
  | .space axes _ => do return (tuplesOver none (← axes.pools none)).map List.length
  | .text s _ => .ok (s.toList.map fun _ => 1)
  | .kind k => .ok (k.name.toList.map fun _ => 1)
  | .code c => .ok (c.text.toList.map fun _ => 1)
  | .array a => do
    match a.lengths with
    | _ :: n :: _ => return (← a.rows).map fun _ => n
    | _ => if (← a.rows).isEmpty then return [] else throw .typeSlip
  | .iterator source _ => source.itemLengths slots
  | .node n => .error (.refusal (.notIterable n))
  | _ => .error .typeSlip
termination_by structural v => v

def lengthsOfAll (slots : Slots) : List Value → Except Fault (List Nat)
  | [] => .ok []
  | v :: vs => do return (← v.length slots) :: (← lengthsOfAll slots vs)
termination_by structural vs => vs

def lengthsOfKeys (slots : Slots) : List (Value × Value) → Except Fault (List Nat)
  | [] => .ok []
  | (k, _) :: es => do return (← k.length slots) :: (← lengthsOfKeys slots es)
termination_by structural es => es

end

namespace Value

def truth (slots : Slots) (v : Value) : Except Fault Bool :=
  match v with
  | .none => .ok false
  | .unknown => .ok false
  | .list items _ => .ok !items.isEmpty
  | .tuple items _ => .ok !items.isEmpty
  | .dict entries _ => .ok !entries.isEmpty
  | .shape s => .ok !s.axes.isEmpty
  | .range a => .ok (a.length != 0)
  | .space _ _ => do return (← v.length slots) != 0
  | .view _ _ => do return (← v.length slots) != 0
  | .array a =>
    if a.isLazy then .ok true
    else if a.size = 1 then .ok a.fill.isNonzero
    else .error (.slip .value)
  | v =>
    match v.number?, v.text? with
    | some n, _ => .ok n.isNonzero
    | _, some s => .ok !s.isEmpty
    | _, _ => .ok true

def exactInt? (v : Value) : Option Int :=
  v.number?.bind fun
    | .int n => some n
    | .float x => Number.toInt? x
    | .complex re im => if im == 0.0 then Number.toInt? re else Option.none

def isWithin (part : List Char) : List Char → Bool
  | [] => part.isEmpty
  | c :: cs => part.isPrefixOf (c :: cs) || isWithin part cs

def isPartOf (item : Value) (s : String) : Except Fault Bool :=
  match item.text? with
  | some t => .ok (isWithin t.toList s.toList)
  | Option.none => .error .typeSlip

end Value

/-- Whether a value equals one of the indices along an axis.  An array is compared with the first one at least, and has
an answer only if it has a single element. -/
def Axis.holds (a : Axis) (item : Value) : Except Fault Bool :=
  match item, item.exactInt? with
  | _, some n => .ok (a.contains n)
  | .array b, none =>
    if b.isLazy || a.length = 0 then .ok false
    else if b.size = 1 then .ok ((b.element.exactInt?.map a.contains).getD false)
    else .error (.slip .value)
  | _, none => .ok false

/-- Whether each item is one of the indices along the axis in its place. -/
def axesHold : List Axis → List Value → Except Fault Bool
  | a :: as, item :: items => do if ← a.holds item then axesHold as items else return false
  | _, _ => .ok true

def partsOf : List Value → List Value → Except Fault Bool
  | item :: items, text :: texts => do
    if ← item.isPartOf (text.text?.getD "") then partsOf items texts else return false
  | _, _ => .ok true

mutual

def Value.holds (slots : Slots) : Value → Value → Except Fault Bool
  | .list items _, item => .ok (items.any item.matches)
  | .tuple items _, item => .ok (items.any item.matches)
  | .shape s, item => .ok (s.axes.any fun a => item.matches (.range a))
  | .dict entries _, item => if item.isHashable then .ok (entries.any (item.sameKey ·.1)) else .error .typeSlip
  | .range a, item => a.holds item
  | .space axes _, item =>
    match Sequence.tupleItems? item with
    | none => .ok false
    | some items => do
      if (← axes.length slots) ≠ items.length then return false
      axes.eachHolds slots items
  | .text s _, item => item.isPartOf s
  | .kind k, item => item.isPartOf k.name
  | .code c, item => item.isPartOf c.text
  | .array a, item => if a.isLazy then .error .typeSlip else .ok (a.size != 0 && item.matches a.element)
  | .iterator source _, item => do return (← source.iterate).any item.matches
  | .node n, _ => .error (.refusal (.notIterable n))
  | _, _ => .error .typeSlip
termination_by structural v => v

def Value.eachHolds (slots : Slots) : Value → List Value → Except Fault Bool
  | .list axes _, items => allHold slots axes items
  | .tuple axes _, items => allHold slots axes items
  | .shape s, items => axesHold s.axes items
  | .dict entries _, items => allKeysHold slots entries items
  | .text s _, items => partsOf items (characters s)
  | .kind k, items => partsOf items (characters k.name)
  | .code c, items => partsOf items (characters c.text)
  | _, items => if items.isEmpty then .ok true else .error .typeSlip
termination_by structural v => v

def allHold (slots : Slots) : List Value → List Value → Except Fault Bool
  | axis :: axes, item :: items => do
    if ← axis.holds slots item then allHold slots axes items else return false
  | _, _ => .ok true
termination_by structural axes => axes

def allKeysHold (slots : Slots) : List (Value × Value) → List Value → Except Fault Bool
  | (k, _) :: es, item :: items => do
    if ← k.holds slots item then allKeysHold slots es items else return false
  | _, _ => .ok true
termination_by structural es => es

end

end ArrayTyping
