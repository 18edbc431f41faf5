import ArrayTyping.Script.Procedure
/-!
# Queries — what is known of values, index spaces and views
-/
namespace ArrayTyping.Script

open Procedure

namespace Queries

def size (slots : Slots) (v d : Value) : Except Fault Value := do
  match d with
  | .none => return .ofLengths (← Query.lengths slots v)
  | d => return .ofInt (← Query.length slots v (← Query.toDimension d))

def axes (slots : Slots) (v d : Value) : Except Fault Value := do
  let all ← Query.axes slots v
  match d with
  | .none => return .ofItems (all.map .range)
  | d => return .range (← Query.axis slots v (← Query.toDimension d))

def dimensional (name parameter : String) (f : Slots → Value → Value → Except Fault Value) : Procedure :=
  onValues name ⟨required [parameter] ++ [optional "dim"], false, []⟩ fun fixed _ => do
    match fixed with
    | [v, d] => Run.ofExcept (f (← Run.slots) v d)
    | _ => Run.fail .typeSlip

def indexSpace (slots : Slots) (v : Value) : Except Fault Value := do
  return .space (.ofItems ((← Query.indexSpace slots v).map .range)) Mark.unmarked

/-- How many items are asked for at most; nothing asks for all of them. -/
def toLimit : Value → Except Fault (Option Nat)
  | .none => .ok none
  | v =>
    match v.position? with
    | some n => if 0 ≤ n ∧ n ≤ Axis.maxLength then .ok (some n.toNat) else .error (.slip .value)
    | none => .error (.slip .value)

/-- The first items of a value; those of a view are its elements along the first dimension, without end. -/
def firstItems (v limit : Value) : Build Value := do
  let limit? ← toLimit limit
  match v, limit? with
  | .view node _, some n => return .ofList (← (List.range n).mapM fun (i : Nat) => View.index node (.ofInt i))
  | v, some n => return .ofList (← v.someItems n)
  | v, none => return .ofList (← v.iterate)

def onView (f : Slots → Value → Except Fault Value) (slots : Slots) (v : Value) : Except Fault Value :=
  match v with
  | .view n _ => f slots (.node n)
  | _ => .error (.slip .attribute)

def viewTranspose (v : Value) : Build Value :=
  match v with
  | .view n _ => View.transpose n
  | _ => throw (.slip .attribute)

end Queries

open Queries in
def queryProcedures : List Procedure :=
  [reading "dimension_count" "node" fun _ v => do return .ofInt (← Query.dimensionCount v),
   reading "element_type" "node" fun _ v => do return .dtype (← Query.elementType v),
   reading "total_length" "node" fun slots v => do return .ofInt (← Query.totalLength slots v),
   dimensional "size" "node" size,
   dimensional "axes" "node" axes,
   reading "index_space" "node" indexSpace,
   reading "IndexSpace" "axes" fun _ v => .ok (.space v Mark.unmarked),
   building2 "space_list" "space" "limit" firstItems,
   reading "space_len" "space" fun slots v => do return .ofInt (← v.length slots),
   reading2 "space_contains" "space" "item" fun slots v item => do return .bool (← v.holds slots item)]

open Queries in
def viewProcedures : List Procedure :=
  [reading "Arr" "node" fun _ v => do return .view (← View.nodeOf v) Mark.unmarked,
   reading "arr_ndim" "a" (onView fun _ v => do return .ofInt (← Query.dimensionCount v)),
   reading "arr_dtype" "a" (onView fun _ v => do return .dtype (← Query.elementType v)),
   reading "arr_shape" "a" (onView fun slots v => do return .ofLengths (← Query.lengths slots v)),
   dimensional "arr_size" "a" fun slots v d => onView (fun slots v => size slots v d) slots v,
   dimensional "arr_axes" "a" fun slots v d => onView (fun slots v => axes slots v d) slots v,
   reading "arr_index_space" "a" (onView indexSpace),
   reading "arr_len" "a" (onView fun slots v => do
      return .ofInt (← Query.reportedLength (← Query.totalLength slots v))),
   building "arr_transpose" "a" viewTranspose,
   building "arr_T" "a" viewTranspose,
   reading "arr_unwrap" "a" (onView fun _ v => .ok v)]

end ArrayTyping.Script
