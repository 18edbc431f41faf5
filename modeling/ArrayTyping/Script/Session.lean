import ArrayTyping.Script.Expr
import ArrayTyping.Store
import ArrayTyping.Value.Refresh
/-!
# Session — the state of a running script

A session holds the store, the variables, the thunks, and the present states of lists and dictionaries that have grown
since they were made.  Every value that a script can hold on to is kept: it has a mark by which it is told from its
equals.
-/
namespace ArrayTyping.Script

structure Session where
  store : Store
  bindings : List (String × Value)
  cells : Cells
  thunks : List (Nat × Expr)

namespace Session

def empty : Session := ⟨.empty, [], [], []⟩

end Session

inductive Trouble where
  | fault (f : Fault)
  | unbound (name : String)
  /-- Thunks that call each other without end. -/
  | endless

/-- A computation in a session; the session outlasts a failure. -/
abbrev Run := ExceptT Trouble (StateM Session)

namespace Run

def build {α : Type} (b : Build α) : Run α := fun s =>
  let (r, store) := b.run s.store
  (match r with
    | .ok a => .ok a
    | .error f => .error (.fault f),
   { s with store := store })

def fail {α : Type} (f : Fault) : Run α := throw (.fault f)

def ofExcept {α : Type} : Except Fault α → Run α
  | .ok a => return a
  | .error f => fail f

def slots : Run Slots := do return (← get).store.slots

def keep (v : Value) : Run Value := build (Build.keep v)

def refresh (v : Value) : Run Value := do
  let cells := (← get).cells
  return if cells.isEmpty then v else v.refreshed cells

def update (m : Mark) (v : Value) : Run Unit := modify fun s => { s with cells := s.cells.update m v }

def readVariable (name : String) : Run Value := do
  match (← get).bindings.lookup name with
  | some v => refresh v
  | none => throw (.unbound name)

def assign (name : String) (v : Value) : Run Unit :=
  modify fun s => { s with bindings := (name, v) :: s.bindings.filter (·.1 != name) }

def newThunk (body : Expr) : Run Nat := do
  let id ← build Build.fresh
  modify fun s => { s with thunks := (id, body) :: s.thunks }
  return id

end Run

end ArrayTyping.Script
