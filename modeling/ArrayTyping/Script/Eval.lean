import ArrayTyping.Script.Declarations
import ArrayTyping.Script.Description
import ArrayTyping.Script.Inspection
import ArrayTyping.Script.Operations
import ArrayTyping.Script.Propagation
import ArrayTyping.Script.Queries
import ArrayTyping.Script.Shapes
/-!
# Eval — running a script

Arguments are evaluated from left to right, then keyword arguments, then the call is made; the first failure ends the
step.  A step binds its names only once its result could be shown.
-/
namespace ArrayTyping.Script

def procedures : List Procedure :=
  declarationProcedures ++ inspectionProcedures ++ shapeProcedures ++ operationProcedures ++ propagationProcedures
    ++ registryProcedures ++ queryProcedures ++ viewProcedures

def findProcedure? (name : String) : Option Procedure := procedures.find? (·.name == name)

namespace Eval

def axisOfBounds (start stop step : Int) : Except Fault Axis :=
  match Axis.ofBounds? start stop step with
  | some a => .ok a
  | none => .error (.slip .value)

def axis : List Int → Except Fault Axis
  | [stop] => axisOfBounds 0 stop 1
  | [start, stop] => axisOfBounds start stop 1
  | [start, stop, step] => axisOfBounds start stop step
  | _ => .error .typeSlip

def slice : List Value → Except Fault Value
  | [stop] => .ok (.slice .none stop .none Mark.unmarked)
  | [start, stop] => .ok (.slice start stop .none Mark.unmarked)
  | [start, stop, step] => .ok (.slice start stop step Mark.unmarked)
  | _ => .error .typeSlip

def float (s : String) : Except Fault Float :=
  match readFloat? s with
  | some x => .ok x
  | none => .error (.slip .value)

def itemNumber (t : Numeric) : ScalarItem → Except Fault Number
  | .bool b => .ok (Number.ofBool b)
  | .int n => .ok (.int n)
  | .text s =>
    match t, readInt? s, readFloat? s, readComplex? s with
    | .bool, _, _, _ => .ok (Number.ofBool !s.isEmpty)
    | .signed _, some n, _, _ => .ok (.int n)
    | .unsigned _, some n, _, _ => .ok (.int n)
    | .float _, _, some x, _ => .ok (.float x)
    | .complex _, _, _, some (re, im) => .ok (.complex re im)
    | _, _, _, _ => .error (.slip .value)

def plainItem : ScalarItem → Value
  | .bool b => .bool b
  | .int n => .ofInt n
  | .text s => .ofString s

/-- The typed scalar of a type and an item; where anything may be held, the item stays as it is. -/
def scalar (dtype : String) (item : ScalarItem) : Except Fault Value := do
  match Dtype.ofName? dtype with
  | none => throw .typeSlip
  | some d =>
    match d.numeric? with
    | none => return plainItem item
    | some t =>
      match TypedScalar.ofNumber? t (← itemNumber t item) with
      | some s => return .ofScalar s
      | none => throw .overflow

def dtype (name : String) : Except Fault Dtype :=
  match Dtype.ofName? name with
  | some d => .ok d
  | none => .error .typeSlip

def function (name : String) : Except Fault Callable :=
  match Primitive.ofName? name, Family.ofName? name with
  | some p, _ => .ok (.primitive p)
  | none, some f => .ok (.family f)
  | none, none => .error (.slip .key)

def named {α : Type} : Option α → Except Fault α
  | some a => .ok a
  | none => .error (.slip .key)

def zeros (dims : List Int) (name : String) : Except Fault Value := do
  let d ← dtype name
  if dims.any (· < 0) then throw (.slip .value)
  return .array ⟨Mark.unmarked, dims.map some, some d, .filled ((d.numeric?.map Numeric.zero).getD (.int 0))⟩

/-- The lazy array with the given lengths.  It reports the named element type, the default one where it says nothing, or
none at all. -/
def lazyArray (dims : List (Option Int)) : String → Value
  | "missing" => .array ⟨Mark.unmarked, dims, none, .deferred false⟩
  | "none" => .array ⟨Mark.unmarked, dims, some .default, .deferred true⟩
  | name => .array ⟨Mark.unmarked, dims, Dtype.ofName? name, .deferred true⟩

def call (caller : Caller) (name : String) (args : List Value) (keywords : List (String × Value)) : Run Value := do
  match findProcedure? name with
  | none => Run.fail (.slip .key)
  | some p =>
    match p.signature.bind? args keywords with
    | none => Run.fail .typeSlip
    | some (fixed, rest) => do Run.refresh (← p.body caller fixed rest)

end Eval

mutual

/-- The value of an expression; `caller` evaluates thunks that are called on the way. -/
def Expr.eval (caller : Caller) : Expr → Run Value
  | .none => return .none
  | .bool b => return .bool b
  | .int n => Run.keep (.ofInt n)
  | .text s => Run.keep (.ofString s)
  | .list items => do Run.keep (.ofList (← evalAll caller items))
  | .tuple items => do Run.keep (.ofItems (← evalAll caller items))
  | .var name => Run.readVariable name
  | .call name args keywords => do
    let args ← evalAll caller args
    let keywords ← evalKeywords caller keywords
    let args ← args.mapM Run.refresh
    Run.keep (← Eval.call caller name args keywords)
  | .float s => do Run.keep (.ofNumber (.float (← Run.ofExcept (Eval.float s))))
  | .complex re im => do
    let re ← Run.ofExcept (Eval.float re)
    let im ← Run.ofExcept (Eval.float im)
    Run.keep (.ofNumber (.complex re im))
  | .scalar dtype item => do Run.keep (← Run.ofExcept (Eval.scalar dtype item))
  | .range bounds => do Run.keep (.range (← Run.ofExcept (Eval.axis bounds)))
  | .slice parts => do Run.keep (← Run.ofExcept (Eval.slice (← evalAll caller parts)))
  | .unknown => return .unknown
  | .function name => do return .callable (← Run.ofExcept (Eval.function name))
  | .kind label => do return .kind (← Run.ofExcept (Eval.named (Container.ofCapitals? label)))
  | .dtype name => do Run.keep (.dtype (← Run.ofExcept (Eval.dtype name)))
  | .code label => do return .code (← Run.ofExcept (Eval.named (ErrorCode.ofCapitals? label)))
  | .zeros dims name => do Run.keep (← Run.ofExcept (Eval.zeros dims name))
  | .lazyArray dims name => Run.keep (Eval.lazyArray dims name)
  | .object => do return .object (← Run.build Build.fresh)
  | .dict entries => do
    let entries ← evalEntries caller [] entries
    Run.keep (.dict entries Mark.unmarked)
  | .thunk body => do return .callable (.thunk (← Run.newThunk body))
  | .rule name => do return .callable (.rule (← Run.ofExcept (Eval.named (BuiltinRule.ofName? name))))
  | .answer label value => do
    let v ← value.eval caller
    return .callable (.answer (← Run.build Build.fresh) label v)
  | .reader label r => do return .callable (.reader (← Run.build Build.fresh) label r)
termination_by structural e => e

def evalAll (caller : Caller) : List Expr → Run (List Value)
  | [] => return []
  | e :: es => do
    let v ← e.eval caller
    let vs ← evalAll caller es
    return (← Run.refresh v) :: vs
termination_by structural es => es

def evalKeywords (caller : Caller) : List (String × Expr) → Run (List (String × Value))
  | [] => return []
  | (name, e) :: es => do
    let v ← e.eval caller
    let vs ← evalKeywords caller es
    return (name, ← Run.refresh v) :: vs
termination_by structural es => es

def evalEntries (caller : Caller) (done : List (Value × Value)) : List (Expr × Expr) → Run (List (Value × Value))
  | [] => return done
  | (k, e) :: es => do
    let key ← k.eval caller
    let v ← e.eval caller
    let done ← Run.ofExcept (Declarations.insertEntry done (key, v))
    evalEntries caller done es
termination_by structural es => es

end

/-- Calls a thunk, at most `depth` thunks within each other. -/
def callThunk : Nat → Caller
  | 0, _ => throw .endless
  | depth + 1, id => do
    match (← get).thunks.lookup id with
    | some body => body.eval (callThunk depth)
    | none => throw .endless

def bindTarget (v : Value) : Target → Run Unit
  | .discard => return ()
  | .name s => Run.assign s v
  | .names ss => do
    let items ← Run.ofExcept v.iterate
    (ss.zip items).forM fun (s, item) => do Run.assign s (← Run.keep item)

/-- What a step answers: what is shown of its result or why it failed, and the events on the way. -/
structure Answer where
  outcome : Except Trouble Description
  events : List Event

def Step.run (depth : Nat) (step : Step) (session : Session) : Answer × Session :=
  let start := { session with store := { session.store with events := [] } }
  let action : Run Description := do
    let v ← step.expr.eval (callThunk depth)
    let shown ← Run.ofExcept (describe (← get).store v)
    bindTarget v step.target
    return shown
  let (outcome, session) := action.run.run start
  (⟨outcome, session.store.events⟩, session)

def runSteps (depth : Nat) : List Step → Session → List Answer
  | [], _ => []
  | step :: steps, session =>
    let (answer, session) := step.run depth session
    answer :: runSteps depth steps session

/-- The answers of a script, one per step.  A thunk that is called inside itself never ends, so the number of thunks in
the script bounds how deep calls that do end can nest. -/
def run (steps : List Step) : List Answer :=
  runSteps ((steps.map fun s => s.expr.thunkCount).foldl (· + ·) 1) steps .empty

end ArrayTyping.Script
