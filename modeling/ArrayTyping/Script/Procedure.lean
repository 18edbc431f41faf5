import ArrayTyping.RegisteredRules
import ArrayTyping.Script.Session
/-!
# Procedure — what a script can call

A procedure has a name, parameters and a body.  Arguments are bound to parameters by position, then by keyword; a call
with too many, too few or unknown arguments is refused.
-/
namespace ArrayTyping.Script

structure Parameter where
  name : String
  default? : Option Value := none

/-- The parameters of a procedure: those bound by position or keyword, whether more may follow, and those bound by
keyword only. -/
structure Signature where
  positional : List Parameter
  takesRest : Bool := false
  keywordOnly : List Parameter := []

namespace Signature

/-- The values of the parameters, defaults filled in; those given by position come first. -/
def fill : List Parameter → List Value → List (String × Value) → Option (List Value)
  | [], _, _ => some []
  | p :: ps, v :: vs, keywords =>
    if (keywords.lookup p.name).isSome then none else (fill ps vs keywords).map (v :: ·)
  | p :: ps, [], keywords =>
    match keywords.lookup p.name, p.default? with
    | some v, _ => (fill ps [] keywords).map (v :: ·)
    | none, some v => (fill ps [] keywords).map (v :: ·)
    | none, none => none

def bind? (s : Signature) (args : List Value) (keywords : List (String × Value)) :
    Option (List Value × List Value) :=
  let rest := args.drop s.positional.length
  let known := (s.positional ++ s.keywordOnly).map (·.name)
  if (!rest.isEmpty && !s.takesRest) || keywords.any (fun k => !known.contains k.1) then none
  else do
    let fixed ← fill s.positional (args.take s.positional.length) keywords
    let named ← fill s.keywordOnly [] keywords
    return (fixed ++ named, rest)

end Signature

abbrev Caller := Nat → Run Value

/-- Something a script can call: its body gets one value per parameter, and the rest. -/
structure Procedure where
  name : String
  signature : Signature
  body : Caller → List Value → List Value → Run Value

namespace Procedure

def required (names : List String) : List Parameter := names.map fun s => ⟨s, none⟩

def optional (name : String) : Parameter := ⟨name, some .none⟩

def free (name : String) : Parameter := ⟨name, some .unknown⟩

def onValues (name : String) (s : Signature) (body : List Value → List Value → Run Value) : Procedure :=
  ⟨name, s, fun _ => body⟩

def reading (name parameter : String) (f : Slots → Value → Except Fault Value) : Procedure :=
  onValues name ⟨required [parameter], false, []⟩ fun fixed _ => do
    match fixed with
    | [v] => Run.ofExcept (f (← Run.slots) v)
    | _ => Run.fail .typeSlip

def reading2 (name first second : String) (f : Slots → Value → Value → Except Fault Value) : Procedure :=
  onValues name ⟨required [first, second], false, []⟩ fun fixed _ => do
    match fixed with
    | [v, w] => Run.ofExcept (f (← Run.slots) v w)
    | _ => Run.fail .typeSlip

def building (name parameter : String) (f : Value → Build Value) : Procedure :=
  onValues name ⟨required [parameter], false, []⟩ fun fixed _ =>
    match fixed with
    | [v] => Run.build (f v)
    | _ => Run.fail .typeSlip

def building2 (name first second : String) (f : Value → Value → Build Value) : Procedure :=
  onValues name ⟨required [first, second], false, []⟩ fun fixed _ =>
    match fixed with
    | [v, w] => Run.build (f v w)
    | _ => Run.fail .typeSlip

end Procedure

def callWith (caller : Caller) (args : List Value) : Callable → Run Value
  | .elementwise f _ => callWith caller args f
  | .thunk id => if args.isEmpty then caller id else Run.fail .typeSlip
  | f => Run.build (Build.call args f)

end ArrayTyping.Script
