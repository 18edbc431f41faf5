import ArrayTyping.Script.Procedure
/-!
# Declarations — symbols, constants, types and diagnostics
-/
namespace ArrayTyping.Script

open Procedure

namespace Declarations

/-- The diagnostic code a value gives; one that is in snake case already is the same text again. -/
def toCode (v : Value) : Except Fault Label :=
  match v, v.label? with
  | .code c, _ => .ok (.ofString c.text)
  | _, none => .error (.refusal .codeNotText)
  | v, some l =>
    match snakeCode? l.content with
    | some c => .ok (if c = l.content then l else .ofString c)
    | none => .error (.refusal (.malformedCode v))

def toNote (v : Value) : Except Fault String :=
  match v.text? with
  | some s => .ok s
  | none => .error (.refusal .noteNotText)

def toNotes (v : Value) : Except Fault (List String) := do
  let notes ← v.mapItems toNote
  if notes.any isBlankText then throw (.refusal .emptyNote) else return notes

def toPair (v : Value) : Except Fault (Value × Value) := do
  match ← v.iterate with
  | [key, value] => return (key, value)
  | _ => throw (.slip .value)

/-- The entries with one more, which replaces the value of an earlier one under the same key. -/
def insertEntry (entries : List (Value × Value)) (e : Value × Value) : Except Fault (List (Value × Value)) :=
  if !e.1.isHashable then .error .typeSlip
  else if entries.any fun f => f.1.sameKey e.1 then
    .ok (entries.map fun f => if f.1.sameKey e.1 then (f.1, e.2) else f)
  else .ok (entries ++ [e])

/-- The entries that a mapping or a sequence of pairs gives; what counts as false gives none. -/
def toEntries (slots : Slots) (v : Value) : Except Fault (List (Value × Value)) := do
  match v with
  | .dict entries _ => return entries
  | v =>
    if !(← v.truth slots) then return []
    (← v.iterate).foldlM (fun entries pair => do insertEntry entries (← toPair pair)) []

def toData (e : Value × Value) : Except Fault (String × DataValue) :=
  match e.1.text?, e.2 with
  | some key, .bool b => .ok (key, .bool b)
  | some key, .int n _ => .ok (key, .int n)
  | some key, v =>
    match v.text? with
    | some s => .ok (key, .text s)
    | none => .error (.refusal (.dataEntry e.1))
  | none, _ => .error (.refusal (.dataEntry e.1))

def toMessage (v : Value) : Except Fault Label :=
  match v.label? with
  | some l => if isBlankText l.content then .error (.refusal .emptyMessage) else .ok l
  | none => .error (.refusal .emptyMessage)

def toHelp : Value → Except Fault (Option String)
  | .none => .ok none
  | v =>
    match v.text? with
    | some s => .ok (some s)
    | none => .error (.refusal .helpNotText)

def toDiagnostic (slots : Slots) (className code message help related data : Value) : Except Fault Diagnostic := do
  match className.text?.bind DiagnosticClass.ofName? with
  | none => throw (.slip .key)
  | some kind =>
    let message ← toMessage message
    let help ← toHelp help
    let notes ← toNotes related
    let payload ← (← toEntries slots data).mapM toData
    let code ← toCode code
    return ⟨kind, code.content, message, help, notes, payload⟩

/-- What holds of the unknown: it exists once, counts as false, is written in capitals, equals itself and not nothing,
and stays itself when copied. -/
def unknownFacts : Value :=
  .ofList [.bool true, .bool false, .ofString unknownText, .bool true, .bool false, .bool true, .bool true, .bool true]

end Declarations

open Declarations in
def declarationProcedures : List Procedure :=
  [onValues "index_symbols" ⟨[], true, []⟩ fun _ names => do
      return .ofItems ((← Run.build (Build.indexSymbols names)).map fun s => .node (.symbol s)),
   onValues "scalar_symbol" ⟨required ["name"] ++ [free "dtype"], false, []⟩ fun
      | [name, dtype], _ => do return .node (.symbol (← Run.build (Build.scalarSymbol name dtype)))
      | _, _ => Run.fail .typeSlip,
   onValues "array_symbol"
      ⟨required ["name"], false,
        [optional "shape", free "dtype", optional "ndim", ⟨"container", some (.kind .plain)⟩]⟩ fun
      | [name, shape, dtype, rank, container], _ => do
        return .node (.symbol (← Run.build (Build.arraySymbol name shape dtype rank container)))
      | _, _ => Run.fail .typeSlip,
   building "constant" "value" fun v => do return .node (← Build.constant v),
   building "as_operand" "value" Build.operand,
   building2 "Sym" "name" "symtype" fun name type => do return .node (.symbol (← Build.rawSymbol name type)),
   onValues "Term" ⟨required ["op", "args", "symtype"], false, []⟩ fun
      | [op, args, type], _ => do return .node (← Run.build (Build.rawTerm op args type))
      | _, _ => Run.fail .typeSlip,
   building "Const" "value" fun v => do return .node (← Build.rawConstant v),
   onValues "ArrayType" ⟨required ["container"] ++ [free "eltype", free "ndim"], false, []⟩ fun
      | [container, eltype, rank], _ => do
        return .ofType (← Run.ofExcept (DeclaredType.ofParts container eltype rank))
      | _, _ => Run.fail .typeSlip,
   reading "ScalarType" "dtype" fun _ v => do return .ofType (.scalar (← v.toElementType)),
   reading "as_element_type" "value" fun _ v => do return .ofElementType (← v.toElementType),
   reading "is_fully_specialized" "array_type" fun _ v =>
      match v with
      | .type (.array k e n) _ => .ok (.bool (DeclaredType.array k e n).isFullySpecialized)
      | _ => .error (.slip .attribute),
   reading "diagnostic_code" "code" fun _ v => do return .ofLabel (← toCode v),
   onValues "make_error"
      ⟨required ["class_name"], false,
       required ["code", "message"] ++ [optional "help", ⟨"related", some (.ofItems [])⟩, optional "data"]⟩ fun
      | [className, code, message, help, related, data], _ => do
        let d ← Run.ofExcept (toDiagnostic (← Run.slots) className code message help related data)
        return .diagnostic d Mark.unmarked
      | _, _ => Run.fail .typeSlip,
   reading "is_unknown" "value" fun _ v => .ok (.bool v.isUnknown),
   onValues "unknown_facts" ⟨[], false, []⟩ fun _ _ => return unknownFacts]

end ArrayTyping.Script
