import ArrayTyping.Label
/-!
# Diagnostic — structured reports of what went wrong

A diagnostic has a class, a code in snake case, a message, an optional hint, notes that name the stage it comes from and
a flat payload.
-/
namespace ArrayTyping

/-- Whether `s` starts with a letter of the class `letter` and goes on with such letters, digits and underscores. -/
def isCode (letter : Char → Bool) (s : String) : Bool :=
  match s.toList with
  | [] => false
  | c :: cs => letter c && cs.all fun c => letter c || c.isDigit || c == '_'

/-- The snake-case form of a code written in snake case or in upper case. -/
def snakeCode? (s : String) : Option String :=
  if isCode Char.isLower s then some s
  else if isCode Char.isUpper s then some (lowerCode s)
  else none

inductive DiagnosticClass where
  | general
  | dimensionMismatch
  | unresolvedIndex
  | propagation
  | shapeMetadata
  | unknownQuery
deriving DecidableEq

namespace DiagnosticClass

def name : DiagnosticClass → String
  | .general => "SymArrayError"
  | .dimensionMismatch => "DimensionMismatchError"
  | .unresolvedIndex => "UnresolvedIndexError"
  | .propagation => "PropagationError"
  | .shapeMetadata => "ShapeMetadataError"
  | .unknownQuery => "UnknownQueryError"

def all : List DiagnosticClass :=
  [.general, .dimensionMismatch, .unresolvedIndex, .propagation, .shapeMetadata, .unknownQuery]

def ofName? (s : String) : Option DiagnosticClass := all.find? (·.name == s)

def channel : DiagnosticClass → String
  | .general => "error"
  | .unknownQuery => "query_error"
  | _ => "construction_error"

end DiagnosticClass

inductive DataValue where
  | text (s : String)
  | int (n : Int)
  | bool (b : Bool)
deriving DecidableEq

def DataValue.shown : DataValue → String
  | .text s => s
  | .int n => toString n
  | .bool b => if b then "True" else "False"

structure Diagnostic where
  kind : DiagnosticClass
  code : String
  message : Label
  help : Option String := none
  related : List String := []
  data : List (String × DataValue) := []

namespace Diagnostic

def externalCode (d : Diagnostic) : String := upperCode d.code

def severity (_ : Diagnostic) : String := "error"

end Diagnostic

end ArrayTyping
