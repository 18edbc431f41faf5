/-!
# ErrorCode — the codes of diagnostics

A code is written in snake case; outside the library it goes by the same letters in capitals.
-/
namespace ArrayTyping

inductive ErrorCode where
  | dimensionMismatch
  | unresolvedIndex
  | missingNdimsRule
  | missingShapeRule
  | invalidNdims
  | unsupportedOperands
  | unknownShape
  | unknownEltype
  | unknownNdims
  | shapeAlreadyAttached
deriving DecidableEq

def upperCode (s : String) : String := String.ofList (s.toList.map Char.toUpper)

def lowerCode (s : String) : String := String.ofList (s.toList.map Char.toLower)

namespace ErrorCode

def text : ErrorCode → String
  | .dimensionMismatch => "dimension_mismatch"
  | .unresolvedIndex => "unresolved_index"
  | .missingNdimsRule => "missing_ndims_rule"
  | .missingShapeRule => "missing_shape_rule"
  | .invalidNdims => "invalid_ndims"
  | .unsupportedOperands => "unsupported_operands"
  | .unknownShape => "unknown_shape"
  | .unknownEltype => "unknown_eltype"
  | .unknownNdims => "unknown_ndims"
  | .shapeAlreadyAttached => "shape_already_attached"

def capitals (c : ErrorCode) : String := upperCode c.text

def all : List ErrorCode :=
  [.dimensionMismatch, .unresolvedIndex, .missingNdimsRule, .missingShapeRule, .invalidNdims, .unsupportedOperands,
   .unknownShape, .unknownEltype, .unknownNdims, .shapeAlreadyAttached]

def ofCapitals? (s : String) : Option ErrorCode := all.find? (·.capitals == s)

end ErrorCode

end ArrayTyping
