import ArrayTyping.Rules
/-!
# RuleBook — the rank and the shape that rules give an application

A rule book finds the rule for an operator and a number of operands.  An answer counts as a rank if it is a
non-negative integer, and as a shape if it describes one or says that it is unknown.
-/
namespace ArrayTyping

/-- For every kind of rule, operator and number of operands, the rule to use. -/
structure RuleBook where
  rule? : RuleKind → Value → Nat → Option Rule

namespace RuleBook

def checkRank (op : Value) (args : List Value) (answer : Value) : Except Fault Nat :=
  match answer with
  | .int n _ => if n < 0 then .error (.conflict (.invalidRank op answer args)) else .ok n.toNat
  | _ => .error (.conflict (.invalidRank op answer args))

def rank (book : RuleBook) (op : Value) (args : List Value) : Build Nat := do
  match book.rule? .ndims op args.length with
  | none => throw (.conflict (.missingRule .ndims op args))
  | some rule => checkRank op args (← rule.respond op args)

def shape (book : RuleBook) (op : Value) (args : List Value) : Build ShapeInfo := do
  match book.rule? .shape op args.length with
  | none => throw (.conflict (.missingRule .shape op args))
  | some rule => (← rule.respond op args).toShapeInfo

end RuleBook

end ArrayTyping
