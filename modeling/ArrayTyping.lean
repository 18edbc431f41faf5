import ArrayTyping.Application
import ArrayTyping.Arithmetic
import ArrayTyping.ArrayOp
import ArrayTyping.Axis
import ArrayTyping.Broadcast
import ArrayTyping.Comparison
import ArrayTyping.Construction
import ArrayTyping.Container
import ArrayTyping.Conversion
import ArrayTyping.DeclaredType
import ArrayTyping.Diagnostic
import ArrayTyping.Dtype
import ArrayTyping.Dtype.Promotion
import ArrayTyping.ElementFunction
import ArrayTyping.ErrorCode
import ArrayTyping.Fault
import ArrayTyping.Gathering
import ArrayTyping.IndexSpace
import ArrayTyping.IndexUsage
import ArrayTyping.Label
import ArrayTyping.Lookup
import ArrayTyping.Mark
import ArrayTyping.MatrixProduct
import ArrayTyping.Measure
import ArrayTyping.Number
import ArrayTyping.Number.Arithmetic
import ArrayTyping.Number.Dyadic
import ArrayTyping.Number.Layout
import ArrayTyping.Number.Reading
import ArrayTyping.Number.Remainder
import ArrayTyping.Number.Root
import ArrayTyping.Number.Shortest
import ArrayTyping.Number.Typed
import ArrayTyping.Operators
import ArrayTyping.Ordering
import ArrayTyping.OutputShape
import ArrayTyping.Proofs.Applying
import ArrayTyping.Proofs.ArrayOps
import ArrayTyping.Proofs.Axes
import ArrayTyping.Proofs.Broadcasting
import ArrayTyping.Proofs.Forgetting
import ArrayTyping.Proofs.Growth
import ArrayTyping.Proofs.IndexNotation
import ArrayTyping.Proofs.Keeping
import ArrayTyping.Proofs.Making
import ArrayTyping.Proofs.Marks
import ArrayTyping.Proofs.Matching
import ArrayTyping.Proofs.Nodes
import ArrayTyping.Proofs.Occurrences
import ArrayTyping.Proofs.Operands
import ArrayTyping.Proofs.Outcome
import ArrayTyping.Proofs.Ranks
import ArrayTyping.Proofs.Rebuilding
import ArrayTyping.Proofs.Resolution
import ArrayTyping.Proofs.RuleAgreement
import ArrayTyping.Proofs.Runs
import ArrayTyping.Query
import ArrayTyping.RegisteredRules
import ArrayTyping.Registry
import ArrayTyping.RuleBook
import ArrayTyping.Rules
import ArrayTyping.Script.Declarations
import ArrayTyping.Script.Description
import ArrayTyping.Script.Eval
import ArrayTyping.Script.Expr
import ArrayTyping.Script.Inspection
import ArrayTyping.Script.Operations
import ArrayTyping.Script.Procedure
import ArrayTyping.Script.Propagation
import ArrayTyping.Script.Queries
import ArrayTyping.Script.Session
import ArrayTyping.Script.Shapes
import ArrayTyping.Sequence
import ArrayTyping.Shape
import ArrayTyping.Store
import ArrayTyping.Text.Address
import ArrayTyping.Text.Blank
import ArrayTyping.Text.Block
import ArrayTyping.Text.CodeRange
import ArrayTyping.Text.Digit
import ArrayTyping.Text.Identifier
import ArrayTyping.Text.Printable
import ArrayTyping.Text.Quoted
import ArrayTyping.Typing
import ArrayTyping.Value
import ArrayTyping.Value.Equality
import ArrayTyping.Value.Identity
import ArrayTyping.Value.Refresh
import ArrayTyping.Value.Text
import ArrayTyping.View
import ArrayTyping.Proofs.NestedIndexing
import ArrayTyping.Proofs.SourceTerms
import ArrayTyping.Proofs.Procedures
import ArrayTyping.Proofs.WriteOnce
import ArrayTyping.Proofs.Stretching
import ArrayTyping.Proofs.KeyEquality
import ArrayTyping.Proofs.RuleHistory
import ArrayTyping.Proofs.RulePairs
import ArrayTyping.Proofs.KnownShapes
import ArrayTyping.Proofs.Flattening
import ArrayTyping.Proofs.MatrixProducts
import ArrayTyping.Proofs.OperandOrder
import ArrayTyping.Proofs.ProductGrouping
import ArrayTyping.Proofs.Reversals
import ArrayTyping.Proofs.Lockstep
import ArrayTyping.Proofs.Lookalikes
import ArrayTyping.Proofs.Contexts
import ArrayTyping.Proofs.UsageOrder
import ArrayTyping.Proofs.ElementTypes
import ArrayTyping.Proofs.IndexSpaces
import ArrayTyping.Proofs.ScalarOperands
import ArrayTyping.Proofs.ConflictReports
import ArrayTyping.Proofs.Renaming
import ArrayTyping.Proofs.Reading
import ArrayTyping.Proofs.Readability
import ArrayTyping.Proofs.Enumeration
import ArrayTyping.Proofs.Grouping
import ArrayTyping.Proofs.PresentStates
import ArrayTyping.Proofs.Collecting
