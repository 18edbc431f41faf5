import ArrayTyping.Value
/-!
# Expr — the expressions of a script

A script is a list of steps.  Each evaluates one expression and may bind its result to a name, or the items of its
result to several names.
-/
namespace ArrayTyping.Script

inductive ScalarItem where
  | bool (b : Bool)
  | int (n : Int)
  | text (s : String)

inductive Expr where
  | none
  | bool (b : Bool)
  | int (n : Int)
  | text (s : String)
  | list (items : List Expr)
  | tuple (items : List Expr)
  | var (name : String)
  | call (procedure : String) (args : List Expr) (keywords : List (String × Expr))
  | float (text : String)
  | complex (re im : String)
  | scalar (dtype : String) (item : ScalarItem)
  | range (bounds : List Int)
  | slice (parts : List Expr)
  | unknown
  | function (name : String)
  | kind (label : String)
  | dtype (name : String)
  | code (label : String)
  | zeros (dims : List Int) (dtype : String)
  | lazyArray (dims : List (Option Int)) (dtype : String)
  | object
  | dict (entries : List (Expr × Expr))
  | thunk (body : Expr)
  | rule (name : String)
  | answer (label : String) (value : Expr)
  | reader (label : String) (r : Reader)

inductive Target where
  | discard
  | name (s : String)
  | names (ss : List String)

structure Step where
  expr : Expr
  target : Target

mutual

/-- The number of thunks written in an expression. -/
def Expr.thunkCount : Expr → Nat
  | .list items => thunkCountAll items
  | .tuple items => thunkCountAll items
  | .call _ args keywords => thunkCountAll args + thunkCountKeywords keywords
  | .slice parts => thunkCountAll parts
  | .dict entries => thunkCountEntries entries
  | .thunk body => body.thunkCount + 1
  | .answer _ value => value.thunkCount
  | _ => 0
termination_by structural e => e

def thunkCountAll : List Expr → Nat
  | [] => 0
  | e :: es => e.thunkCount + thunkCountAll es
termination_by structural es => es

def thunkCountKeywords : List (String × Expr) → Nat
  | [] => 0
  | (_, e) :: es => e.thunkCount + thunkCountKeywords es
termination_by structural es => es

def thunkCountEntries : List (Expr × Expr) → Nat
  | [] => 0
  | (k, e) :: es => k.thunkCount + e.thunkCount + thunkCountEntries es
termination_by structural es => es

end

end ArrayTyping.Script
