import Reckoner.Decimal.Style

/-! Arithmetic expressions as trees, their values, their measures, and their printed form, which
puts parentheses around every operation. The same trees with labels in the place of the numbers, such as
the texts of the numbers. -/

namespace Reckoner

inductive BinaryOp where
  | add
  | sub
  | mul
  | div
  deriving DecidableEq

namespace BinaryOp

def symbol : BinaryOp → Char
  | add => '+'
  | sub => '-'
  | mul => '*'
  | div => '/'

def name : BinaryOp → String
  | add => "add"
  | sub => "sub"
  | mul => "mul"
  | div => "div"

/-- The name of the operation in a record. -/
def recordName : BinaryOp → String
  | add => "Add"
  | sub => "Sub"
  | mul => "Mul"
  | div => "Div"

def all : List BinaryOp := [add, sub, mul, div]

def ofName? (s : String) : Option BinaryOp := all.find? fun op => op.name = s

/-- The operation on two doubles; a division by zero has an infinite value or none. -/
def eval : BinaryOp → Float → Float → Float
  | add, x, y => x + y
  | sub, x, y => x - y
  | mul, x, y => x * y
  | div, x, y => x / y

end BinaryOp

/-- An arithmetic expression. Its equality `==` compares literals as doubles compare, so that a
literal that is not a number differs from itself and the two zeros are equal. -/
inductive Expr where
  | literal (value : Float)
  | binary (op : BinaryOp) (left right : Expr)
  deriving BEq, Inhabited

namespace Expr

def eval : Expr → Float
  | literal x => x
  | binary op l r => op.eval l.eval r.eval

/-- The number of operations above the deepest literal. -/
def depth : Expr → Nat
  | literal _ => 0
  | binary _ l r => 1 + max l.depth r.depth

/-- The number of literals and operations. -/
def nodeCount : Expr → Nat
  | literal _ => 1
  | binary _ l r => 1 + l.nodeCount + r.nodeCount

/-- The printed form. -/
def text : Expr → String
  | literal x => Decimal.plain.text x
  | binary op l r => "(" ++ l.text ++ " " ++ op.symbol.toString ++ " " ++ r.text ++ ")"

/-- What a node is: a literal, or the name of its operation. -/
def nodeType : Expr → String
  | literal _ => "literal"
  | binary op _ _ => op.name

/-- What a node shows: its number or the sign of its operation. -/
def label : Expr → String
  | literal x => Decimal.plain.text x
  | binary op _ _ => op.symbol.toString

/-- The operands of a node, from left to right. -/
def children : Expr → List Expr
  | literal _ => []
  | binary _ l r => [l, r]

end Expr

/-- A tree of operations with a label at each end. -/
inductive Labelled (α : Type) where
  | literal (label : α)
  | binary (op : BinaryOp) (left right : Labelled α)
  deriving DecidableEq

/-- The expression with a label for each literal. Two expressions are the same in this form if they
have the same shape, the same operations, and literals with the same labels. -/
def Expr.labelled {α : Type} (label : Float → α) : Expr → Labelled α
  | literal x => .literal (label x)
  | binary op l r => .binary op (l.labelled label) (r.labelled label)

end Reckoner
