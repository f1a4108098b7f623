import Reckoner.Expr.Basic
import Reckoner.Lexer.Lexeme

/-! Flat chains: elements with an operation between each two, and no parentheses. A chain is cut at
every addition and subtraction. The elements of each group are taken together from the right, and
then the values of the groups, so `a - b * c / d - e` is `a - (b * (c / d) - e)`. -/

namespace Reckoner

def BinaryOp.isAdditive : BinaryOp → Bool
  | add | sub => true
  | mul | div => false

inductive Chain (α : Type) where
  | last (a : α)
  | link (a : α) (op : BinaryOp) (more : Chain α)
  deriving DecidableEq

namespace Chain

variable {α β : Type}

def map (f : α → β) : Chain α → Chain β
  | last a => last (f a)
  | link a op more => link (f a) op (more.map f)

def elements : Chain α → List α
  | last a => [a]
  | link a _ more => a :: more.elements

def operations : Chain α → List BinaryOp
  | last _ => []
  | link _ op more => op :: more.operations

/-- Takes the elements together from the right, as in `a op (b op (c op d))`. -/
def foldRight (f : BinaryOp → α → α → α) : Chain α → α
  | last a => a
  | link a op more => f op a (more.foldRight f)

/-- The second chain after the first, with an operation between them. -/
def append : Chain α → BinaryOp → Chain α → Chain α
  | last a, op, d => link a op d
  | link a op' more, op, d => link a op' (more.append op d)

/-- The chain that is made up of groups. -/
def join : Chain (Chain α) → Chain α
  | last group => group
  | link group op more => group.append op more.join

/-- Puts an element at the beginning of the first group. -/
def extendFirst (a : α) (op : BinaryOp) : Chain (Chain α) → Chain (Chain α)
  | last group => last (link a op group)
  | link group op' more => link (link a op group) op' more

/-- The groups between additions and subtractions. -/
def cut : Chain α → Chain (Chain α)
  | last a => last (last a)
  | link a op more => if op.isAdditive then link (last a) op more.cut else more.cut.extendFirst a op

def value (c : Chain Float) : Float :=
  (c.cut.map fun group => group.foldRight BinaryOp.eval).foldRight BinaryOp.eval

end Chain

/-- The text of a number of arithmetic, with any blanks around it. -/
structure PaddedNumber where
  before : String
  number : String
  after : String
  before_blank : ∀ c ∈ before.toList, IsBlank c
  isNumber : IsNumber number.toList
  after_blank : ∀ c ∈ after.toList, IsBlank c

def PaddedNumber.text (p : PaddedNumber) : String := p.before ++ p.number ++ p.after

def Chain.text : Chain PaddedNumber → String
  | last p => p.text
  | link p op more => p.text ++ op.symbol.toString ++ more.text

end Reckoner
