import Reckoner.Expr.Basic
import Reckoner.Text.Escape

/-! Assertions about an expression, checked one after the other from its root. An assertion about an
operand is a list of assertions with that operand as root. The first that fails gives the message,
which names the place by the way from the root. -/

namespace Reckoner

inductive Side where
  | left
  | right
  deriving DecidableEq

def Side.name : Side → String
  | left => "left"
  | right => "right"

/-- What is asserted of a node. -/
inductive Assertion where
  /-- It is a literal that equals the number. -/
  | literal (value : Float)
  /-- It is the operation. -/
  | binary (op : BinaryOp)
  /-- Its printed form is the text. -/
  | prints (text : String)
  /-- Its value is less than `1e-9` away from the number. -/
  | evaluatesTo (value : Float)
  /-- The assertions hold of an operand. -/
  | operand (side : Side) (assertions : List Assertion)

namespace Assertion

/-- The distance from which on two values count as different. -/
def tolerance : Float := 1e-9

/-- The message for two things that are not equal: a message about them, then the two. -/
def unequal (message found expected : String) : String :=
  "assertion `left == right` failed: " ++ message ++ "\n  left: " ++ found ++ "\n right: " ++ expected

/-- Checks that `e` is a literal that equals `x`. -/
def checkLiteral (place : String) (e : Expr) (x : Float) : Except String Unit :=
  let expected := Decimal.plain.text x
  match e with
  | .literal y =>
    if y == x then .ok ()
    else
      .error (unequal
        (place ++ ": Expected literal " ++ expected ++ ", found literal " ++ Decimal.plain.text y)
        (Decimal.record.text y) (Decimal.record.text x))
  | .binary .. =>
    .error (place ++ ": Expected literal " ++ expected ++ ", found " ++ e.nodeType ++ " " ++ e.text)

/-- Checks that `e` is the operation `op`. -/
def checkBinary (place : String) (e : Expr) (op : BinaryOp) : Except String Unit :=
  match e with
  | .binary found _ _ =>
    if found = op then .ok ()
    else
      .error (unequal
        (place ++ ": Expected " ++ op.name ++ " node, found " ++ found.name ++ " node " ++ e.text)
        found.recordName op.recordName)
  | .literal x =>
    .error (place ++ ": Expected " ++ op.name ++ " node, found literal " ++ Decimal.plain.text x)

/-- Checks that `e` prints as `text`. -/
def checkText (place : String) (e : Expr) (text : String) : Except String Unit :=
  if e.text = text then .ok ()
  else .error (unequal (place ++ ": printed form differs") (Text.quoted e.text) (Text.quoted text))

/-- Checks that the value of `e` is close to `x`. -/
def checkValue (place : String) (e : Expr) (x : Float) : Except String Unit :=
  if (e.eval - x).abs < tolerance then .ok ()
  else
    .error (place ++ ": Expected " ++ e.text ++ " to evaluate to " ++ Decimal.plain.text x ++
      ", got " ++ Decimal.plain.text e.eval)

/-- An operand of `e`. -/
def operandOf (place : String) (e : Expr) (side : Side) : Except String Expr :=
  match e, side with
  | .binary _ l _, .left => .ok l
  | .binary _ _ r, .right => .ok r
  | .literal x, side =>
    .error (place ++ ": Expected a binary node with a " ++ side.name ++
      " operand, found literal " ++ Decimal.plain.text x)

mutual

/-- Checks an assertion about `e`, which is found at `place`. -/
def check (place : String) (e : Expr) : Assertion → Except String Unit
  | literal x => checkLiteral place e x
  | binary op => checkBinary place e op
  | prints text => checkText place e text
  | evaluatesTo x => checkValue place e x
  | operand side assertions =>
    match operandOf place e side with
    | .error message => .error message
    | .ok child => checkAll (place ++ "." ++ side.name) child assertions

/-- Checks assertions about `e`, which is found at `place`, up to the first that fails. -/
def checkAll (place : String) (e : Expr) : List Assertion → Except String Unit
  | [] => .ok ()
  | a :: as =>
    match check place e a with
    | .error message => .error message
    | .ok () => checkAll place e as

end

/-- Checks assertions about an expression. -/
def checkRoot (e : Expr) (assertions : List Assertion) : Except String Unit :=
  checkAll "root" e assertions

end Assertion

end Reckoner
