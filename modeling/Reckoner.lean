import Reckoner.Assertion
import Reckoner.Assertion.Script
import Reckoner.Main
import Reckoner.Proofs.Automaton.Simulation
import Reckoner.Proofs.Expr.Viability
import Reckoner.Proofs.Lexer.Direct
import Reckoner.Proofs.Lexer.History
import Reckoner.Proofs.Lexer.Segmentation
import Reckoner.Proofs.Expr.Blanks
import Reckoner.Proofs.Decimal.Plain
import Reckoner.Proofs.Expr.Printed
import Reckoner.Proofs.Text.Excerpt
import Reckoner.Proofs.Expr.ErrorKinds
import Reckoner.Proofs.Report.Failure
import Reckoner.Proofs.Expr.ErrorIndex
import Reckoner.Proofs.Expr.Root
import Reckoner.Proofs.Lexer.Tiling
import Reckoner.Proofs.Expr.Walk
import Reckoner.Proofs.Expr.Chain
import Reckoner.Proofs.Lexer.LaidOut
import Reckoner.Proofs.Text.Bytes
import Reckoner.Proofs.Expr.Caret
import Reckoner.Proofs.Lexer.Live
import Reckoner.Proofs.Lexer.Priority
import Reckoner.Proofs.Expr.Trace
import Reckoner.Proofs.Automaton.Invariant
import Reckoner.Automaton.Addition
import Reckoner.Proofs.Expr.PrintedTree
import Reckoner.Proofs.Expr.Tag
import Reckoner.Proofs.Automaton.Additions
import Reckoner.Proofs.Report.Spec
import Reckoner.Proofs.Assertion.Script
import Reckoner.Proofs.Report.Tokens
import Reckoner.Proofs.Assertion.Value
import Reckoner.Proofs.Expr.Calls
