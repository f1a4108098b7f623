import Reckoner.Expr.Layout
import Reckoner.Expr.OfText
import Reckoner.Files.Basic
import Reckoner.Record
import Reckoner.Report.Spec

/-! Reports on a text: its tokens, its expression, or its value, in one of the formats of the
stage. A text that is no expression is an error before a format that the stage does not have. -/

namespace Reckoner

/-- Why there is no report. -/
inductive ReportError where
  | spec (e : SpecError)
  | syntactic (e : SyntaxError)
  | unreadable (path : String) (reason : FileError)
  deriving DecidableEq

def ReportError.message : ReportError → String
  | spec e => e.message
  | syntactic e => e.message
  | unreadable path reason => "IO error: " ++ path ++ ": " ++ reason.message

namespace Report

/-- A document as the settings want it. -/
def json (settings : Settings) (d : Document) : String :=
  if settings.prettyJson then d.pretty else d.compact

def ofTokens (settings : Settings) (ts : Tokens) : Format → Except SpecError String
  | .simple | .rawSimple => .ok (String.join (ts.map Token.tagText))
  | .json | .rawJson => .ok (json settings ts.document)
  | format => .error (.incompatible .token format)

def ofExpr (settings : Settings) (e : Expr) : Format → Except SpecError String
  | .simple => .ok e.text
  | .json => .ok (json settings e.document)
  | .yaml => .ok e.yaml
  | .tag => .ok e.tagText
  | .treeviz => .ok (e.outline settings.maxLabelChars)
  | format => .error (.incompatible .ast format)

def ofValue (settings : Settings) (e : Expr) : Format → Except SpecError String
  | .simple => .ok (Decimal.plain.text e.eval)
  | .json => .ok (json settings (.object [("expression", .text e.text), ("value", .number e.eval)]))
  | format => .error (.incompatible .eval format)

def traceText (settings : Settings) (spec : Spec) (text : String) :
    Traced (Except ReportError String) :=
  .report (.processing text.utf8ByteSize spec) <|
    match spec.stage with
    | .token => (Tokens.traceText spec.format.isRaw text).map fun
      | .error e => .error (.syntactic (.lexical e))
      | .ok ts => (ofTokens settings ts spec.format).mapError .spec
    | .ast => (Expr.traceText text).map fun
      | .error e => .error (.syntactic e)
      | .ok e => (ofExpr settings e spec.format).mapError .spec
    | .eval => (Expr.traceText text).map fun
      | .error e => .error (.syntactic e)
      | .ok e => (ofValue settings e spec.format).mapError .spec

def ofText (settings : Settings) (spec : Spec) (text : String) : Except ReportError String :=
  (traceText settings spec text).value

def traceFile (files : Files) (settings : Settings) (spec : Spec) (path : String) :
    Traced (Except ReportError String) :=
  match files.readText path with
  | .error e => .pure (.error (.unreadable path e))
  | .ok text => traceText settings spec text

def ofFile (files : Files) (settings : Settings) (spec : Spec) (path : String) :
    Except ReportError String :=
  (traceFile files settings spec path).value

end Report

end Reckoner
