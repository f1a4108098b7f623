import Reckoner.Document
import Reckoner.Expr.Basic
import Reckoner.Text.Escape
import Reckoner.Token

/-! Tokens and expressions as data: as JSON documents, and as records, which show every field by
name. -/

namespace Reckoner

/-- A record: a name and named fields. -/
def recordText (name : String) (fields : List (String × String)) : String :=
  name ++ " \x7b " ++ ", ".intercalate (fields.map fun (field, value) => field ++ ": " ++ value) ++
    " \x7d"

def Position.record (p : Position) : String :=
  recordText "Position" [("line", toString p.line), ("column", toString p.column)]

def Position.document (p : Position) : Document :=
  .object [("line", .count p.line), ("column", .count p.column)]

def Span.document (s : Span) : Document :=
  .object [("start", .count s.start), ("end", .count s.stop)]

namespace Token

def record (t : Token TokenKind) : String :=
  recordText "Token" [("kind", t.kind.name), ("lexeme", Text.quoted t.lexeme),
    ("span", t.span.text), ("position", t.position.record)]

def document (t : Token TokenKind) : Document :=
  .object [("kind", .text t.kind.name), ("lexeme", .text t.lexeme),
    ("span", t.span.document), ("position", t.position.document)]

end Token

namespace Tokens

/-- Tokens as a list of records. -/
def record (ts : Tokens) : String := "[" ++ ", ".intercalate (ts.map Token.record) ++ "]"

def document (ts : Tokens) : Document := .list (ts.map Token.document)

end Tokens

namespace Expr

def record : Expr → String
  | literal x => recordText "Literal" [("value", Decimal.record.text x)]
  | binary op l r =>
    recordText "Binary" [("op", op.recordName), ("left", l.record), ("right", r.record)]

def document : Expr → Document
  | literal x => .object [("node", .text "literal"), ("value", .number x)]
  | binary op l r =>
    .object [("node", .text "binary"), ("op", .text op.name), ("left", l.document),
      ("right", r.document)]

end Expr

end Reckoner
