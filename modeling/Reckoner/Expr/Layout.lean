import Reckoner.Expr.Basic
import Reckoner.Text.Escape
import Reckoner.Text.Lines

/-! Expressions over several lines: as an outline, as XML text and as YAML text. An outline has a line per
node, each node above its operands, with lines drawn from a node down to its operands. XML text has an
element per node, named for what the node is, which holds the node's label and, after it, the operands
in an element of their own; each level is indented by two more blanks. YAML text has a mapping per node,
and the operands' mappings two blanks deeper. -/

namespace Reckoner.Expr

/-- At most `n` characters of a label, and three points if it has more. -/
def cutLabel (n : Nat) (label : String) : String :=
  if n < label.length then String.ofList (label.toList.take n) ++ "..." else label

/-- The lines of a node. `lead` stands before the node's own line and carries the lines drawn to the
nodes below it; `last` says that no operand of the same operation follows. -/
def outlineLines (maxLabel : Nat) (lead : String) (last : Bool) (e : Expr) : String :=
  let line := lead ++ (if last then "└─" else "├─") ++ " " ++ e.nodeType ++ ": " ++
    cutLabel maxLabel e.label ++ "\n"
  match e with
  | literal _ => line
  | binary _ l r =>
    let lead := lead ++ (if last then "  " else "│ ")
    line ++ l.outlineLines maxLabel lead false ++ r.outlineLines maxLabel lead true

/-- An expression as an outline, its labels cut to `maxLabel` characters. -/
def outline (maxLabel : Nat) (e : Expr) : String := e.outlineLines maxLabel "" true

/-- The lines of a node at the given depth of indentation. -/
def tagLines (indent : Nat) : Expr → String
  | literal x =>
    Text.blanks (2 * indent) ++ "<literal>" ++ Text.escapeXml (literal x).label ++ "</literal>\n"
  | binary op l r =>
    Text.blanks (2 * indent) ++ "<" ++ op.name ++ ">" ++ Text.escapeXml op.symbol.toString ++
      "<children>\n" ++ l.tagLines (indent + 1) ++ r.tagLines (indent + 1) ++
      Text.blanks (2 * indent) ++ "</children></" ++ op.name ++ ">\n"

def tagText (e : Expr) : String := "<expression>\n" ++ e.tagLines 1 ++ "</expression>"

/-- The lines of a node behind `indent` blanks. -/
def yamlLines (indent : Nat) : Expr → String
  | literal x =>
    let lead := Text.blanks indent
    lead ++ "node: literal\n" ++ lead ++ "value: " ++ Decimal.yaml.text x ++ "\n"
  | binary op l r =>
    let lead := Text.blanks indent
    lead ++ "node: binary\n" ++ lead ++ "op: " ++ op.name ++ "\n" ++
      lead ++ "left:\n" ++ l.yamlLines (indent + 2) ++ lead ++ "right:\n" ++ r.yamlLines (indent + 2)

def yaml (e : Expr) : String := e.yamlLines 0

end Reckoner.Expr
