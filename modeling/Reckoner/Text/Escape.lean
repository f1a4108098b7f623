import Reckoner.Text.CharClass

/-! Text with escapes. Inside XML elements five characters are written as entities, one after the other
over the whole text. The ampersand comes first, so that no entity is escaped again. A reader of XML
puts the characters back in one pass. Between quotes, as messages show characters and strings, there are
escapes for the backslash, the quote, five controls, and every character that has no visible form of
its own. -/

namespace Reckoner.Text

/-- `cs` with every `c` replaced by `entity`. -/
def replaceChar (c : Char) (entity : String) (cs : List Char) : List Char :=
  cs.flatMap fun d => if d = c then entity.toList else [d]

/-- A text without the characters that have a meaning in XML. -/
def escapeXml (text : String) : String :=
  let cs := replaceChar '&' "&amp;" text.toList
  let cs := replaceChar '<' "&lt;" cs
  let cs := replaceChar '>' "&gt;" cs
  let cs := replaceChar '"' "&quot;" cs
  let cs := replaceChar '\'' "&apos;" cs
  String.ofList cs

/-- A character as it stands in XML. -/
def entity : Char → List Char
  | '&' => "&amp;".toList
  | '<' => "&lt;".toList
  | '>' => "&gt;".toList
  | '"' => "&quot;".toList
  | '\'' => "&apos;".toList
  | c => [c]

/-- The characters that entities stand for, in the place of the entities. What is put in is not looked
at again. -/
def resolve : List Char → List Char
  | '&' :: 'a' :: 'm' :: 'p' :: ';' :: cs => '&' :: resolve cs
  | '&' :: 'l' :: 't' :: ';' :: cs => '<' :: resolve cs
  | '&' :: 'g' :: 't' :: ';' :: cs => '>' :: resolve cs
  | '&' :: 'q' :: 'u' :: 'o' :: 't' :: ';' :: cs => '"' :: resolve cs
  | '&' :: 'a' :: 'p' :: 'o' :: 's' :: ';' :: cs => '\'' :: resolve cs
  | c :: cs => c :: resolve cs
  | [] => []

/-- A text of XML as it is read. -/
def unescapeXml (text : String) : String := String.ofList (resolve text.toList)

/-- The lower-case hexadecimal digits of `n`, without leading zeros. -/
def hexDigits (n : Nat) : List Char := Nat.toDigits 16 n

/-- A character inside quotes that are written `quote`. -/
def quotedChar (quote c : Char) : List Char :=
  match c with
  | '\x00' => ['\\', '0']
  | '\t' => ['\\', 't']
  | '\r' => ['\\', 'r']
  | '\n' => ['\\', 'n']
  | '\\' => ['\\', '\\']
  | c =>
    if c = quote then ['\\', c]
    else if unprintable c then ['\\', 'u', '{'] ++ hexDigits c.toNat ++ ['}']
    else [c]

/-- A text between double quotes. -/
def quoted (text : String) : String :=
  String.ofList (['"'] ++ text.toList.flatMap (quotedChar '"') ++ ['"'])

/-- A character between single quotes. -/
def quotedSingle (c : Char) : String :=
  String.ofList (['\''] ++ quotedChar '\'' c ++ ['\''])

end Reckoner.Text
