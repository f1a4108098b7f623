import Reckoner.Toml.Value

/-! The parts of TOML text below the structure of a document: blanks, comments, strings, keys,
numbers and truth values. -/

namespace Reckoner.Toml

/-- A space or a tabulator. -/
def isBlank (c : Char) : Bool := c = ' ' || c = '\t'

/-- The text after spaces and tabulators. -/
def skipBlanks (cs : List Char) : List Char := cs.dropWhile isBlank

/-- Whether a character may stand in a comment or a string: any but the controls, of which the
tabulator is allowed. -/
def isPlain (c : Char) : Bool := c = '\t' || (0x20 ≤ c.toNat && c.toNat ≠ 0x7f)

/-- Whether the text begins with a line break: a line feed, or a carriage return and a line feed. -/
def atNewline : List Char → Bool
  | '\n' :: _ => true
  | '\r' :: '\n' :: _ => true
  | _ => false

/-- The text after blanks, line breaks and comments. A control character in a comment is an
error. -/
def skipLines (inComment : Bool) : List Char → Option (List Char)
  | [] => some []
  | c :: cs =>
    if c = '\n' then skipLines false cs
    else if c = '\r' && cs.head? = some '\n' then skipLines inComment cs
    else if inComment then if isPlain c then skipLines true cs else none
    else if isBlank c then skipLines false cs
    else if c = '#' then skipLines true cs
    else some (c :: cs)

/-- The text from the next line on, when the rest of this line holds at most blanks and a
comment. -/
def endLine (cs : List Char) : Option (List Char) :=
  let cs := skipBlanks cs
  let cs := if cs.head? = some '#' then cs.dropWhile isPlain else cs
  match cs with
  | [] => some []
  | '\n' :: cs => some cs
  | '\r' :: '\n' :: cs => some cs
  | _ => none

def hexValue? (c : Char) : Option Nat :=
  if c.isDigit then some (c.toNat - '0'.toNat)
  else if 'a' ≤ c && c ≤ 'f' then some (c.toNat - 'a'.toNat + 10)
  else if 'A' ≤ c && c ≤ 'F' then some (c.toNat - 'A'.toNat + 10)
  else none

/-- The character whose code point the hexadecimal digits write. -/
def charOfHex (ds : List Char) : Option Char := do
  let n ← ds.foldlM (fun n d => (hexValue? d).map (16 * n + ·)) 0
  if n.isValidChar then some (Char.ofNat n) else none

/-- The character that a letter after a backslash stands for. -/
def escapedChar : Char → Option Char
  | 'b' => some '\x08'
  | 't' => some '\t'
  | 'n' => some '\n'
  | 'f' => some '\x0c'
  | 'r' => some '\r'
  | '"' => some '"'
  | '\\' => some '\\'
  | _ => none

/-- A character in front of what a reader of characters took. -/
def push (c : Char) (r : Option (List Char × List Char)) : Option (List Char × List Char) :=
  r.map fun (taken, rest) => (c :: taken, rest)

/-- The rest after the three quotes that end a string on several lines. Up to two quotes more belong
to the string. -/
def closeLong (quote : Char) (cs : List Char) : Option (List Char × List Char) :=
  let run := (cs.takeWhile (· = quote)).length
  if 3 ≤ run then some (List.replicate (min run 5 - 3) quote, cs.drop (min run 5)) else none

/-- The inside of a basic string after its opening quotes. On several lines, a backslash at the end
of a line takes away the blanks and line breaks that follow; `skipping` says that they are being
taken away. -/
def basicBody (long skipping : Bool) : Reader (List Char)
  | [] => none
  | '\\' :: 'u' :: a :: b :: c :: d :: cs =>
    (charOfHex [a, b, c, d]).bind fun x => push x (basicBody long false cs)
  | '\\' :: 'U' :: a :: b :: c :: d :: e :: f :: g :: h :: cs =>
    (charOfHex [a, b, c, d, e, f, g, h]).bind fun x => push x (basicBody long false cs)
  | '\\' :: e :: cs =>
    match escapedChar e with
    | some x => push x (basicBody long false cs)
    | none =>
      if long && atNewline (skipBlanks (e :: cs)) then basicBody long true (e :: cs) else none
  | c :: cs =>
    if c = '"' then
      if long then (closeLong '"' (c :: cs)).orElse fun _ => push c (basicBody long false cs)
      else some ([], cs)
    else if long && c = '\n' then
      if skipping then basicBody long true cs else push c (basicBody long false cs)
    else if long && c = '\r' && cs.head? = some '\n' then basicBody long skipping cs
    else if skipping && isBlank c then basicBody long true cs
    else if isPlain c && c ≠ '\\' then push c (basicBody long false cs)
    else none

/-- The inside of a literal string after its opening quotes. -/
def literalBody (long : Bool) : Reader (List Char)
  | [] => none
  | c :: cs =>
    if c = '\'' then
      if long then (closeLong '\'' (c :: cs)).orElse fun _ => push c (literalBody long cs)
      else some ([], cs)
    else if long && c = '\n' then push c (literalBody long cs)
    else if long && c = '\r' && cs.head? = some '\n' then literalBody long cs
    else if isPlain c then push c (literalBody long cs)
    else none

/-- The text after a line break right behind the opening quotes of a string on several lines. -/
def dropNewline : List Char → List Char
  | '\n' :: cs => cs
  | '\r' :: '\n' :: cs => cs
  | cs => cs

def shortString : Reader String
  | '"' :: cs => (basicBody false false cs).map fun (s, rest) => (String.ofList s, rest)
  | '\'' :: cs => (literalBody false cs).map fun (s, rest) => (String.ofList s, rest)
  | _ => none

def string : Reader String
  | '"' :: '"' :: '"' :: cs =>
    (basicBody true false (dropNewline cs)).map fun (s, rest) => (String.ofList s, rest)
  | '\'' :: '\'' :: '\'' :: cs =>
    (literalBody true (dropNewline cs)).map fun (s, rest) => (String.ofList s, rest)
  | cs => shortString cs

/-- Whether a character may stand in a key without quotes. -/
def isBareKey (c : Char) : Bool := c.isAlphanum || c = '_' || c = '-'

/-- One part of a key. -/
def simpleKey (cs : List Char) : Option (String × List Char) :=
  match cs with
  | [] => none
  | c :: _ =>
    if c = '"' || c = '\'' then shortString cs
    else
      let (word, rest) := cs.span isBareKey
      if word.isEmpty then none else some (String.ofList word, rest)

/-- How deep values may be nested, and how many parts a key may have. -/
def depthLimit : Nat := 79

/-- A key of at most `n` parts with points and blanks between them. -/
def keyParts : (n : Nat) → Reader (List String)
  | 0, _ => none
  | n + 1, cs => do
    let (part, rest) ← simpleKey (skipBlanks cs)
    match skipBlanks rest with
    | '.' :: rest =>
      let (parts, rest) ← keyParts n rest
      return (part :: parts, rest)
    | rest => return ([part], rest)

/-- A key and the text after the blanks behind it. -/
def key (cs : List Char) : Option (List String × List Char) := keyParts depthLimit cs

/-- Whether a character may stand in a number or a truth value. -/
def isWordChar (c : Char) : Bool := c.isAlphanum || c = '_' || c = '+' || c = '-' || c = '.'

/-- Digits without the underscores among them. An underscore has a digit on both sides. -/
def digits (isDigit : Char → Bool) : List Char → Option (List Char)
  | [] => none
  | [d] => if isDigit d then some [d] else none
  | d :: '_' :: ds => if isDigit d then (digits isDigit ds).map (d :: ·) else none
  | d :: ds => if isDigit d then (digits isDigit ds).map (d :: ·) else none

/-- A number in a base that its prefix names. -/
def prefixed (base : Nat) (ds : List Char) : Option Nat := do
  let valid (c : Char) : Bool := (hexValue? c).any (· < base)
  let ds ← digits valid ds
  ds.foldlM (fun n d => (hexValue? d).map (base * n + ·)) 0

/-- Decimal digits without a leading zero. -/
def decimalDigits (ds : List Char) : Option (List Char) :=
  (digits Char.isDigit ds).bind fun ds =>
    if ds.head? = some '0' && ds.length ≠ 1 then none else some ds

/-- An integer that fits into 64 bits with a sign. -/
def inRange (n : Int) : Option Value :=
  if Int64.minValue.toInt ≤ n && n ≤ Int64.maxValue.toInt then some (.integer n) else none

def integer (word : List Char) : Option Value :=
  match word with
  | '0' :: 'x' :: ds => (prefixed 16 ds).bind fun n => inRange n
  | '0' :: 'o' :: ds => (prefixed 8 ds).bind fun n => inRange n
  | '0' :: 'b' :: ds => (prefixed 2 ds).bind fun n => inRange n
  | word =>
    let (negative, ds) := Decimal.readSign word
    (decimalDigits ds).bind fun ds =>
      let n : Int := Decimal.digitsValue ds
      inRange (if negative then -n else n)

/-- A number with a fraction or an exponent. What is too large is an error. -/
def float (word : List Char) : Option Value := do
  let (negative, body) := Decimal.readSign word
  if body = "inf".toList || body = "nan".toList then
    return .float (← Decimal.readChars word)
  let (whole, rest) := body.span fun c => c.isDigit || c = '_'
  let whole ← decimalDigits whole
  let (fraction, rest) ← match rest with
    | '.' :: rest =>
      let (ds, rest) := rest.span fun c => c.isDigit || c = '_'
      (digits Char.isDigit ds).map fun ds => ('.' :: ds, rest)
    | rest => some ([], rest)
  let exponent ← match rest with
    | [] => if fraction.isEmpty then none else some []
    | e :: rest =>
      if e = 'e' || e = 'E' then
        let (negative, ds) := Decimal.readSign rest
        (digits Char.isDigit ds).map fun ds => 'e' :: (if negative then '-' :: ds else ds)
      else none
  let sign := if negative then ['-'] else []
  let x ← Decimal.readChars (sign ++ whole ++ fraction ++ exponent)
  if x == Decimal.ofMagnitude false Decimal.infinityBits then none else return .float x

/-- A number or a truth value. -/
def word (cs : List Char) : Option (Value × List Char) := do
  let (word, rest) := cs.span isWordChar
  if word = "true".toList then return (.bool true, rest)
  if word = "false".toList then return (.bool false, rest)
  let v ← (integer word).orElse fun _ => float word
  return (v, rest)

end Reckoner.Toml
