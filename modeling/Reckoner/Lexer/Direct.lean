import Reckoner.Token

/-! A scanner of arithmetic that knows no automata: the next characters decide. It passes over a run of
blanks, takes one operator or parenthesis, or takes digits, a point, and the digits after it. Where
none of these stands it fails at once. -/

namespace Reckoner.Direct

def isBlank (c : Char) : Bool := c = ' ' || c = '\n' || c = '\r' || c = '\t'

/-- The kind of an operator or a parenthesis. -/
def symbol? : Char → Option TokenKind
  | '+' => some .plus
  | '-' => some .minus
  | '*' => some .times
  | '/' => some .div
  | '(' => some .lparen
  | ')' => some .rparen
  | _ => none

/-- Any digits, a point, and all the digits after it, of which there must be one. -/
def number? (cs : List Char) : Option (List Char) :=
  match cs.dropWhile Char.isDigit with
  | '.' :: rest =>
    let fraction := rest.takeWhile Char.isDigit
    if fraction.isEmpty then none else some (cs.takeWhile Char.isDigit ++ '.' :: fraction)
  | _ => none

/-- The kinds, lexemes and spans of the tokens of `cs`, which begins at `offset`; or a character at
which no token begins, and its offset. -/
def scan (offset : Nat) : List Char → Except (Char × Nat) (List (TokenKind × String × Span))
  | [] => .ok []
  | c :: cs =>
    if isBlank c then
      scan (offset + Text.byteLength (c :: cs.takeWhile isBlank)) (cs.dropWhile isBlank)
    else
      match symbol? c with
      | some kind =>
        let stop := offset + c.utf8Size
        (scan stop cs).map ((kind, c.toString, ⟨offset, stop⟩) :: ·)
      | none =>
        match number? (c :: cs) with
        | some word =>
          let stop := offset + Text.byteLength word
          (scan stop (cs.drop (word.length - 1))).map
            ((.num, String.ofList word, ⟨offset, stop⟩) :: ·)
        | none => .error (c, offset)
termination_by cs => cs.length
decreasing_by
  · exact Nat.lt_succ_of_le (List.dropWhile_sublist _).length_le
  · exact Nat.lt_succ_self _
  · simp only [List.length_drop, List.length_cons]; omega

end Reckoner.Direct
