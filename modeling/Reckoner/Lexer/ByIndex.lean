import Reckoner.Lexer.Basic

/-! The pass over a text by numbers: the number of the next character, the number of the pattern that
wins, the offsets at which a lexeme begins and ends, and the number of a line among the beginnings
of lines. Each look-up is tested. If any of them is out of range the pass gives no result at all. -/

namespace Reckoner

namespace Text

/-- The characters of `cs`, which begins at `offset`, each with its offset. -/
def charIndices (offset : Nat) : List Char → List (Nat × Char)
  | [] => []
  | c :: cs => (offset, c) :: charIndices (offset + c.utf8Size) cs

/-- The part of a text from one offset to another. Both are boundaries of characters, in order; for
other offsets there is no part. -/
def slice? (text : String) (start stop : Nat) : Option String := do
  let p ← text.pos? ⟨start⟩
  let q ← text.pos? ⟨stop⟩
  let slice ← text.slice? p q
  return slice.copy

/-- The number of a value in an ascending list, or the number at which it could be inserted. -/
def search (value : Nat) : List Nat → Except Nat Nat
  | [] => .error 0
  | x :: xs =>
    if x < value then
      match search value xs with
      | .ok i => .ok (i + 1)
      | .error i => .error (i + 1)
    else if x = value then .ok 0 else .error 0

/-- The position of an offset, by a search among the offsets at which the lines begin: the line that
begins there, or else the one before the place found. -/
def lookup? (starts : List Nat) (offset : Nat) : Option Position := do
  let line ← match search offset starts with
    | .ok i => some i
    | .error 0 => none
    | .error (i + 1) => some i
  let start ← starts[line]?
  if start ≤ offset then some ⟨line, offset - start⟩ else none

end Text

namespace Lexer.ByIndex

variable {κ : Type}

/-- The number of a runner and the length at which it accepted. -/
structure Best where
  number : Nat
  length : Nat
  length_pos : 0 < length

/-- The better of a runner and the best one before it, which is kept if the lengths are equal. -/
def Best.step (best : Option Best) (numbered : Runner κ × Nat) : Option Best :=
  if h : (best.elim 0 Best.length) < numbered.1.longest then
    some ⟨numbered.2, numbered.1.longest, Nat.zero_lt_of_lt h⟩
  else best

/-- The best of the runners, if one has accepted. -/
def best (runners : List (Runner κ)) : Option Best := runners.zipIdx.foldl Best.step none

/-- The pass over `text`, whose characters are `chars` and whose lines begin at `starts`, from the
character with the number `pos` on. -/
def scan (text : String) (chars : List (Nat × Char)) (starts : List Nat)
    (patterns : List (Pattern κ)) (pos : Nat) : Option (Scan κ) :=
  if pos < chars.length then do
    let (start, c) ← chars[pos]?
    let runners := attempt patterns ((chars.drop pos).map Prod.snd)
    let after := runners.map Runner.pattern
    let position ← Text.lookup? starts start
    match best runners with
    | none => return ⟨after, [], some ⟨c, start, position⟩⟩
    | some ⟨number, length, _⟩ =>
      let stop := (chars[pos + length]?).elim text.utf8ByteSize Prod.fst
      let pattern ← after[number]?
      let lexeme ← Text.slice? text start stop
      let rest ← scan text chars starts after (pos + length)
      return { rest with
        found := (⟨pattern.kind, lexeme, ⟨start, stop⟩, position⟩, pattern.ignorable) :: rest.found }
  else return ⟨patterns, [], none⟩
termination_by chars.length - pos

def scanText (lexer : Lexer κ) (text : String) : Option (Scan κ) :=
  scan text (Text.charIndices 0 text.toList) (0 :: Text.lineStarts 0 text.toList) lexer.patterns 0

end Lexer.ByIndex

end Reckoner
