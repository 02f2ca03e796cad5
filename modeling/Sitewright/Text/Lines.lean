namespace Sitewright.Text

/-- Line ends as a text file is read: a carriage return, with the line feed after it if there is
one, becomes a line feed. -/
def universalLines : List Char → List Char
  | [] => []
  | '\r' :: '\n' :: rest => '\n' :: universalLines rest
  | '\r' :: rest => '\n' :: universalLines rest
  | c :: rest => c :: universalLines rest

/-- A place in a text, counted from one for people and from zero for programs. -/
structure Position where
  line : Nat
  column : Nat
  offset : Nat
  deriving Repr, DecidableEq

def Position.after (before : List Char) : Position where
  line := before.count '\n' + 1
  column := (before.reverse.takeWhile (· != '\n')).length + 1
  offset := before.length

def Position.message (p : Position) : String :=
  s!"line {p.line} column {p.column} (char {p.offset})"

end Sitewright.Text
