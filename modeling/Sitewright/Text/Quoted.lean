import Sitewright.Text.Codec
import Sitewright.Text.Printable

namespace Sitewright.Text

/-- Single quotes, unless the text has one of those and no double quote. -/
def quoteFor (s : List Char) : Char :=
  if s.contains '\'' && !s.contains '"' then '"' else '\''

/-- A character as it stands between quotes: what does not show is written by its number. -/
def quotedChar (quote c : Char) : List Char :=
  if c = quote ∨ c = '\\' then ['\\', c]
  else if c = '\t' then ['\\', 't']
  else if c = '\n' then ['\\', 'n']
  else if c = '\r' then ['\\', 'r']
  else if isPrintable c then [c]
  else numbered c

def quotedChars (s : List Char) : List Char :=
  quoteFor s :: s.flatMap (quotedChar (quoteFor s)) ++ [quoteFor s]

/-- A text between quotes on one line, as error messages show it. -/
def quoted (s : String) : String := String.ofList (quotedChars s.toList)

end Sitewright.Text
