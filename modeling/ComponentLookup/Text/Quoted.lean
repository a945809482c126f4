import ComponentLookup.Json.Writer
import ComponentLookup.Text.Printable

/-!
# Quoted text

A text inside a message stands between single quotes, or between double quotes if it holds single
quotes and no double ones.  The quote in use, the backslash and the characters that are not
printable are escaped; all other characters stand for themselves.
-/

namespace ComponentLookup.Text

/-- The quote that encloses a text. -/
def quoteFor (s : List Char) : Char :=
  if s.contains '\'' && !s.contains '"' then '"' else '\''

/-- A character between the given quotes. -/
def escapeChar (quote c : Char) : List Char :=
  if c = quote ∨ c = '\\' then ['\\', c]
  else if c = '\n' then ['\\', 'n']
  else if c = '\r' then ['\\', 'r']
  else if c = '\t' then ['\\', 't']
  else if isPrintable c then [c]
  else if c.toNat < 0x100 then '\\' :: 'x' :: Json.hexChars 2 c.toNat
  else if c.toNat < 0x10000 then '\\' :: 'u' :: Json.hexChars 4 c.toNat
  else '\\' :: 'U' :: Json.hexChars 8 c.toNat

/-- The text between quotes. -/
def quote (s : String) : String :=
  let cs := s.toList
  let q := quoteFor cs
  String.ofList (q :: (cs.flatMap (escapeChar q) ++ [q]))

end ComponentLookup.Text
