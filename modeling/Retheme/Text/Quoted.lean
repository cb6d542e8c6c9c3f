import Retheme.Text.Printable
import Retheme.Text.Hex

/-!
# Quoted text

A text shown inside a message: in single quotes, or in double quotes when it
holds a single quote and no double quote. The quote and the backslash are
escaped, and so is every character that does not print.
-/

namespace Retheme.Text

def quoteFor (text : Text) : Char :=
  if text.contains '\'' && !text.contains '"' then '"' else '\''

/-- A character inside quotes: the quote and the backslash after a backslash, unprintable
characters by their code points in two, four or eight hexadecimal digits. -/
def quotedChar (quote c : Char) : Text :=
  if c = quote || c = '\\' then ['\\', c]
  else if c = '\n' then ['\\', 'n']
  else if c = '\r' then ['\\', 'r']
  else if c = '\t' then ['\\', 't']
  else if isPrintable c then [c]
  else if c.toNat < 0x100 then '\\' :: 'x' :: hexDigits 2 c.toNat
  else if c.toNat < 0x10000 then '\\' :: 'u' :: hexDigits 4 c.toNat
  else '\\' :: 'U' :: hexDigits 8 c.toNat

def quoted (text : Text) : Text :=
  let quote := quoteFor text
  quote :: text.flatMap (quotedChar quote) ++ [quote]

end Retheme.Text
