import MerkleLog.Text.Printable

/-!
# Quoted texts

A text is shown in single quotes, or in double quotes if it holds single quotes and no double ones.
Within quotes a backslash, the quote itself and all that is not printable are escaped.
-/

namespace MerkleLog.Text

/-- The last hexadecimal digits of a number, most significant first. -/
def hexDigits : Nat → Nat → List Char
  | 0, _ => []
  | count + 1, n => hexDigits count (n / 16) ++ [Nat.digitChar (n % 16)]

/-- A character by its code point, in two, four or eight hexadecimal digits. -/
def escapedByCode (c : Char) : List Char :=
  let n := c.toNat
  if n < 0x100 then '\\' :: 'x' :: hexDigits 2 n
  else if n < 0x10000 then '\\' :: 'u' :: hexDigits 4 n
  else '\\' :: 'U' :: hexDigits 8 n

/-- A character within quotes.  With `ascii` every character beyond ASCII is escaped. -/
def quotedChar (ascii : Bool) (quote c : Char) : List Char :=
  if c = quote || c = '\\' then ['\\', c]
  else if c = '\t' then ['\\', 't']
  else if c = '\n' then ['\\', 'n']
  else if c = '\r' then ['\\', 'r']
  else if !isPrintable c || (ascii && 128 ≤ c.toNat) then escapedByCode c
  else [c]

/-- The quote in which a text is shown. -/
def quoteFor (cs : List Char) : Char :=
  if cs.contains '\'' && !cs.contains '"' then '"' else '\''

/-- A text in quotes. -/
def inQuotes (ascii : Bool) (cs : List Char) : List Char :=
  let quote := quoteFor cs
  quote :: cs.flatMap (quotedChar ascii quote) ++ [quote]

end MerkleLog.Text
