import QueryCriteria.Text.Printable

/-!
A text as it is shown inside a larger one: between quotes, with escapes for the quote,
the backslash and every character that cannot be printed.  Single quotes are used
unless the text holds a single quote and no double quote.
-/
namespace QueryCriteria
namespace Text

def hexDigit (n : Nat) : Char := Nat.digitChar (n % 16)

/-- The last `width` hexadecimal digits of a number. -/
def hexText : Nat → Nat → List Char
  | 0, _ => []
  | width + 1, n => hexText width (n / 16) ++ [hexDigit n]

/-- The shortest of three escapes that can hold the code point. -/
def codeEscape (c : Char) : List Char :=
  let n := c.toNat
  if n < 0x100 then '\\' :: 'x' :: hexText 2 n
  else if n < 0x10000 then '\\' :: 'u' :: hexText 4 n
  else '\\' :: 'U' :: hexText 8 n

def quoteChar (quote c : Char) : List Char :=
  if c = quote ∨ c = '\\' then ['\\', c]
  else if c = '\n' then ['\\', 'n']
  else if c = '\t' then ['\\', 't']
  else if c = '\r' then ['\\', 'r']
  else if isPrintable c then [c]
  else codeEscape c

def quoteMark (cs : List Char) : Char :=
  if cs.contains '\'' && !cs.contains '"' then '"' else '\''

def quoted (cs : List Char) : List Char :=
  let mark := quoteMark cs
  mark :: (cs.flatMap (quoteChar mark) ++ [mark])

end Text
end QueryCriteria
