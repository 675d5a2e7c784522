/-!
White space around a value.  A character is a space when Unicode counts it as white
space, and it is blank when it is a space or one of the four separators U+001C to U+001F.
Blanks stand around names, spaces around numbers.
-/
namespace QueryCriteria
namespace Text

/-- The zero-width characters U+200B and U+FEFF are no spaces. -/
def isSpace (c : Char) : Bool :=
  let n := c.toNat
  (9 ≤ n && n ≤ 13) || n == 32 || n == 0x85 || n == 0xA0 || n == 0x1680 ||
    (0x2000 ≤ n && n ≤ 0x200A) || n == 0x2028 || n == 0x2029 || n == 0x202F ||
    n == 0x205F || n == 0x3000

def isBlank (c : Char) : Bool := isSpace c || (28 ≤ c.toNat && c.toNat ≤ 31)

/-- The text without the characters of a class at both ends. -/
def strip (p : Char → Bool) (cs : List Char) : List Char :=
  ((cs.dropWhile p).reverse.dropWhile p).reverse

def trim (cs : List Char) : List Char := strip isBlank cs

end Text
end QueryCriteria
