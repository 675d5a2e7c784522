import QueryCriteria.Text.CharacterName.Aliases
import QueryCriteria.Text.CharacterName.EastAsian
import QueryCriteria.Text.CharacterName.Scripts
import QueryCriteria.Text.CharacterName.Supplementary
import QueryCriteria.Text.CharacterName.Symbols
import QueryCriteria.Text.Segment

/-!
Characters by name, as Unicode 14 names them.  Ideographs are named by their code points
and Korean syllables by their sounds; all other names are in tables.  Tabled names may be
written in any mixture of cases.
-/
namespace QueryCriteria
namespace Text
namespace CharacterName

def upperHexValue? (c : Char) : Option Nat :=
  if '0' ≤ c ∧ c ≤ '9' then some (c.toNat - 48)
  else if 'A' ≤ c ∧ c ≤ 'F' then some (c.toNat - 55)
  else none

def ofUpperHex? (cs : List Char) : Option Nat :=
  cs.foldl (fun n c => n.bind fun n => (upperHexValue? c).map fun d => 16 * n + d) (some 0)

/-- The code point of a name in a table, given the name before the entries and the code
point of the next one. -/
def findIn (name : List Char) : List Char → Nat → List (List Char) → Option Nat
  | _, _, [] => none
  | previous, code, [] :: entries => findIn name previous code entries
  | previous, code, (mark :: text) :: entries =>
    if mark = '!' then findIn name previous ((ofUpperHex? text).getD 0) entries
    else
      let current := previous.take (mark.toNat - 48) ++ text
      if current = name then some code else findIn name current (code + 1) entries

/-- The entries of a table, which are separated by commas.  A line break counts for nothing,
nor do the spaces after it. -/
def entries (table : String) : List (List Char) :=
  splitOn ',' ((splitOn '\n' table.toList).flatMap fun line => line.dropWhile (· == ' '))

def tables : List String := [scripts, symbols, eastAsian, supplementary, aliases]

def tabled? (name : List Char) : Option Nat :=
  tables.findSome? fun table => findIn (name.map Char.toUpper) [] 0 (entries table)

/-- The ranges of the ideographs that are named by their code points. -/
def ideographRanges : List (Nat × Nat) :=
  [(0x3400, 0x4DBF), (0x4E00, 0x9FFF), (0x20000, 0x2A6DF), (0x2A700, 0x2B738),
    (0x2B740, 0x2B81D), (0x2B820, 0x2CEA1), (0x2CEB0, 0x2EBE0), (0x30000, 0x3134A)]

/-- The code point is written with four or five digits. -/
def ideograph? (digits : List Char) : Option Nat :=
  if digits.length = 4 ∨ digits.length = 5 then
    (ofUpperHex? digits).filter fun n => ideographRanges.any fun r => r.1 ≤ n && n ≤ r.2
  else none

/-- The sounds that may start a syllable, that stand in the middle, and that may end it. -/
def initials : List String :=
  ["G", "GG", "N", "D", "DD", "R", "M", "B", "BB", "S", "SS", "", "J", "JJ", "C", "K", "T",
    "P", "H"]

def medials : List String :=
  ["A", "AE", "YA", "YAE", "EO", "E", "YEO", "YE", "O", "WA", "WAE", "OE", "YO", "U", "WEO",
    "WE", "WI", "YU", "EU", "YI", "I"]

def finals : List String :=
  ["", "G", "GG", "GS", "N", "NJ", "NH", "D", "L", "LG", "LM", "LB", "LS", "LT", "LP", "LH",
    "M", "B", "BS", "S", "SS", "NG", "J", "C", "K", "T", "P", "H"]

/-- The ways to start a text with one of the sounds, by their numbers. -/
def startsWith (sounds : List String) (text : List Char) : List (Nat × List Char) :=
  sounds.zipIdx.filterMap fun (sound, n) =>
    if sound.toList.isPrefixOf text then some (n, text.drop sound.length) else none

/-- Syllables are numbered by their sounds, the last one fastest. -/
def syllable? (sounds : List Char) : Option Nat :=
  (startsWith initials sounds).findSome? fun (first, rest) =>
    (startsWith medials rest).findSome? fun (middle, rest) =>
      (startsWith finals rest).findSome? fun (last, rest) =>
        if rest = [] then some (0xAC00 + (first * 21 + middle) * 28 + last) else none

def after? (start : String) (name : List Char) : Option (List Char) :=
  if start.toList.isPrefixOf name then some (name.drop start.length) else none

/-- The code point of the character with a name. -/
def code? (name : List Char) : Option Nat :=
  match after? "CJK UNIFIED IDEOGRAPH-" name, after? "HANGUL SYLLABLE " name with
  | some digits, _ => ideograph? digits
  | none, some sounds => syllable? sounds
  | none, none => tabled? name

end CharacterName
end Text
end QueryCriteria
