import QueryCriteria.Form.Component
import QueryCriteria.Text.Segment

/-!
Form-encoded pairs of names and values.  Ampersands separate the pairs, and the first
equals sign of a pair ends its name; a pair without one has an empty value, and empty
pairs are skipped.
-/
namespace QueryCriteria
namespace Form

def readPair (cs : List Char) : List Char × List Char :=
  (decode (Text.cutAt '=' cs).1, decode ((Text.cutAt '=' cs).2.getD []))

def readPairs (cs : List Char) : List (List Char × List Char) :=
  ((Text.splitOn '&' cs).filter (· ≠ [])).map readPair

def writePair (pair : List Char × List Char) : List Char :=
  encode pair.1 ++ '=' :: encode pair.2

def writePairs (pairs : List (List Char × List Char)) : List Char :=
  Text.joinWith '&' (pairs.map writePair)

end Form
end QueryCriteria
