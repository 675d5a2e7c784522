/-!
What can stop the reading of a query or the making of its links.  Each fault is a cause,
and `message` gives its wording.
-/
namespace QueryCriteria

/-- A query value into which a bracketed key cannot reach. -/
inductive Holder where
  | text
  | list
  deriving DecidableEq, Repr

inductive Fault where
  /-- A parameter under an integer key has no value, so that there is no text to read. -/
  | keyIsNoText
  /-- A bracketed key goes on below a value that holds no entries. -/
  | noEntriesBelow (holder : Holder)
  /-- A bracketed key ends in a value that holds no entries. -/
  | noEntryIn (holder : Holder)
  /-- The number of items to page through is not known. -/
  | totalUnknown
  /-- The number of pages is beyond the floating-point range. -/
  | tooManyPages
  /-- An integer has too many digits to be written. -/
  | integerTooLong
  /-- A regular expression looks behind farther than the engine can. -/
  | lookBehindTooWide
  deriving DecidableEq, Repr

namespace Fault

def message : Fault → String
  | keyIsNoText => "expected string or bytes-like object, got 'int'"
  | noEntriesBelow .text => "'str' object has no attribute 'setdefault'"
  | noEntriesBelow .list => "'list' object has no attribute 'setdefault'"
  | noEntryIn .text => "'str' object does not support item assignment"
  | noEntryIn .list => "list indices must be integers or slices, not str"
  | totalUnknown => "'>' not supported between instances of 'NoneType' and 'int'"
  | tooManyPages => "integer division result too large for a float"
  | integerTooLong =>
    "Exceeds the limit (4300 digits) for integer string conversion; " ++
      "use sys.set_int_max_str_digits() to increase the limit"
  | lookBehindTooWide => "invalid SRE code"

end Fault
end QueryCriteria
