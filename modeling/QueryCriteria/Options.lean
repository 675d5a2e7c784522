import QueryCriteria.Keywords
import QueryCriteria.Notice
import QueryCriteria.Query.Written
import QueryCriteria.Value

/-!
How the result of a query is shaped: which fields it shows, in which order it comes and
which part of it is asked for.  The options come from the keyword parameters of the
query.  A repeated keyword lists all its names, while of repeated numbers the last one
counts; what cannot be read is left out with a notice.
-/
namespace QueryCriteria

inductive Projection where
  | only (names : List String)
  | allBut (names : List String)
  deriving DecidableEq, Repr

inductive Direction where
  | ascending
  | descending
  deriving DecidableEq, Repr

structure Options where
  projection : Option Projection := none
  sort : List (String × Direction) := []
  skip : Option Int := none
  limit : Option Int := none
  deriving DecidableEq, Repr

namespace Projection

def value : Projection → Value
  | only names => .list (names.map Value.str)
  | allBut names => .map [(.field "exclude", .list (names.map Value.str))]

end Projection

namespace Direction

def text : Direction → String
  | ascending => "ASC"
  | descending => "DESC"

end Direction

namespace Query

/-- The value of a keyword parameter; null is no value. -/
def keyword? (query : Query) (name : String) : Option QueryValue :=
  match query.get? (.name name) with
  | some .null => none
  | value => value

end Query

namespace Options

/-- The values of a repeated keyword joined with commas. -/
def joined : QueryValue → List Char
  | .list items => Text.joinWith ',' (items.map QueryValue.display)
  | .tuple items => Text.joinWith ',' (items.map QueryValue.display)
  | value => value.display

/-- The names in a comma-separated text, without the blanks around them. -/
def namesOf (text : List Char) : List (List Char) :=
  ((Text.splitOn ',' text).map Text.trim).filter (· ≠ [])

def names (value : QueryValue) : List String := (namesOf (joined value)).map String.ofList

/-- The integer that a text writes between blanks; a number with a fraction or a power of
ten counts without its fraction. -/
def readWholePart? (text : List Char) : Option Int :=
  match readInteger? (Text.trim text) with
  | some n => some n
  | none => (Binary64.read? (Text.trim text)).bind Binary64.truncate?

def integer? : QueryValue → Option Int
  | .list items => items.getLast?.bind fun item => readWholePart? item.display
  | .tuple items => items.getLast?.bind fun item => readWholePart? item.display
  | value => readWholePart? value.display

/-- Names to leave out take precedence, if there are any. -/
def readProjection (k : Keywords) (query : Query) : Option Projection :=
  match ((query.keyword? k.omitted).map names).getD [] with
  | [] =>
    match ((query.keyword? k.fields).map names).getD [] with
    | [] => none
    | shown => some (.only shown)
  | hidden => some (.allBut hidden)

/-- A name to sort by; one sign in front of it gives the direction. -/
def sortKey : List Char → String × Direction
  | '-' :: name => (String.ofList name, .descending)
  | '+' :: name => (String.ofList name, .ascending)
  | name => (String.ofList name, .ascending)

def readSort (k : Keywords) (query : Query) : List (String × Direction) :=
  match query.keyword? k.sort with
  | none => []
  | some value => (namesOf (joined value)).map sortKey

/-- Negative offsets count as zero. -/
def readSkip (k : Keywords) (query : Query) : Option Int × List Notice :=
  match query.keyword? k.offset with
  | none => (none, [])
  | some value =>
    match integer? value with
    | none => (none, [.notNumeric k.offset value])
    | some n => (some (max 0 n), [])

/-- The greatest limit, if there is one, also stands in for a limit that is missing or
cannot be used. -/
def readLimit (k : Keywords) (greatest : Option Int) (query : Query) :
    Option Int × List Notice :=
  match query.keyword? k.limit with
  | none => (greatest, [])
  | some value =>
    match (integer? value).filter fun n => 1 ≤ n, greatest with
    | none, _ => (greatest, [.invalidLimit k.limit value])
    | some n, none => (some n, [])
    | some n, some g => if g < n then (some g, [.clamped n g]) else (some n, [])

/-- The options of a query and the notices about parameters that could not be used. -/
def read (k : Keywords) (greatest : Option Int) (query : Query) : Options × List Notice :=
  let skip := readSkip k query
  let limit := readLimit k greatest query
  ({ projection := readProjection k query, sort := readSort k query, skip := skip.1,
     limit := limit.1 }, skip.2 ++ limit.2)

/-- The integers in the text that a number is read from. -/
def numberIntegers : QueryValue → List Int
  | .list items => items.getLast?.elim [] (·.integers true)
  | .tuple items => items.getLast?.elim [] (·.integers true)
  | value => value.integers true

/-- The integers in the texts that the options are read from.  Names to show are read only
where there are no names to leave out. -/
def integers (k : Keywords) (query : Query) : List Int :=
  let written (name : String) : List Int := (query.keyword? name).elim [] (·.integers true)
  let number (name : String) : List Int := (query.keyword? name).elim [] numberIntegers
  let hidden := ((query.keyword? k.omitted).map names).getD []
  written k.omitted ++ (if hidden = [] then written k.fields else []) ++ written k.sort ++
    number k.offset ++ number k.limit

/-- The options of a query, if the texts that they are read from can be written. -/
def ofQuery (k : Keywords) (greatest : Option Int) (query : Query) :
    Except Fault (Options × List Notice) :=
  (checkWritable (integers k query)).map fun _ => read k greatest query

/-- The options that are set, as plain data. -/
def rendered (o : Options) : Criteria :=
  (o.projection.map fun p => (Key.field "fields", p.value)).toList ++
    (if o.sort = [] then []
     else
      [(.field "sort", .list (o.sort.map fun (name, direction) =>
        .list [.str name, .str (direction.text)]))]) ++
    (o.skip.map fun n => (Key.field "skip", Value.int n)).toList ++
    (o.limit.map fun n => (Key.field "limit", Value.int n)).toList

end Options
end QueryCriteria
