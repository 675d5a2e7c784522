import QueryCriteria.Comparison
import QueryCriteria.Notice
import QueryCriteria.Query.Written

/-!
The criteria tree of a query.  Each parameter gives at most one value for one field: a
nested mapping gives the criteria of its own parameters, and every other value is joined
into one text and read as a comparison.  Mappings for the same field are merged, entry by
entry; any other value replaces what was there.
-/
namespace QueryCriteria

namespace Criteria

/-- One more value for a field. -/
def add (criteria : Criteria) (key : Key) (value : Value) : Criteria :=
  match criteria.get? key, value with
  | some (.map old), .map new => criteria.insert key (.map (Entries.merge Key.label old new))
  | _, _ => criteria.insert key value

/-- The criteria that a sequence of values gives. -/
def ofValues (values : List (Key × Value)) : Criteria :=
  values.foldl (fun criteria entry => criteria.add entry.1 entry.2) []

end Criteria

/-- What one parameter contributes. -/
structure Contribution where
  found : Option (Key × Value)
  notices : List Notice

namespace Contribution

def criteria (contributions : List Contribution) : Criteria :=
  Criteria.ofValues (contributions.filterMap (·.found))

def allNotices (contributions : List Contribution) : List Notice :=
  contributions.flatMap (·.notices)

end Contribution

namespace Query

/-- The field that the key of a nested mapping names. -/
def fieldOf : QueryKey → Key
  | .name text => .field text
  | .index n => .index n

/-- The text that a key contributes to an expression.  An integer becomes a text only
together with a value. -/
def keyText (key : QueryKey) (value : List Char) : Except Fault String :=
  match key with
  | .name text => .ok text
  | .index n =>
    if value = [] then .error .keyIsNoText
    else (checkWritable [n]).map fun _ => String.ofList (integerText n)

/-- The texts of the key and of the value of a parameter that is read as one comparison. -/
def texts (key : QueryKey) (value : QueryValue) : Except Fault (String × String) :=
  value.joinedText.bind fun joined =>
    (keyText key joined).map fun text => (text, String.ofList joined)

/-- A parameter that is read as one comparison. -/
def scalar (switches : Switches) (key : QueryKey) (value : QueryValue) :
    Except Fault Contribution :=
  (texts key value).bind fun read =>
    (Comparison.parse switches read.1 read.2).map fun found =>
      match found with
      | some c => { found := some (.field c.field, c.value), notices := [] }
      | none => { found := none, notices := [.unreadable key] }

mutual

def contribution (switches : Switches) (key : QueryKey) : QueryValue → Except Fault Contribution
  | .nested entries =>
    (readShape entries).bind fun isArray =>
      if isArray then scalar switches key (.nested entries)
      else
        (contributions switches entries).map fun inner =>
          { found := some (fieldOf key, .map (Contribution.criteria inner))
            notices := Contribution.allNotices inner }
  | value => scalar switches key value

def contributions (switches : Switches) :
    List (QueryKey × QueryValue) → Except Fault (List Contribution)
  | [] => .ok []
  | (key, value) :: entries =>
    match contribution switches key value with
    | .error fault => .error fault
    | .ok first =>
      match contributions switches entries with
      | .error fault => .error fault
      | .ok rest => .ok (first :: rest)

end

def isIgnored (ignored : List String) : QueryKey → Bool
  | .name text => ignored.contains text
  | .index _ => false

/-- A contribution to an ignored field counts for nothing. -/
def keepsField (ignored : List String) (c : Contribution) : Bool :=
  match c.found with
  | some (.field name, _) => !ignored.contains name
  | _ => true

/-- The contributions of the parameters that are not ignored, neither by their own name
nor by that of the field that they compare.  Nested names are never ignored. -/
def filtered (switches : Switches) (ignored : List String) (query : Query) :
    Except Fault (List Contribution) :=
  (contributions switches (query.filter fun entry => !isIgnored ignored entry.1)).map fun found =>
    found.filter (keepsField ignored)

/-- The criteria of a query and the notices about dropped parameters. -/
def criteria (switches : Switches) (ignored : List String) (query : Query) :
    Except Fault (Criteria × List Notice) :=
  (filtered switches ignored query).map fun found =>
    (Contribution.criteria found, Contribution.allNotices found)

end Query
end QueryCriteria
