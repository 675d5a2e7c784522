import QueryCriteria.Codec.Flat
import QueryCriteria.Fault

/-!
Query strings with nested keys.  A key such as `a[b][c]` is a path into nested mappings,
which are made when they are missing.  A path cannot lead through a text or a list.
-/
namespace QueryCriteria
namespace Bracket

def isBracket (c : Char) : Bool := c == '[' || c == ']'

/-- The texts between the brackets of the rest of a key, which starts inside a bracket or
between two of them.  A last line break after the brackets is not part of the key. -/
def segments? : Bool → List Char → Option (List (List Char))
  | false, [] => some []
  | false, ['\n'] => some []
  | false, c :: cs => if c = '[' then segments? true cs else none
  | true, [] => none
  | true, c :: cs =>
    if c = ']' then (segments? false cs).map ([] :: ·)
    else if c = '[' then none
    else
      match segments? true cs with
      | some (segment :: segments) => some ((c :: segment) :: segments)
      | _ => none

/-- The path that a key with brackets writes. -/
def path? (key : List Char) : Option (List Char × List (List Char)) :=
  let base := key.takeWhile (!isBracket ·)
  if base = [] then none
  else
    match key.dropWhile (!isBracket ·) with
    | [] => none
    | rest => (segments? false rest).map (base, ·)

/-- What a path meets instead of a mapping. -/
def holderOf : QueryValue → Holder
  | .list _ => .list
  | _ => .text

/-- A value written at the end of a path. -/
def assign (value : QueryValue) : Query → List Char → List (List Char) → Except Fault Query
  | query, part, [] => .ok (query.insert (.name (String.ofList part)) value)
  | query, part, next :: parts =>
    let key := QueryKey.name (String.ofList part)
    match query.get? key with
    | none => (assign value [] next parts).map fun inner => query.insert key (.nested inner)
    | some (.nested entries) =>
      (assign value entries next parts).map fun inner => query.insert key (.nested inner)
    | some other =>
      .error (if parts = [] then .noEntryIn (holderOf other) else .noEntriesBelow (holderOf other))

/-- A flat entry put in its place. -/
def place (query : Query) (key : QueryKey) (value : QueryValue) : Except Fault Query :=
  match path? key.display with
  | none => .ok (query.insert key value)
  | some (base, parts) => assign value query base parts

def nest : Query → Query → Except Fault Query
  | query, [] => .ok query
  | query, (key, value) :: entries => (place query key value).bind fun query => nest query entries

def parse (text : List Char) : Except Fault Query := nest [] (Flat.parse text)

/-- The name of an entry inside the mapping that `outer` names; outside of all mappings
that is the key itself. -/
def nameIn (outer : List Char) (key : QueryKey) : List Char :=
  if outer = [] then key.display else outer ++ '[' :: (key.display ++ [']'])

/-- An empty name and the integer zero add nothing to the names below them. -/
def outerFor (outer : List Char) (key : QueryKey) : List Char :=
  if outer = [] ∧ key = .index 0 then [] else nameIn outer key

mutual

def pairsAt (outer : List Char) (key : QueryKey) : QueryValue → List (List Char × List Char)
  | .nested entries => pairsIn (outerFor outer key) entries
  | value => (Flat.valueTexts value).map fun text => (nameIn outer key, text)

def pairsIn (outer : List Char) : List (QueryKey × QueryValue) → List (List Char × List Char)
  | [] => []
  | (key, value) :: entries => pairsAt outer key value ++ pairsIn outer entries

end

def stringify (query : Query) : List Char := Form.writePairs (pairsIn [] query)

end Bracket
end QueryCriteria
