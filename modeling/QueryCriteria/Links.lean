import QueryCriteria.Codec
import QueryCriteria.Options

/-!
Links to other pages of a result.  A link repeats the query with another offset, and it
exists only where the page does: the first and the previous page before the current one,
the next and the last page after it.
-/
namespace QueryCriteria

inductive PageRelation where
  | first
  | prev
  | next
  | last
  deriving DecidableEq, Repr

namespace PageRelation

def name : PageRelation → String
  | first => "first"
  | prev => "prev"
  | next => "next"
  | last => "last"

end PageRelation

abbrev PageLinks := List (PageRelation × String)

namespace Links

/-- The items on a page: the limit, but no more than there are items at all. -/
def pageSize (options : Options) (total : Int) : Int :=
  min (options.limit.getD 0) (max 0 total)

/-- The number of pages, as far as the quotient of two integers is exact in floating
point. -/
def pageCount? (total size : Int) : Option Int := (Binary64.ofQuotient total size).ceil?

def lastOffset (total size : Int) : Except Fault Int :=
  match pageCount? total size with
  | none => .error .tooManyPages
  | some pages => .ok ((pages - 1) * size)

/-- The offsets of the pages before an offset. -/
def offsetsBefore (offset size : Int) : List (PageRelation × Int) :=
  if 0 < offset then [(.first, 0), (.prev, max (offset - size) 0)] else []

/-- The offsets of the pages after an offset, given that of the last page. -/
def offsetsAfter (offset size total last : Int) : List (PageRelation × Int) :=
  if offset + size < total then [(.next, min (offset + size) last), (.last, last)] else []

/-- The query of the page at an offset. -/
def queryAt (query : Query) (offsetKey : String) (offset : Int) : Query :=
  query.insert (.name offsetKey) (.text (String.ofList (integerText offset)))

def linkTo (codec : Codec) (base : String) (query : Query) : String :=
  String.ofList (base.toList ++ '?' :: (codec.stringify query).toList)

/-- Links to pages, made one after the other on a working copy of the query: each link
rewrites the offset that the link before it left there.  The working copy comes back with
the links. -/
def write (codec : Codec) (offsetKey base : String) :
    Query → List (PageRelation × Int) → Except Fault (Query × PageLinks)
  | working, [] => .ok (working, [])
  | working, (relation, offset) :: pages =>
    if isWritable offset then
      let working := queryAt working offsetKey offset
      (write codec offsetKey base working pages).map fun (final, links) =>
        (final, (relation, linkTo codec base working) :: links)
    else .error .integerTooLong

/-- The number of items, without which no page can be linked. -/
def knownTotal : Option Int → Except Fault Int
  | none => .error .totalUnknown
  | some total => .ok total

/-- The links of a page of a result with `total` items; without a page size there are no
pages. -/
def build (codec : Codec) (offsetKey : String) (query : Query) (options : Options)
    (base : String) (total : Int) : Except Fault (Option PageLinks) :=
  let offset := options.skip.getD 0
  let size := pageSize options total
  if size = 0 then .ok none
  else
    (write codec offsetKey base query (offsetsBefore offset size)).bind fun (working, before) =>
      (lastOffset (max 0 total) size).bind fun last =>
        (write codec offsetKey base working (offsetsAfter offset size (max 0 total) last)).map
          fun (_, after) => some (before ++ after)

end Links

namespace PageLinks

def linkText (link : PageRelation × String) : List Char :=
  '<' :: (link.2.toList ++
    ['>', ';', ' ', 'r', 'e', 'l', '=', '"'] ++ link.1.name.toList ++ ['"'])

/-- The value of a `Link` header. -/
def header (links : PageLinks) : String := String.ofList (listed (links.map linkText))

end PageLinks
end QueryCriteria
