import QueryCriteria.Codec.Bracket

/-!
The two ways to read and write query strings.
-/
namespace QueryCriteria

inductive Codec where
  | flat
  | bracket
  deriving DecidableEq, Repr

namespace Codec

def parse (codec : Codec) (text : String) : Except Fault Query :=
  match codec with
  | flat => .ok (Flat.parse text.toList)
  | bracket => Bracket.parse text.toList

def stringify (codec : Codec) (query : Query) : String :=
  match codec with
  | flat => String.ofList (Flat.stringify query)
  | bracket => String.ofList (Bracket.stringify query)

end Codec
end QueryCriteria
