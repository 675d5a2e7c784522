import QueryCriteria.Number.Binary64

/-!
Settings as a caller writes them down: plain data without types of their own.
-/
namespace QueryCriteria

inductive Setting where
  | null
  | bool (b : Bool)
  /-- A number written with digits alone. -/
  | int (n : Int)
  /-- A number written with a point or a power of ten. -/
  | float (x : Binary64)
  | text (s : String)
  | array (items : List Setting)
  | object (entries : List (String × Setting))
  deriving Inhabited

abbrev Settings := List (String × Setting)

namespace Setting

/-- The number `mantissa / 10 ^ places`; one that is written with places counts as the
nearest floating-point number. -/
def ofDecimal (mantissa : Int) (places : Nat) : Setting :=
  if places = 0 then .int mantissa else .float (Binary64.ofQuotient mantissa (tenTo places))

/-- What a scalar is told apart by.  Truth values count as the numbers 0 and 1, and equal
numbers are the same however they are written. -/
inductive Label where
  | null
  | int (n : Int)
  | fraction (x : Binary64)
  | text (s : String)
  deriving DecidableEq

/-- Collections are told apart by nothing, and so they cannot be members of a set. -/
def label? : Setting → Option Label
  | null => some .null
  | bool b => some (.int (if b then 1 else 0))
  | int n => some (.int n)
  | float x => some (match x.toInt? with | some n => .int n | none => .fraction x)
  | text s => some (.text s)
  | array _ => none
  | object _ => none

end Setting

namespace Settings

def get? (settings : Settings) (name : String) : Option Setting :=
  (settings.find? fun entry => entry.1 = name).map (·.2)

/-- The names that are none of the known ones. -/
def unknown (settings : Settings) (known : List String) : List String :=
  (settings.map (·.1)).filter (!known.contains ·)

end Settings
end QueryCriteria
