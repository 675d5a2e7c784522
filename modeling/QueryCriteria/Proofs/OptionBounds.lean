import Mathlib.Algebra.Order.Floor.Semifield
import Mathlib.Data.Rat.Floor
import QueryCriteria.Proofs.Display
import QueryCriteria.Proofs.NumberGrammar
import QueryCriteria.Proofs.Options

/-!
Offsets and limits.  A value counts as the integer that it writes, or else as the number nearest to
what it writes, without its fraction; of several values the last one counts.  Whatever it is, what
is skipped is not negative, and the limit is positive and not above the greatest one, which also
stands in for a limit that cannot be used.
-/
namespace QueryCriteria

namespace Binary64

end Binary64

namespace Numeral

open Text

end Numeral

namespace Options

open Numeral (withSign maxDigits)

/-! ### What a text writes -/

variable {text : List Char} {i : Int}

end Options

/-! ### What a parameter writes -/

namespace QueryValue

variable {v : QueryValue} {i : Int}

end QueryValue

namespace Query

variable {query : Query} {name : String} {i : Int}

end Query

/-! ### Bounds -/

namespace Options

variable {k : Keywords} {greatest : Option Int} {query : Query}

end Options
end QueryCriteria
