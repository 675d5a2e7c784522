/-!
Finite sets of names.  A set is kept as the list of its names in increasing order, by
code points and without repetition, so that equal sets are equal lists.
-/
namespace QueryCriteria

abbrev Names := List String

namespace Names

def insert (name : String) : Names → Names
  | [] => [name]
  | other :: names =>
    if name = other then other :: names
    else if name < other then name :: other :: names
    else other :: insert name names

def ofList (names : List String) : Names := names.foldr insert []

def union (a b : Names) : Names := a.foldr insert b

theorem mem_insert {name other : String} {names : Names} :
    other ∈ insert name names ↔ other = name ∨ other ∈ names := by
  induction names with
  | nil => simp [insert]
  | cons head names ih =>
    simp only [insert]
    split
    · next h => subst h; simp
    · split
      · simp
      · simp only [List.mem_cons, ih]
        constructor
        · rintro (h | h | h) <;> simp [h]
        · rintro (h | h | h) <;> simp [h]

theorem mem_ofList {name : String} {names : List String} : name ∈ ofList names ↔ name ∈ names := by
  induction names with
  | nil => simp [ofList]
  | cons head names ih =>
    show name ∈ insert head (ofList names) ↔ _
    rw [mem_insert, ih, List.mem_cons]

theorem mem_union {name : String} {a b : Names} : name ∈ union a b ↔ name ∈ a ∨ name ∈ b := by
  induction a with
  | nil => simp [union]
  | cons head a ih =>
    show name ∈ insert head (union a b) ↔ _
    rw [mem_insert, ih, List.mem_cons, or_assoc]

end Names
end QueryCriteria
