/-!
Mappings that keep their entries in the order in which the keys were first written.
They are lists of pairs.  Two keys name the same entry when they have the same label, so
that keys of different kinds can collide; the key that was written first stays.
-/
namespace QueryCriteria
namespace Entries

variable {κ ν α : Type} [DecidableEq ν]

def get? (label : κ → ν) (key : κ) : List (κ × α) → Option α
  | [] => none
  | (k, a) :: es => if label k = label key then some a else get? label key es

/-- A new value for the first entry with the label of the key, or a new entry at the end. -/
def insert (label : κ → ν) (key : κ) (a : α) : List (κ × α) → List (κ × α)
  | [] => [(key, a)]
  | (k, b) :: es => if label k = label key then (k, a) :: es else (k, b) :: insert label key a es

/-- The entries of `es` written one after the other into `base`. -/
def merge (label : κ → ν) (base es : List (κ × α)) : List (κ × α) :=
  es.foldl (fun acc e => insert label e.1 e.2 acc) base

def ofList (label : κ → ν) (es : List (κ × α)) : List (κ × α) := merge label [] es

/-- The labels in order; `ofList` makes them distinct. -/
def labels (label : κ → ν) (es : List (κ × α)) : List ν := es.map fun e => label e.1

variable (label : κ → ν)

theorem get?_insert_self (key : κ) (a : α) (es : List (κ × α)) :
    get? label key (insert label key a es) = some a := by
  induction es with
  | nil => simp [insert, get?]
  | cons e es ih =>
    obtain ⟨k, b⟩ := e
    by_cases h : label k = label key <;> simp [insert, get?, h, ih]

theorem get?_insert_of_ne {key other : κ} (h : label key ≠ label other) (a : α)
    (es : List (κ × α)) : get? label other (insert label key a es) = get? label other es := by
  induction es with
  | nil => simp [insert, get?, h]
  | cons e es ih =>
    obtain ⟨k, b⟩ := e
    by_cases hk : label k = label key
    · simp [insert, get?, hk, h]
    · simp [insert, get?, hk, ih]

/-- Writing an entry changes no label and adds one only at the end. -/
theorem labels_insert (key : κ) (a : α) (es : List (κ × α)) :
    labels label (insert label key a es) =
      if label key ∈ labels label es then labels label es else labels label es ++ [label key] := by
  induction es with
  | nil => simp [insert, labels]
  | cons e es ih =>
    obtain ⟨k, b⟩ := e
    by_cases hk : label k = label key
    · simp [insert, labels, hk]
    · have hk' : label key ≠ label k := fun h => hk h.symm
      simp only [labels] at ih
      simp only [insert, hk, if_false, labels, List.map_cons, ih, List.mem_cons, hk', false_or]
      split
      · next h => simp [h]
      · next h => simp [h]

end Entries
end QueryCriteria
