import QueryCriteria.Proofs.AcceptedParameters
import QueryCriteria.Proofs.MergedFields

/-!
Which names the fields of a criteria tree have.  Merging invents no names: wherever a field stands
in the tree, a parameter at the same place of the query gives its name.  A comparison names a
field without characters that start a relation, but for an exclamation mark in front of a field
that is tested, and a nested mapping gives its key as it is, whatever characters it has.
-/
namespace QueryCriteria

namespace Criteria

/-- A field stands in a tree below the keys with the given labels. -/
inductive HasName : Criteria → List Key.Label → String → Prop where
  | here {criteria : Criteria} {name : String} {value : Value}
      (h : (.field name, value) ∈ criteria) : HasName criteria [] name
  | inside {criteria entries : Criteria} {key : Key} {l : Key.Label} {path : List Key.Label}
      {name : String} (h : (key, .map entries) ∈ criteria) (hlabel : key.label = l)
      (hname : HasName entries path name) : HasName criteria (l :: path) name

variable {criteria : Criteria} {path : List Key.Label} {name : String}

theorem HasName.mono {other : Criteria} (h : criteria.HasName path name)
    (hsub : ∀ e ∈ criteria, e ∈ other) : other.HasName path name := by
  cases h with
  | here h => exact .here (hsub _ h)
  | inside h hlabel hname => exact .inside (hsub _ h) hlabel hname

/-! ### Merging invents no names -/

theorem hasName_insert {key : Key} {value : Value}
    (h : HasName (criteria.insert key value) path name) :
    criteria.HasName path name ∨ HasName [(key, value)] path name := by
  cases h with
  | here h =>
    rcases Entries.mem_insert Key.label h with hold | ⟨-, -, hkey | ⟨e, he, hkey⟩⟩
    · exact .inl (.here hold)
    · have hkey : .field name = key := hkey
      exact .inr (.here (by rw [hkey]; exact List.mem_singleton_self _))
    · have hkey : e.1 = .field name := hkey
      exact .inl (.here (by rw [← hkey]; exact he))
  | inside h hlabel hname =>
    rcases Entries.mem_insert Key.label h with hold | ⟨hvalue, hsame, -⟩
    · exact .inl (.inside hold hlabel hname)
    · have hvalue : Value.map _ = value := hvalue
      refine .inr (.inside ?_ (hsame.symm.trans hlabel) hname)
      rw [hvalue]
      exact List.mem_singleton_self _

theorem hasName_merge {old new : Criteria}
    (h : HasName (Entries.merge Key.label old new) path name) :
    old.HasName path name ∨ new.HasName path name := by
  induction new generalizing old with
  | nil => exact .inl h
  | cons e new ih =>
    rcases ih h with h | h
    · rcases hasName_insert h with h | h
      · exact .inl h
      · exact .inr (h.mono (by simp))
    · exact .inr (h.mono fun e he => List.mem_cons_of_mem _ he)

theorem hasName_add {key : Key} {value : Value} (h : HasName (criteria.add key value) path name) :
    criteria.HasName path name ∨ HasName [(key, value)] path name := by
  rw [add_eq_insert] at h
  rcases hasName_insert h with h | h
  · exact .inl h
  · unfold joined at h
    split at h
    · next old new hget _ =>
      cases h with
      | here hmem =>
        have hkey : .field name = key := (Prod.mk.inj (List.mem_singleton.1 hmem)).1
        exact .inr (.here (by rw [hkey]; exact List.mem_singleton_self _))
      | inside hmem hlabel hname =>
        obtain ⟨rfl, hentries⟩ := Prod.mk.inj (List.mem_singleton.1 hmem)
        rw [Value.map.inj hentries] at hname
        rcases hasName_merge hname with hname | hname
        · obtain ⟨k, hmem, hsame⟩ := Entries.exists_mem_of_get? Key.label hget
          exact .inl (.inside hmem (hsame.trans hlabel) hname)
        · exact .inr (.inside (List.mem_singleton_self _) hlabel hname)
    · exact .inr h

theorem hasName_addAll {values : List (Key × Value)}
    (h : HasName (criteria.addAll values) path name) :
    criteria.HasName path name ∨ HasName values path name := by
  induction values generalizing criteria with
  | nil => exact .inl h
  | cons e values ih =>
    rcases ih h with h | h
    · rcases hasName_add h with h | h
      · exact .inl h
      · exact .inr (h.mono (by simp))
    · exact .inr (h.mono fun e he => List.mem_cons_of_mem _ he)

/-- Where a field stands in the criteria, one of the values has it at the same place. -/
theorem hasName_ofValues {values : List (Key × Value)} (h : (ofValues values).HasName path name) :
    HasName values path name := by
  rcases hasName_addAll h with hempty | hvalues
  · cases hempty with
    | here hmem => cases hmem
    | inside hmem hlabel hname => cases hmem
  · exact hvalues

end Criteria

/-- A comparison demands no fields. -/
theorem Demanded.not_hasName {v : Value} (h : Demanded v) (path : List Key.Label) (name : String) :
    ¬Criteria.HasName v.entries path name := by
  intro hname
  cases hname with
  | here he => cases (h.isOperator_of_mem he).1
  | inside he hlabel hname =>
    have hnil := (h.isOperator_of_mem he).2
    rw [Value.entries] at hnil
    subst hnil
    cases hname with
    | here he => cases he
    | inside he => cases he

namespace Comparison

open Expression (StartsWith IsField IsKey)

/-- The field of a comparison has no character that starts a relation, but for an exclamation
mark in front of a field with a test. -/
theorem field_of_parse {switches : Switches} {key value : String} {c : Comparison}
    (h : parse switches key value = .ok (some c)) :
    IsField c.field.toList ∨ ∃ field rest, IsField field ∧ c.field.toList = '!' :: field ∧
      StartsWith (parameterText key.toList value.toList) c.field.toList rest ∧ rest ≠ [] := by
  by_cases haccepted : ∃ k rest, Accepted (parameterText key.toList value.toList) k rest
  · obtain ⟨k, rest, hk⟩ := haccepted
    have hfield : c.field.toList = if rest = [] then unmarked k else k := by
      rw [(parse_of_accepted hk).2.2 c h, String.toList_ofList]
    have hstart := hk.toStartsWith
    have hkey := hstart.isKey
    cases hkey with
    | bare hplain =>
      have hunmarked : unmarked k = k := by
        unfold unmarked
        split
        · exact absurd (hplain.plain '!' List.mem_cons_self) (by decide)
        · rfl
      rw [hunmarked, ite_self] at hfield
      rw [hfield]
      exact .inl hplain
    | marked hplain =>
      by_cases hnil : rest = []
      · rw [if_pos hnil] at hfield
        rw [hfield]
        exact .inl hplain
      · rw [if_neg hnil] at hfield
        rw [← hfield] at hstart
        exact .inr ⟨_, rest, hplain, hfield, hstart, hnil⟩
  · rw [parse_of_not_accepted haccepted] at h
    cases h

end Comparison

namespace Query

open Expression (StartsWith IsField)

/-- A parameter with a property stands in a query below the mappings with the given labels. -/
inductive HasParameter (p : QueryKey × QueryValue → Prop) : Query → List Key.Label → Prop where
  | here {query : Query} {entry : QueryKey × QueryValue} (h : entry ∈ query) (hp : p entry) :
      HasParameter p query []
  | inside {query entries : Query} {key : QueryKey} {l : Key.Label} {path : List Key.Label}
      (h : (key, .nested entries) ∈ query) (hshape : isArrayShaped entries = false)
      (hlabel : (fieldOf key).label = l) (hp : HasParameter p entries path) :
      HasParameter p query (l :: path)

/-- The parameters that give a name as it is written: nested mappings, and tests of a field with
an exclamation mark in front of it. -/
inductive GivesWritten (name : String) : QueryKey × QueryValue → Prop where
  | nested {entries : Query} (hshape : isArrayShaped entries = false) :
      GivesWritten name (.name name, .nested entries)
  | tested {entry : QueryKey × QueryValue} {field rest : List Char} (hcompared : IsCompared entry.2)
      (hfield : IsField field) (hname : name.toList = '!' :: field)
      (hstart : StartsWith (textOf entry) name.toList rest) (htest : rest ≠ []) :
      GivesWritten name entry

variable {switches : Switches} {ignored : List String}

theorem name_of_given {entry : QueryKey × QueryValue} {name : String} {value : Value}
    (h : given switches entry = some (.field name, value)) :
    IsField name.toList ∨ GivesWritten name entry := by
  rcases cases_of_given h with ⟨hcompared, text, c, htext, hparse, he⟩ |
    ⟨entries, inner, dropped, hentries, hshape, -, he⟩
  · obtain rfl := Key.field.inj (Prod.mk.inj he).1
    rcases Comparison.field_of_parse hparse with
      hplain | ⟨field, rest, hfield, hname, hstart, htest⟩
    · exact .inl hplain
    · rw [htext, String.toList_ofList] at hstart
      exact .inr (.tested hcompared hfield hname hstart htest)
  · obtain ⟨key, v⟩ := entry
    obtain rfl : v = .nested entries := hentries
    cases key with
    | name text =>
      obtain rfl := Key.field.inj (Prod.mk.inj he).1
      exact .inr (.nested hshape)
    | index n => cases (Prod.mk.inj he).1

/-- Only a nested mapping gives a value with fields in it. -/
theorem nested_of_given {entry : QueryKey × QueryValue} {key : Key} {es : Criteria}
    {path : List Key.Label} {name : String} (h : given switches entry = some (key, .map es))
    (hname : es.HasName path name) :
    ∃ entries dropped, entry.2 = .nested entries ∧ isArrayShaped entries = false ∧
      criteria switches [] entries = .ok (es, dropped) ∧ key = fieldOf entry.1 := by
  rcases cases_of_given h with ⟨-, text, c, -, hparse, he⟩ |
    ⟨entries, inner, dropped, hentries, hshape, hinner, he⟩
  · have hdemanded := Comparison.demanded_of_parse hparse
    rw [← (Prod.mk.inj he).2] at hdemanded
    exact absurd hname (hdemanded.not_hasName path name)
  · obtain ⟨rfl, hvalue⟩ := Prod.mk.inj he
    rw [Value.map.inj hvalue]
    exact ⟨entries, dropped, hentries, hshape, hinner, rfl⟩

/-- The field names of the criteria of a query, by induction on where they stand. -/
theorem name_of_criteria {query : Query} {criteria : Criteria} {dropped : List Notice}
    {path : List Key.Label} {name : String}
    (h : query.criteria switches ignored = .ok (criteria, dropped))
    (hname : criteria.HasName path name) :
    IsField name.toList ∨ query.HasParameter (GivesWritten name) path := by
  induction path generalizing query criteria dropped ignored with
  | nil =>
    rw [criteria_eq_ofValues h] at hname
    cases Criteria.hasName_ofValues hname with
    | here hvalue =>
      obtain ⟨entry, hentry, hgiven⟩ := List.mem_filterMap.1 (List.mem_filter.1 hvalue).1
      rcases name_of_given hgiven with hplain | hwritten
      · exact .inl hplain
      · exact .inr (.here (List.mem_filter.1 hentry).1 hwritten)
  | cons l path ih =>
    rw [criteria_eq_ofValues h] at hname
    cases Criteria.hasName_ofValues hname with
    | inside hvalue hlabel hinside =>
      obtain ⟨⟨key, value⟩, hentry, hgiven⟩ := List.mem_filterMap.1 (List.mem_filter.1 hvalue).1
      obtain ⟨entries, notices, hentries, hshape, hinner, hkey⟩ := nested_of_given hgiven hinside
      obtain rfl : value = .nested entries := hentries
      rw [hkey] at hlabel
      rcases ih hinner hinside with hplain | hwritten
      · exact .inl hplain
      · exact .inr (.inside (List.mem_filter.1 hentry).1 hshape hlabel hwritten)

end Query

namespace Selection

/-- Wherever a field stands in the criteria of a query, its name is not empty and has no character
that starts a relation, or a parameter at the same place of the query gives the name as it is
written: the key of a nested mapping, or a field with an exclamation mark in front of it and a
test behind it. -/
theorem field_name_plain_or_written {config : Config} {query : Query} {s : Selection}
    {notices : List Notice} (h : ofQuery config query = .ok (s, notices)) {path : List Key.Label}
    {name : String} (hname : s.criteria.HasName path name) :
    Expression.IsField name.toList ∨ query.HasParameter (Query.GivesWritten name) path := by
  obtain ⟨⟨dropped, hcriteria⟩, -⟩ := ofQuery_eq h
  exact Query.name_of_criteria hcriteria hname

/-- A comparison in a nested mapping. -/
def nestedOrder : Query := [(.name "a", .nested [(.name "b>", .text "1")])]

theorem field_name_plain_nested : ∃ s notices, ofQuery {} nestedOrder = .ok (s, notices) ∧
    s.criteria.HasName [.text "a"] "b" ∧
    (Expression.IsField "b".toList ∨
      Query.HasParameter (Query.GivesWritten "b") nestedOrder [.text "a"]) := by
  have hname : Criteria.HasName
      [(.field "a", .map [(.field "b", .map [(.comparison .ge, .int 1)])])] [.text "a"] "b" :=
    .inside List.mem_cons_self rfl (.here List.mem_cons_self)
  have hquery : ofQuery {} nestedOrder =
      .ok (⟨[(.field "a", .map [(.field "b", .map [(.comparison .ge, .int 1)])])], {},
        nestedOrder, {}⟩, []) := rfl
  exact ⟨_, _, hquery, hname, field_name_plain_or_written hquery hname⟩

/-- The key of a nested mapping stays as it is, and so does an exclamation mark before a test. -/
theorem field_name_written :
    (∃ s notices, ofQuery {} [(.name ">", .nested [(.name "b>", .text "1")])] = .ok (s, notices) ∧
      s.criteria.HasName [] ">") ∧ ¬Expression.IsField ">".toList ∧
    (∃ s notices, ofQuery {} [(.name "!a>", .text "1")] = .ok (s, notices) ∧
      s.criteria.HasName [] "!a") ∧ ¬Expression.IsField "!a".toList := by
  refine ⟨⟨_, _, rfl, .here List.mem_cons_self⟩, fun h => ?_,
    ⟨_, _, rfl, .here List.mem_cons_self⟩, fun h => ?_⟩
  · exact absurd (h.plain '>' List.mem_cons_self) (by decide)
  · exact absurd (h.plain '!' List.mem_cons_self) (by decide)

end Selection
end QueryCriteria
