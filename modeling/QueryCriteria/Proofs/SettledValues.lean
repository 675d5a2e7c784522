import QueryCriteria.Proofs.FieldValues
import Mathlib.Data.List.DropRight
import Mathlib.Data.List.Induction

/-!
What many values for one field come to.  A value that is no mapping replaces what is there, and
mappings are written into each other, so that all that counts are the mappings after the last
other value, or that value if it comes last.
-/
namespace QueryCriteria

namespace Entries

variable {κ ν α : Type} [DecidableEq ν] (label : κ → ν)

/-- Mappings written into one from left to right. -/
def mergeAll (maps : List (List (κ × α))) : List (κ × α) := maps.foldl (merge label) []

theorem foldl_merge (base : List (κ × α)) (maps : List (List (κ × α))) :
    maps.foldl (merge label) base = merge label base maps.flatten := by
  induction maps generalizing base with
  | nil => rfl
  | cons m maps ih =>
    rw [List.foldl_cons, ih, List.flatten_cons, merge, merge, merge, List.foldl_append]

theorem mergeAll_concat (maps : List (List (κ × α))) (m : List (κ × α)) :
    mergeAll label (maps ++ [m]) = merge label (mergeAll label maps) m := by
  rw [mergeAll, List.foldl_append]
  rfl

theorem mergeAll_singleton {m : List (κ × α)} (h : (labels label m).Nodup) :
    mergeAll label [m] = m := by
  have hbase : (labels label ([] ++ m)).Nodup := h
  exact merge_of_nodup label hbase

/-- Of all values for a key the last one stays. -/
theorem get?_mergeAll (key : κ) (maps : List (List (κ × α))) :
    get? label key (mergeAll label maps) = lastOf label key maps.flatten := by
  rw [mergeAll, foldl_merge]
  exact get?_ofList label key maps.flatten

/-- Every key stays where it was first written. -/
theorem labels_ofList (es : List (κ × α)) :
    labels label (ofList label es) = (labels label es).eraseDups := by
  induction es using List.reverseRecOn with
  | nil => rfl
  | append_singleton es e ih =>
    have hstep : ofList label (es ++ [e]) = insert label e.1 e.2 (ofList label es) := by
      rw [ofList, merge, List.foldl_append]
      rfl
    have hone : labels label [e] = [label e.1] := rfl
    rw [hstep, labels_insert, ih, labels_append, List.eraseDups_append, hone]
    by_cases h : label e.1 ∈ labels label es
    · simp [h, List.removeAll]
    · simp [h, List.removeAll, List.eraseDups_cons]

theorem labels_mergeAll (maps : List (List (κ × α))) :
    labels label (mergeAll label maps) = (labels label maps.flatten).eraseDups := by
  rw [mergeAll, foldl_merge]
  exact labels_ofList label maps.flatten

theorem exists_get?_of_mem {key : κ} {es : List (κ × α)} (h : label key ∈ labels label es) :
    ∃ a, get? label key es = some a := by
  induction es with
  | nil => cases h
  | cons e es ih =>
    rw [get?]
    by_cases hkey : label e.1 = label key
    · exact ⟨e.2, if_pos hkey⟩
    · rw [if_neg hkey]
      rw [labels, List.map_cons, List.mem_cons] at h
      exact ih (h.resolve_left fun heq => hkey heq.symm)

end Entries

/-! ### The values of one field -/

namespace Value

def isMapping : Value → Bool
  | map _ => true
  | _ => false

/-- The entries of a mapping; other values have none. -/
def entries : Value → Criteria
  | map es => es
  | _ => []

/-- No two entries of the value have keys that name the same. -/
def Distinct (v : Value) : Prop := (Entries.labels Key.label v.entries).Nodup

theorem distinct_of_entries_nil {v : Value} (h : v.entries = []) : v.Distinct := by
  rw [Distinct, h]
  exact List.nodup_nil

end Value

namespace Criteria

/-- What the values written for one field come to: the last one, or where that is a mapping,
the mappings after the last value that is none, written into one. -/
def settled (values : List Value) : Option Value :=
  values.getLast?.map fun last =>
    if last.isMapping then
      .map (Entries.mergeAll Key.label ((values.rtakeWhile Value.isMapping).map Value.entries))
    else last

theorem settled_eq_none_iff {values : List Value} : settled values = none ↔ values = [] := by
  rw [settled, Option.map_eq_none_iff, List.getLast?_eq_none_iff]

theorem settled_concat_other {v : Value} (h : v.isMapping = false) (values : List Value) :
    settled (values ++ [v]) = some v := by
  simp [settled, h]

theorem settled_concat_map (values : List Value) (es : List (Key × Value)) :
    settled (values ++ [Value.map es]) = some (.map (Entries.merge Key.label
      (Entries.mergeAll Key.label ((values.rtakeWhile Value.isMapping).map Value.entries)) es)) := by
  have hlast : (values ++ [Value.map es]).getLast? = some (.map es) := List.getLast?_concat
  rw [settled, hlast, List.rtakeWhile_concat_pos _ _ _ rfl, List.map_append]
  exact congrArg (fun m => some (Value.map m)) (Entries.mergeAll_concat Key.label _ es)

theorem joined_of_other {v : Value} (h : v.isMapping = false) (held : Option Value) :
    joined held v = v := by
  unfold joined
  split
  · cases h
  · rfl

/-- One more value for a field changes what the values before it have come to. -/
theorem joined_settled {v : Value} (hv : v.Distinct) (values : List Value) :
    some (joined (settled values) v) = settled (values ++ [v]) := by
  cases hmapping : v.isMapping with
  | false => rw [joined_of_other hmapping, settled_concat_other hmapping]
  | true =>
    obtain ⟨es, rfl⟩ : ∃ es, v = .map es := by
      cases v with
      | map es => exact ⟨es, rfl⟩
      | _ => cases hmapping
    have halone : es = Entries.merge Key.label (Entries.mergeAll Key.label []) es :=
      (Entries.mergeAll_singleton Key.label hv).symm
    rw [settled_concat_map]
    rcases List.eq_nil_or_concat values with rfl | ⟨before, last, rfl⟩
    · exact congrArg (fun m => some (Value.map m)) halone
    · rw [List.concat_eq_append]
      cases hlast : last.isMapping with
      | false =>
        have hnone : ¬last.isMapping = true := by
          rw [hlast]
          exact Bool.false_ne_true
        rw [settled_concat_other hlast, List.rtakeWhile_concat_neg _ _ _ hnone]
        cases last with
        | map => cases hlast
        | _ => exact congrArg (fun m => some (Value.map m)) halone
      | true =>
        cases last with
        | map old =>
          rw [settled_concat_map, List.rtakeWhile_concat_pos _ _ _ rfl, List.map_append]
          exact congrArg (fun m => some (Value.map (Entries.merge Key.label m es)))
            (Entries.mergeAll_concat Key.label _ old).symm
        | _ => cases hlast

theorem foldl_joined {values : List Value} (h : ∀ v ∈ values, v.Distinct) :
    values.foldl (fun held v => some (joined held v)) none = settled values := by
  induction values using List.reverseRecOn with
  | nil => rfl
  | append_singleton values v ih =>
    rw [List.foldl_append, ih fun w hw => h w (List.mem_append_left _ hw)]
    exact joined_settled (h v (List.mem_append_right _ (List.mem_singleton_self v))) values

end Criteria

end QueryCriteria
