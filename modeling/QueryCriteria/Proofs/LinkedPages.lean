import QueryCriteria.Proofs.Navigation
import Mathlib.Algebra.Ring.Divisibility.Basic

/-!
Where the links of a page lead.  The last page is computed from a rounded quotient, and it is the
one that holds the last item exactly if rounding keeps the ceiling of the quotient.  All links
but the one to the previous page lead to items; that one does so unless the page begins more than
a page beyond the last item.  And from a page that begins at a multiple of the limit all links
lead to such pages, unless there are fewer items than the limit, which then counts as the number of
items.
-/
namespace QueryCriteria
namespace Links

variable {codec : Codec} {key base : String} {query : Query} {options : Options}
variable {total limit : Int} {linked : List (PageRelation × Int)}

/-! ### The last page -/

section LastOffset

variable {size last : Int} (hsize : 0 < size) (h : lastOffset total size = .ok last)
include hsize h

end LastOffset

theorem linked_of_leadTo (hlimit : options.limit = some limit) (hpos : 1 ≤ limit)
    (htotal : 1 ≤ total) (hmax : total ≤ 2 ^ 53)
    (h : LeadTo codec key base query options total linked) :
    linked = offsetsBefore (options.skip.getD 0) (min limit total) ++
      offsetsAfter (options.skip.getD 0) (min limit total) total
        (endOffset total (min limit total)) := by
  obtain ⟨last, hlast, rfl⟩ := (pages_eq_ok_iff hlimit htotal).1 h.pages_eq
  rw [lastOffset_eq (by omega) (Int.min_le_right _ _) hmax] at hlast
  rw [Except.ok.inj hlast]

/-- Links lead to pages with items, but for the link to the previous page: it does so exactly if
the page itself begins less than a page beyond the last item. -/
theorem linked_pages_hold_items_iff (hlimit : options.limit = some limit) (hpos : 1 ≤ limit)
    (htotal : 1 ≤ total) (hmax : total ≤ 2 ^ 53) (hskip : 0 ≤ options.skip.getD 0)
    {links : PageLinks} (h : build codec key query options base total = .ok (some links)) :
    ∃ linked, LeadTo codec key base query options total linked ∧
      links = linksTo codec key base query linked ∧
      (∀ page ∈ linked, 0 ≤ page.2) ∧ (∀ page ∈ linked, page.1 ≠ .prev → page.2 < total) ∧
      ((∀ page ∈ linked, page.2 < total) ↔ options.skip.getD 0 < total + min limit total) := by
  obtain ⟨linked, hlead, hlinks⟩ := exists_leadTo h
  obtain rfl := linked_of_leadTo hlimit hpos htotal hmax hlead
  obtain ⟨hlow, hhigh⟩ := endOffset_bounds (by omega : 0 < min limit total) total
  refine ⟨_, hlead, hlinks, ?_, ?_, ?_⟩
  · rw [forall_linked_iff]
    dsimp only
    omega
  · rw [forall_linked_iff]
    refine ⟨fun _ => ⟨fun _ => htotal, fun hprev => absurd rfl hprev⟩, fun _ => ?_⟩
    dsimp only
    omega
  · rw [forall_linked_iff]
    dsimp only
    omega

/-- A page that begins five items beyond the last one is less than a page beyond it. -/
theorem linked_pages_hold_items_beyond : ∃ linked,
    LeadTo .flat "offset" "/items" [(.name "offset", .text "25"), (.name "limit", .text "10")]
        { skip := some 25, limit := some 10 } 20 linked ∧
      ∀ page ∈ linked, page.2 < 20 := by
  obtain ⟨links, hlinks⟩ : ∃ links,
      build .flat "offset" [(.name "offset", .text "25"), (.name "limit", .text "10")]
        { skip := some 25, limit := some 10 } "/items" 20 = .ok (some links) := ⟨_, rfl⟩
  obtain ⟨linked, hlead, -, -, -, hitems⟩ :=
    linked_pages_hold_items_iff rfl (by decide) (by decide) (by decide) (by decide) hlinks
  exact ⟨linked, hlead, hitems.2 (by decide)⟩

/-- From far beyond the last item, the link to the previous page leads to no items either. -/
theorem previous_page_without_items :
    LeadTo .flat "offset" "" [] { skip := some 100, limit := some 10 } 20
        [(.first, 0), (.prev, 90)] ∧
      ¬(90 : Int) < 20 := by
  exact ⟨leadTo_iff.2 ⟨by decide, rfl, by decide⟩, by decide⟩

/-! ### Pages on a grid -/

theorem dvd_endOffset (total size : Int) : size ∣ endOffset total size := ⟨_, Int.mul_comm _ _⟩

theorem dvd_last (htotal : 1 ≤ total) : limit ∣ endOffset total (min limit total) := by
  rcases Int.le_total limit total with hle | hle
  · rw [Int.min_eq_left hle]
    exact dvd_endOffset total limit
  · have hfirst : (total - 1) / total = 0 := Int.ediv_eq_zero_of_lt (by omega) (by omega)
    rw [Int.min_eq_right hle, endOffset, hfirst, Int.zero_mul]
    exact dvd_zero limit

/-- With fewer items than the limit, pages are as long as there are items, and a page beside one at
a multiple of the limit begins between two multiples. -/
theorem off_grid_of_lt (htotal : 1 ≤ total) (hless : total < limit) {offset : Int}
    (hgrid : limit ∣ offset) (hne : offset ≠ 0) :
    ¬∀ page ∈ offsetsBefore offset total ++
      offsetsAfter offset total total (endOffset total total), limit ∣ page.2 := by
  have hnot : ¬limit ∣ total := by
    intro hdvd
    have hle := Int.le_of_dvd (by omega) hdvd
    omega
  rw [forall_linked_iff]
  rintro ⟨hbefore, hafter⟩
  rcases Int.lt_or_gt_of_ne hne with hnegative | hpositive
  · have hfar := Int.le_of_dvd (by omega) (Int.dvd_neg.2 hgrid)
    have hbounds := endOffset_bounds (by omega : 0 < total) total
    have hnext : min (offset + total) (endOffset total total) = offset + total := by omega
    have hdvd : limit ∣ min (offset + total) (endOffset total total) := (hafter (by omega)).1
    rw [hnext] at hdvd
    exact hnot ((dvd_add_right hgrid).1 hdvd)
  · have hfar := Int.le_of_dvd hpositive hgrid
    have hprev : max (offset - total) 0 = offset - total := by omega
    have hdvd : limit ∣ max (offset - total) 0 := (hbefore hpositive).2
    rw [hprev] at hdvd
    exact hnot ((dvd_sub_right hgrid).1 hdvd)

theorem linked_dvd_iff (htotal : 1 ≤ total) {offset : Int}
    (hgrid : limit ∣ offset) :
    (∀ page ∈ offsetsBefore offset (min limit total) ++
      offsetsAfter offset (min limit total) total (endOffset total (min limit total)),
        limit ∣ page.2) ↔ limit ≤ total ∨ offset = 0 := by
  constructor
  · intro hall
    by_contra hneither
    rw [not_or, Int.not_le] at hneither
    rw [Int.min_eq_right hneither.1.le] at hall
    exact off_grid_of_lt htotal hneither.1 hgrid hneither.2 hall
  · intro hcase
    have hlast : limit ∣ endOffset total (min limit total) := dvd_last htotal
    refine forall_linked_iff.2 ⟨fun hpositive => ⟨dvd_zero limit, ?_⟩, fun hmore => ⟨?_, hlast⟩⟩
    -- what is linked is linked by pages of the limit itself
    · have hmin : min limit total = limit := by omega
      rw [hmin]
      exact max_rec' (limit ∣ ·) (dvd_sub hgrid (dvd_refl limit)) (dvd_zero limit)
    · have hmin : min limit total = limit := by omega
      rw [hmin] at hlast ⊢
      exact min_rec' (limit ∣ ·) (dvd_add hgrid (dvd_refl limit)) hlast

/-- The first and the last page begin at multiples of the limit.  From a page that does so, all
linked pages do, and ask for as many items as this one, exactly if there are no fewer items than
the limit or this is the first page. -/
theorem links_on_page_grid_iff (hlimit : options.limit = some limit) (hpos : 1 ≤ limit)
    (htotal : 1 ≤ total) (hmax : total ≤ 2 ^ 53) (hgrid : limit ∣ options.skip.getD 0)
    {links : PageLinks} (h : build codec key query options base total = .ok (some links)) :
    ∃ linked, LeadTo codec key base query options total linked ∧
      links = linksTo codec key base query linked ∧
      (∀ page ∈ linked, ∀ k greatest, key ≠ k.limit →
        Options.readLimit k greatest (queryAt query key page.2) =
          Options.readLimit k greatest query) ∧
      (∀ page ∈ linked, page.1 = .first ∨ page.1 = .last → limit ∣ page.2) ∧
      ((∀ page ∈ linked, limit ∣ page.2) ↔ limit ≤ total ∨ options.skip.getD 0 = 0) := by
  obtain ⟨linked, hlead, hlinks⟩ := exists_leadTo h
  obtain rfl := linked_of_leadTo hlimit hpos htotal hmax hlead
  refine ⟨_, hlead, hlinks, ?_, ?_, linked_dvd_iff htotal hgrid⟩
  · exact fun _ _ _ _ hkey => Options.readLimit_insert hkey _
  · refine forall_linked_iff.2 ⟨fun _ => ⟨fun _ => dvd_zero limit, nofun⟩, fun _ => ⟨nofun, ?_⟩⟩
    exact fun _ => dvd_last htotal

theorem links_on_page_grid_middle : ∃ linked,
    LeadTo .flat "offset" "/items" [(.name "offset", .text "20"), (.name "limit", .text "10")]
        { skip := some 20, limit := some 10 } 95 linked ∧
      ∀ page ∈ linked, 10 ∣ page.2 := by
  obtain ⟨links, hlinks⟩ : ∃ links,
      build .flat "offset" [(.name "offset", .text "20"), (.name "limit", .text "10")]
        { skip := some 20, limit := some 10 } "/items" 95 = .ok (some links) := ⟨_, rfl⟩
  obtain ⟨linked, hlead, -, -, -, hgrid⟩ :=
    links_on_page_grid_iff rfl (by decide) (by decide) (by decide) (by decide) hlinks
  exact ⟨linked, hlead, hgrid.2 (by decide)⟩

/-- Eight items are one page of at most ten, and the page before the second one begins at the
third item. -/
theorem previous_page_between_pages :
    LeadTo .flat "offset" "" [] { skip := some 10, limit := some 10 } 8
        [(.first, 0), (.prev, 2)] ∧
      (10 : Int) ∣ 10 ∧ ¬(10 : Int) ∣ 2 := by
  exact ⟨leadTo_iff.2 ⟨by decide, rfl, by decide⟩, by decide, by decide⟩

end Links
end QueryCriteria
