import QueryCriteria.Proofs.Configuration
import QueryCriteria.Proofs.Criteria
import QueryCriteria.Proofs.Fallible
import QueryCriteria.Proofs.Parameters
import QueryCriteria.Proofs.Quotient
import QueryCriteria.Selection

/-!
Links to other pages.  Every link is made on a working copy that the links before it have
changed, but only in its offset, so that each link is the link of the query itself at
another offset.  Read again, it gives the same selection with that offset.
-/
namespace QueryCriteria

namespace Links

variable {codec : Codec} {key base : String}

/-! ### The working copy -/

theorem queryAt_queryAt (query : Query) (key : String) (a b : Int) :
    queryAt (queryAt query key a) key b = queryAt query key b :=
  Entries.insert_insert id _ _ _ query

/-- Links do not depend on the links that were made before them: the working copy differs
from the query only in its offset. -/
theorem write_eq {working : Query} {pages : List (PageRelation × Int)} {result : Query × PageLinks}
    (h : write codec key base working pages = .ok result) :
    (∀ page ∈ pages, isWritable page.2 = true) ∧
    (∀ offset, queryAt result.1 key offset = queryAt working key offset) ∧
    result.2 = pages.map fun page =>
      (page.1, linkTo codec base (queryAt working key page.2)) := by
  induction pages generalizing working result with
  | nil =>
    obtain rfl := Except.ok.inj h
    exact ⟨by simp, fun _ => rfl, rfl⟩
  | cons page pages ih =>
    obtain ⟨relation, offset⟩ := page
    rw [write] at h
    simp only at h
    split at h
    · next hwritable =>
      obtain ⟨rest, hrest, rfl⟩ := Fallible.map_eq_ok_iff.1 h
      obtain ⟨hall, hworking, hlinks⟩ := ih hrest
      refine ⟨?_, ?_, ?_⟩
      · intro page hp
        rcases List.mem_cons.1 hp with rfl | hp
        · exact hwritable
        · exact hall page hp
      · intro other
        rw [← queryAt_queryAt working key offset other]
        exact hworking other
      · show (relation, linkTo codec base (queryAt working key offset)) :: rest.2 = _
        rw [hlinks, List.map_cons]
        refine congrArg _ (List.map_congr_left fun page _ => ?_)
        rw [queryAt_queryAt]
    · cases h

theorem linkTo_eq (query : Query) :
    linkTo codec base query = base ++ "?" ++ codec.stringify query := by
  apply String.toList_injective
  rw [linkTo, String.toList_ofList, String.toList_append, String.toList_append, List.append_assoc]
  rfl

/-! ### Offsets in links -/

/-- The pages that are linked, with their offsets. -/
def pages (options : Options) (total : Int) : Except Fault (List (PageRelation × Int)) :=
  let offset := options.skip.getD 0
  let size := pageSize options total
  (lastOffset (max 0 total) size).map fun last =>
    offsetsBefore offset size ++ offsetsAfter offset size (max 0 total) last

/-- The links are those of the query itself at the offsets of the pages. -/
theorem build_eq {query : Query} {options : Options} {total : Int} {links : PageLinks}
    (h : build codec key query options base total = .ok (some links)) :
    pageSize options total ≠ 0 ∧ ∃ linked, pages options total = .ok linked ∧
      (∀ page ∈ linked, isWritable page.2 = true) ∧
      links = linked.map fun page => (page.1, linkTo codec base (queryAt query key page.2)) := by
  unfold build at h
  simp only at h
  split at h
  · cases h
  · next hsize =>
    obtain ⟨⟨working, before⟩, hbefore, h⟩ := Fallible.bind_eq_ok_iff.1 h
    obtain ⟨last, hlast, h⟩ := Fallible.bind_eq_ok_iff.1 h
    obtain ⟨⟨final, after⟩, hafter, h⟩ := Fallible.map_eq_ok_iff.1 h
    obtain rfl := Option.some.inj h
    obtain ⟨hall, hworking, hlinks⟩ := write_eq hbefore
    obtain ⟨hall', -, hlinks'⟩ := write_eq hafter
    refine ⟨hsize, _, Fallible.map_eq_ok_iff.2 ⟨last, hlast, rfl⟩, ?_, ?_⟩
    · intro page hp
      rcases List.mem_append.1 hp with hp | hp
      · exact hall page hp
      · exact hall' page hp
    · rw [List.map_append, ← hlinks]
      refine congrArg (before ++ ·) (hlinks'.trans (List.map_congr_left fun page _ => ?_))
      rw [hworking]

theorem lastOffset_nonneg {total size last : Int} (hsize : 0 < size) (htotal : size ≤ total)
    (h : lastOffset total size = .ok last) : 0 ≤ last := by
  unfold lastOffset pageCount? at h
  split at h
  · cases h
  · next count hcount =>
    have hpos := Binary64.ceil?_ofQuotient_pos hsize htotal hcount
    obtain rfl := Except.ok.inj h
    exact Int.mul_nonneg (by omega) (by omega)

/-- A page has items, and no more than there are. -/
theorem pageSize_bounds {options : Options} {total : Int}
    (hlimit : ∀ n, options.limit = some n → 0 < n) (hsize : pageSize options total ≠ 0) :
    0 < pageSize options total ∧ pageSize options total ≤ max 0 total := by
  unfold pageSize at hsize ⊢
  cases hl : options.limit with
  | none =>
    rw [hl, Option.getD_none] at hsize
    omega
  | some n =>
    have hn := hlimit n hl
    rw [hl, Option.getD_some] at hsize
    rw [Option.getD_some]
    omega

theorem offsetsBefore_nonneg {offset size : Int} {page : PageRelation × Int}
    (h : page ∈ offsetsBefore offset size) : 0 ≤ page.2 := by
  unfold offsetsBefore at h
  split at h
  · simp only [List.mem_cons, List.not_mem_nil, or_false] at h
    rcases h with rfl | rfl
    · exact Int.le_refl 0
    · show 0 ≤ max _ 0
      omega
  · cases h

theorem offsetsAfter_nonneg {offset size total last : Int} (ho : 0 ≤ offset) (hs : 0 < size)
    (hl : 0 ≤ last) {page : PageRelation × Int} (h : page ∈ offsetsAfter offset size total last) :
    0 ≤ page.2 := by
  unfold offsetsAfter at h
  split at h
  · simp only [List.mem_cons, List.not_mem_nil, or_false] at h
    rcases h with rfl | rfl
    · show 0 ≤ min _ last
      omega
    · exact hl
  · cases h

/-- No page starts before the first item. -/
theorem pages_nonneg {options : Options} {total : Int} {linked : List (PageRelation × Int)}
    (hlimit : ∀ n, options.limit = some n → 0 < n) (hskip : ∀ n, options.skip = some n → 0 ≤ n)
    (hsize : pageSize options total ≠ 0) (h : pages options total = .ok linked) :
    ∀ page ∈ linked, 0 ≤ page.2 := by
  have hoffset : 0 ≤ options.skip.getD 0 := by
    cases hs : options.skip with
    | none => exact Int.le_refl 0
    | some n => exact hskip n hs
  obtain ⟨hpos, hle⟩ := pageSize_bounds hlimit hsize
  obtain ⟨last, hlast, rfl⟩ := Fallible.map_eq_ok_iff.1 h
  intro page hp
  rcases List.mem_append.1 hp with hp | hp
  · exact offsetsBefore_nonneg hp
  · exact offsetsAfter_nonneg hoffset hpos (lastOffset_nonneg hpos hle hlast) hp

end Links

namespace Selection

variable {c : Config} {s : Selection} {notices : List Notice}

/-- The same selection at another offset. -/
def atOffset (s : Selection) (offset : Int) : Selection :=
  { s with
    options := { s.options with skip := some offset }
    query := Links.queryAt s.query s.config.keywords.offset offset }

/-- A query with another offset makes the same selection at that offset. -/
theorem ofQuery_queryAt (hkey : c.keywords.offset ∉
      [c.keywords.fields, c.keywords.omitted, c.keywords.sort, c.keywords.limit])
    {query : Query} (h : ofQuery c query = .ok (s, notices)) {offset : Int} (hn : 0 ≤ offset)
    (hw : isWritable offset = true) :
    ∃ notices', ofQuery c (Links.queryAt query c.keywords.offset offset) =
      .ok (s.atOffset offset, notices') := by
  obtain ⟨⟨dropped, hcriteria⟩, hwritable, hoptions, hquery, hconfig⟩ := ofQuery_eq h
  have hignored : c.keywords.offset ∈ c.ignoredFields :=
    Config.mem_ignoredFields.2 (.inr (by simp [Keywords.names]))
  have hsame : (Links.queryAt query c.keywords.offset offset).criteria c.switches c.ignoredFields =
      .ok (s.criteria, dropped) :=
    (Query.criteria_insert_ignored hignored query _).trans hcriteria
  have hread : Options.ofQuery c.keywords c.maxLimit
      (Links.queryAt query c.keywords.offset offset) =
      .ok ({ s.options with skip := some offset },
        (Options.readLimit c.keywords c.maxLimit query).2) := by
    rw [hoptions, Options.ofQuery_eq_ok_iff]
    exact ⟨fun n hn => hwritable n (Options.mem_integers_of_insert_offset hkey hn),
      Options.read_insert_offset hkey c.maxLimit hn hw⟩
  unfold ofQuery
  rw [hsame]
  show ∃ notices', (Options.ofQuery c.keywords c.maxLimit _).map _ = _
  rw [hread, atOffset, hquery, hconfig]
  exact ⟨_, rfl⟩

/-- The offsets of pages that are linked can be read back. -/
theorem nonneg_of_pages (hc : c.Valid) {query : Query} (h : ofQuery c query = .ok (s, notices))
    {total : Int} (hsize : Links.pageSize s.options total ≠ 0) {linked : List (PageRelation × Int)}
    (hlinked : Links.pages s.options total = .ok linked) : ∀ page ∈ linked, 0 ≤ page.2 := by
  obtain ⟨-, -, hoptions, -, -⟩ := ofQuery_eq h
  refine Links.pages_nonneg ?_ ?_ hsize hlinked
  · intro n hn
    rw [hoptions] at hn
    exact Options.readLimit_pos hc.maxLimit hn
  · intro n hn
    rw [hoptions] at hn
    exact Options.readSkip_nonneg hn

theorem ofText_flat (h : c.codec = .flat) (text : String) :
    ofText c text = ofQuery c (Flat.parse text.toList) := by
  rw [ofText, h]
  rfl

/-- A page link changes only the offset.  Whatever links are made before it, it is the text
of the query that was read with the offset of its page, that text is read as this query, and
it makes the same selection at that offset. -/
theorem page_links_change_only_offset (hc : c.Valid) (hflat : c.codec = .flat)
    (hkey : c.keywords.offset ∉
      [c.keywords.fields, c.keywords.omitted, c.keywords.sort, c.keywords.limit])
    {text base : String} {total : Int} (hs : ofText c text = .ok (s, notices))
    {links : PageLinks} (hlinks : s.links base total = .ok (some links)) :
    s.query = Flat.parse text.toList ∧
    ∃ linked, Links.pages s.options total = .ok linked ∧
      links = linked.map (fun page => (page.1, base ++ "?" ++
        c.codec.stringify (Links.queryAt s.query c.keywords.offset page.2))) ∧
      ∀ page ∈ linked,
        c.codec.parse (c.codec.stringify (Links.queryAt s.query c.keywords.offset page.2)) =
          .ok (Links.queryAt s.query c.keywords.offset page.2) ∧
        ∃ notices', ofText c
          (c.codec.stringify (Links.queryAt s.query c.keywords.offset page.2)) =
            .ok (s.atOffset page.2, notices') := by
  have hofQuery : ofQuery c (Flat.parse text.toList) = .ok (s, notices) :=
    (ofText_flat hflat text).symm.trans hs
  obtain ⟨-, -, -, hquery, hconfig⟩ := ofQuery_eq hofQuery
  obtain ⟨hsize, linked, hlinked, hwritable, hmap⟩ := Links.build_eq hlinks
  have hnonneg := nonneg_of_pages hc hofQuery hsize hlinked
  have hparse : ∀ offset,
      c.codec.parse (c.codec.stringify (Links.queryAt s.query c.keywords.offset offset)) =
        .ok (Links.queryAt s.query c.keywords.offset offset) := by
    intro offset
    rw [hflat, hquery]
    show Except.ok (Flat.parse (String.ofList _).toList) = _
    rw [String.toList_ofList]
    exact congrArg Except.ok (Flat.parse_stringify_insert text.toList _ _)
  refine ⟨hquery, linked, hlinked, ?_, ?_⟩
  · rw [hmap, hconfig]
    refine List.map_congr_left fun page _ => ?_
    rw [Links.linkTo_eq]
  · intro page hp
    refine ⟨hparse page.2, ?_⟩
    have hread := ofQuery_queryAt hkey hofQuery (hnonneg page hp) (hwritable page hp)
    rw [ofText, hparse]
    rwa [← hquery] at hread

/-- The third page of two items each. -/
def thirdPage : Selection :=
  { criteria := [(.field "a", .map [(.comparison .is, .bool true)])]
    options := { skip := some 4, limit := some 2 }
    query := [(.name "a", .text ""), (.name "offset", .text "4"), (.name "limit", .text "2")]
    config := {} }

theorem page_links_third_page :
    ∃ s links linked, ofText {} "a&offset=4&limit=2" = .ok (s, []) ∧
      s.links "/items" 7 = .ok (some links) ∧
      links.map (·.2) = ["/items?a=&offset=0&limit=2", "/items?a=&offset=2&limit=2",
        "/items?a=&offset=6&limit=2", "/items?a=&offset=6&limit=2"] ∧
      Links.pages s.options 7 = .ok linked ∧
      ∀ page ∈ linked, ∃ notices', ofText {}
        (Codec.flat.stringify (Links.queryAt s.query "offset" page.2)) =
          .ok (s.atOffset page.2, notices') := by
  have hparse : Flat.parse "a&offset=4&limit=2".toList = thirdPage.query := rfl
  have hs : ofText {} "a&offset=4&limit=2" = .ok (thirdPage, []) := by
    rw [ofText_flat rfl, hparse]
    rfl
  obtain ⟨links, hlinks, htexts⟩ : ∃ links, thirdPage.links "/items" 7 = .ok (some links) ∧
      links.map (·.2) = ["/items?a=&offset=0&limit=2", "/items?a=&offset=2&limit=2",
        "/items?a=&offset=6&limit=2", "/items?a=&offset=6&limit=2"] := ⟨_, rfl, by decide⟩
  obtain ⟨-, linked, hlinked, -, hall⟩ :=
    page_links_change_only_offset Config.valid_default rfl (by decide) hs hlinks
  exact ⟨thirdPage, links, linked, hs, hlinks, htexts, hlinked, fun page hp => (hall page hp).2⟩

end Selection
end QueryCriteria
