import Mathlib.Data.List.Induction
import Mathlib.Data.String.Basic
import QueryCriteria.Proofs.Configuration

/-!
Settings in layers.  Building on top of a configuration that was itself built gives what building
at once gives from the settings of both, the later ones laid over the earlier: a part that the
later settings do not mention has been checked already and keeps its value.  `build_eq_ok_iff` says
what a successful build has checked, `build_overlay` is the step from one layer to the next, and a
run of layers follows by induction.  Written down again as settings, the values of a configuration
pass the same checks unchanged (`build_toSettings`).
-/
namespace QueryCriteria

namespace Settings

/-- The settings with later ones laid over them.  A later setting replaces the whole value that is
there under its name, and new names come behind. -/
def overlay (base later : Settings) : Settings :=
  (base.map fun entry => (entry.1, (later.get? entry.1).getD entry.2)) ++
    later.filter fun entry => !(base.map (·.1)).contains entry.1

/-- All layers laid over each other. -/
def merged (layers : List Settings) : Settings := layers.foldl overlay []

variable {base later settings : Settings} {name : String}

theorem get?_eq_none_iff : settings.get? name = none ↔ name ∉ settings.map (·.1) := by
  rw [get?, Option.map_eq_none_iff, List.find?_eq_none, List.mem_map]
  simp only [decide_eq_true_eq, not_exists, not_and]

theorem get?_append (settings more : Settings) (name : String) :
    get? (settings ++ more) name = (settings.get? name).or (more.get? name) := by
  rw [get?, List.find?_append, Option.map_or]
  rfl

theorem get?_map (f : String → Setting → Setting) (settings : Settings) (name : String) :
    get? (settings.map fun entry => (entry.1, f entry.1 entry.2)) name =
      (settings.get? name).map (f name) := by
  induction settings with
  | nil => rfl
  | cons entry settings ih =>
    by_cases h : entry.1 = name
    · simp [get?, h]
    · simpa [get?, h] using ih

theorem get?_filter {p : String → Bool} (h : p name = true) (settings : Settings) :
    get? (settings.filter fun entry => p entry.1) name = settings.get? name := by
  rw [get?, get?, List.find?_filter]
  congr 2
  funext entry
  by_cases hname : entry.1 = name
  · simp [hname, h]
  · simp [hname]

/-- The later setting of a name counts. -/
theorem get?_overlay (base later : Settings) (name : String) :
    (base.overlay later).get? name = (later.get? name).or (base.get? name) := by
  rw [overlay, get?_append, get?_map fun name setting => (later.get? name).getD setting]
  cases hbase : base.get? name with
  | none =>
    have hnew : (!(base.map (·.1)).contains name) = true := by
      simpa using get?_eq_none_iff.1 hbase
    rw [get?_filter (p := fun name => !(base.map (·.1)).contains name) hnew]
    exact (Option.or_none).symm
  | some setting => cases later.get? name <;> rfl

/-- Names that nobody knows can only be new ones, if the base has none. -/
theorem unknown_overlay {known : List String} (h : base.unknown known = []) (later : Settings) :
    (base.overlay later).unknown known = later.unknown known := by
  have hknown : ∀ name ∈ base.map (·.1), known.contains name = true := by
    intro name hname
    by_contra hnot
    have hmem : name ∈ base.unknown known := List.mem_filter.2 ⟨hname, by simpa using hnot⟩
    rw [h] at hmem
    cases hmem
  have hnames : (base.overlay later).map (·.1) =
      base.map (·.1) ++ (later.map (·.1)).filter (!(base.map (·.1)).contains ·) := by
    rw [overlay, List.map_append, List.map_map, List.filter_map]
    rfl
  rw [unknown, hnames, List.filter_append]
  have hbase : (base.map (·.1)).filter (!known.contains ·) = [] := h
  rw [hbase, List.nil_append, List.filter_filter]
  -- a new name is no longer asked whether the base has it: all names there are known
  refine List.filter_congr fun name _ => ?_
  by_cases hbase : name ∈ base.map (·.1)
  · rw [hknown name hbase]
    rfl
  · simp [hbase]

theorem merged_concat (layers : List Settings) (later : Settings) :
    merged (layers ++ [later]) = (merged layers).overlay later := by
  rw [merged, List.foldl_append]
  rfl

/-- Of all layers the last one that has the name counts. -/
theorem get?_merged (layers : List Settings) (name : String) :
    (merged layers).get? name = layers.reverse.findSome? (·.get? name) := by
  induction layers using List.reverseRecOn with
  | nil => rfl
  | append_singleton layers later ih =>
    rw [merged_concat, get?_overlay, ih, List.reverse_append]
    cases h : later.get? name with
    | none => simp [h]
    | some setting => simp [h]

end Settings

/-! ### Sets of names -/

namespace Names

/-- A set stays in increasing order. -/
theorem pairwise_insert {names : Names} (h : names.Pairwise (· < ·)) (name : String) :
    (insert name names).Pairwise (· < ·) := by
  induction names with
  | nil => exact List.pairwise_singleton _ name
  | cons other names ih =>
    rw [List.pairwise_cons] at h
    unfold insert
    split
    · exact List.pairwise_cons.2 h
    · next hne =>
      split
      · next hlt =>
        refine List.pairwise_cons.2 ⟨fun x hx => ?_, List.pairwise_cons.2 h⟩
        rcases List.mem_cons.1 hx with rfl | hx
        · exact hlt
        · exact lt_trans hlt (h.1 x hx)
      · next hnlt =>
        have hlt : other < name := lt_of_le_of_ne (not_lt.1 hnlt) (Ne.symm hne)
        refine List.pairwise_cons.2 ⟨fun x hx => ?_, ih h.2⟩
        rcases mem_insert.1 hx with rfl | hx
        · exact hlt
        · exact h.1 x hx

theorem pairwise_ofList (names : List String) : (ofList names).Pairwise (· < ·) := by
  induction names with
  | nil => exact List.Pairwise.nil
  | cons name names ih => exact pairwise_insert ih name

theorem insert_of_forall_lt {name : String} {names : Names} (h : ∀ other ∈ names, name < other) :
    insert name names = name :: names := by
  cases names with
  | nil => rfl
  | cons other names =>
    have hlt : name < other := h other List.mem_cons_self
    rw [insert, if_neg (ne_of_lt hlt), if_pos hlt]

/-- A list that is in increasing order is the set of its members. -/
theorem ofList_of_pairwise {names : Names} (h : names.Pairwise (· < ·)) : ofList names = names := by
  induction names with
  | nil => rfl
  | cons name names ih =>
    rw [List.pairwise_cons] at h
    show insert name (ofList names) = _
    rw [ih h.2, insert_of_forall_lt h.1]

end Names

theorem Checked.eq_ok_iff {α : Type} {x : Checked α} {v : α} :
    x = .ok v ↔ x.value = v ∧ x.problems = [] := by
  obtain ⟨value, problems⟩ := x
  rw [Checked.ok, Checked.mk.injEq]

namespace Config

variable {base c : Config} {settings : Settings}

/-! ### What building checks -/

/-- Building succeeds: each part comes out of its check without a problem. -/
structure Builds (base : Config) (settings : Settings) (c : Config) : Prop where
  keywords : part settings "keywords" checkKeywords base.keywords = .ok c.keywords
  ignore : part settings "ignore" checkIgnore base.ignore = .ok c.ignore
  maxLimit : part settings "max_limit" checkMaxLimit base.maxLimit = .ok c.maxLimit
  codec : part settings "codec" checkCodec base.codec = .ok c.codec
  switches : part settings "coerce" checkSwitches base.switches = .ok c.switches
  known : settings.unknown ["keywords", "ignore", "max_limit", "codec", "coerce"] = []
  plainIgnore : nestedIgnore? settings = none

theorem builds_iff : Builds base settings c ↔
    nestedIgnore? settings = none ∧ check base settings = .ok c := by
  constructor
  · intro h
    refine ⟨h.plainIgnore, ?_⟩
    unfold check
    rw [h.keywords, h.ignore, h.maxLimit, h.codec, h.switches, unknownProblems, h.known]
    rfl
  · rintro ⟨hignore, hcheck⟩
    obtain ⟨rfl, hproblems⟩ := Checked.eq_ok_iff.1 hcheck
    simp only [check, List.append_eq_nil_iff, unknownProblems, List.map_eq_nil_iff] at hproblems
    obtain ⟨⟨⟨⟨⟨hkeywords, hnames⟩, hmax⟩, hcodec⟩, hswitches⟩, hknown⟩ := hproblems
    exact
      { keywords := Checked.eq_ok_iff.2 ⟨rfl, hkeywords⟩
        ignore := Checked.eq_ok_iff.2 ⟨rfl, hnames⟩
        maxLimit := Checked.eq_ok_iff.2 ⟨rfl, hmax⟩
        codec := Checked.eq_ok_iff.2 ⟨rfl, hcodec⟩
        switches := Checked.eq_ok_iff.2 ⟨rfl, hswitches⟩
        known := hknown
        plainIgnore := hignore }

theorem build_eq_ok_iff : build base settings = .ok c ↔ Builds base settings c := by
  rw [builds_iff]
  unfold build
  split
  · next hignore => exact ⟨nofun, fun h => absurd (hignore.symm.trans h.1) nofun⟩
  · next hignore =>
    split
    · next value hcheck =>
      rw [hcheck, Except.ok.injEq]
      exact ⟨fun h => ⟨hignore, congrArg Checked.ok h⟩, fun h => (Checked.eq_ok_iff.1 h.2).1⟩
    · next problems hne hcheck =>
      refine ⟨nofun, fun h => ?_⟩
      exact absurd (Checked.eq_ok_iff.1 (hcheck.symm.trans h.2)).2 hne

theorem part_problems {α : Type} (settings : Settings) (name : String)
    (check : Setting → Checked α) (v w : α) :
    (part settings name check v).problems = (part settings name check w).problems := by
  unfold part
  cases settings.get? name <;> rfl

/-- What is wrong with settings does not depend on what they are put on. -/
theorem check_problems (base c : Config) (settings : Settings) :
    (check base settings).problems = (check c settings).problems := by
  unfold check
  dsimp only
  rw [part_problems settings "keywords" checkKeywords base.keywords c.keywords,
    part_problems settings "ignore" checkIgnore base.ignore c.ignore,
    part_problems settings "max_limit" checkMaxLimit base.maxLimit c.maxLimit,
    part_problems settings "codec" checkCodec base.codec c.codec,
    part_problems settings "coerce" checkSwitches base.switches c.switches]

/-- Settings are refused on every configuration or on none, and for the same problems. -/
theorem build_eq_error_iff (base c : Config) (settings : Settings) (e : ConfigError) :
    build base settings = .error e ↔ build c settings = .error e := by
  unfold build
  cases nestedIgnore? settings with
  | some isMapping => exact Iff.rfl
  | none =>
    have hproblems := check_problems base c settings
    cases hbase : check base settings with
    | mk value problems =>
      cases hc : check c settings with
      | mk other others =>
        rw [hbase, hc] at hproblems
        obtain rfl : problems = others := hproblems
        cases problems with
        | nil => exact iff_of_false nofun nofun
        | cons problem problems => exact Iff.rfl

/-! ### Layers -/

theorem part_overlay {α : Type} {name : String} {check : Setting → Checked α} {value built : α}
    (h : part settings name check value = .ok built) (later : Settings) :
    part (settings.overlay later) name check value = part later name check built := by
  unfold part at h ⊢
  rw [Settings.get?_overlay]
  cases later.get? name with
  | none => exact h
  | some setting => rfl

theorem nestedIgnore?_overlay (h : nestedIgnore? settings = none) (later : Settings) :
    nestedIgnore? (settings.overlay later) = nestedIgnore? later := by
  unfold nestedIgnore? at h ⊢
  rw [Settings.get?_overlay]
  cases later.get? "ignore" with
  | none => exact h
  | some setting => rfl

/-- Later settings on top of a configuration do what they do on top of its own settings. -/
theorem build_overlay (h : build base settings = .ok c) (later : Settings) :
    build c later = build base (settings.overlay later) := by
  have hbuilds := build_eq_ok_iff.1 h
  have hcheck : check base (settings.overlay later) = check c later := by
    unfold check unknownProblems
    rw [part_overlay hbuilds.keywords, part_overlay hbuilds.ignore, part_overlay hbuilds.maxLimit,
      part_overlay hbuilds.codec, part_overlay hbuilds.switches,
      Settings.unknown_overlay hbuilds.known]
  rw [build, build, nestedIgnore?_overlay hbuilds.plainIgnore, hcheck]

/-- The settings that built `mid` take in one layer after the other. -/
theorem foldlM_overlay {layers : List Settings} {mid : Config} (h : build base settings = .ok mid)
    (hlayers : layers.foldlM build mid = .ok c) :
    build base (layers.foldl Settings.overlay settings) = .ok c := by
  induction layers generalizing settings mid with
  | nil =>
    obtain rfl := Except.ok.inj hlayers
    exact h
  | cons later layers ih =>
    rw [List.foldlM_cons] at hlayers
    obtain ⟨next, hnext, hrest⟩ := Fallible.bind_eq_ok_iff.1 hlayers
    exact ih ((build_overlay h later).symm.trans hnext) hrest

theorem exists_build_iff (base c : Config) (settings : Settings) :
    (∃ built, build base settings = .ok built) ↔ ∃ built, build c settings = .ok built := by
  have herror := build_eq_error_iff base c settings
  cases hbase : build base settings with
  | error e =>
    rw [(herror e).1 hbase]
  | ok built =>
    cases hc : build c settings with
    | error e => exact absurd (hbase.symm.trans ((herror e).2 hc)) nofun
    | ok other => exact iff_of_true ⟨built, rfl⟩ ⟨other, rfl⟩

/-- Layers build together exactly if each of them builds by itself. -/
theorem exists_foldlM_iff (base : Config) (layers : List Settings) :
    (∃ c, layers.foldlM build base = .ok c) ↔ ∀ layer ∈ layers, ∃ c, build {} layer = .ok c := by
  induction layers generalizing base with
  | nil => exact iff_of_true ⟨base, rfl⟩ nofun
  | cons layer layers ih =>
    rw [List.forall_mem_cons, List.foldlM_cons]
    constructor
    · rintro ⟨c, hc⟩
      obtain ⟨next, hnext, hrest⟩ := Fallible.bind_eq_ok_iff.1 hc
      exact ⟨(exists_build_iff base {} layer).1 ⟨next, hnext⟩, (ih next).1 ⟨c, hrest⟩⟩
    · rintro ⟨hlayer, hlayers⟩
      obtain ⟨next, hnext⟩ := (exists_build_iff base {} layer).2 hlayer
      obtain ⟨c, hc⟩ := (ih next).2 hlayers
      exact ⟨c, Fallible.bind_eq_ok_iff.2 ⟨next, hnext, hc⟩⟩

/-! ### The settings of a configuration -/

def codecText : Codec → String
  | .flat => "flat"
  | .bracket => "bracket"

/-- The values of a configuration, written as settings. -/
def toSettings (c : Config) : Settings :=
  [("keywords", .object
      [("fields", .text c.keywords.fields), ("omit", .text c.keywords.omitted),
        ("sort", .text c.keywords.sort), ("offset", .text c.keywords.offset),
        ("limit", .text c.keywords.limit)]),
    ("ignore", .array (c.ignore.map Setting.text)),
    ("max_limit", (c.maxLimit.map Setting.int).getD .null),
    ("codec", .text (codecText c.codec)),
    ("coerce", .object
      [("regexes", .bool c.switches.regexes), ("booleans", .bool c.switches.booleans),
        ("dates", .bool c.switches.dates), ("numbers", .bool c.switches.numbers)])]

theorem checkKeyword_text {name fallback s : String} (h : settings.get? name = some (.text s))
    (hs : s ≠ "") : checkKeyword settings name fallback = .ok s := by
  unfold checkKeyword
  rw [h]
  exact if_neg hs

theorem distinct_texts {names : List String} (h : names.Nodup) :
    distinct (names.map Setting.text) = names.map Setting.text := by
  induction names with
  | nil => rfl
  | cons name names ih =>
    rw [List.nodup_cons] at h
    rw [List.map_cons, distinct, ih h.2, List.filter_eq_self.2]
    intro other hother
    obtain ⟨text, htext, rfl⟩ := List.mem_map.1 hother
    have hne : text ≠ name := fun heq => h.1 (heq ▸ htext)
    simpa [Setting.label?] using hne

theorem checkMembers_texts (n : Nat) (names : List String) :
    checkMembers n (names.map Setting.text) = .ok names := by
  induction names generalizing n with
  | nil => rfl
  | cons name names ih =>
    rw [List.map_cons, checkMembers, ih]
    rfl

theorem checkIgnore_texts {names : Names} (h : names.Pairwise (· < ·)) :
    checkIgnore (.array (names.map Setting.text)) = .ok names := by
  have hnodup : names.Nodup := h.imp fun hlt => ne_of_lt hlt
  unfold checkIgnore
  dsimp only
  rw [distinct_texts hnodup, checkMembers_texts]
  exact congrArg Checked.ok (Names.ofList_of_pairwise h)

theorem checkIgnore_pairwise (setting : Setting) :
    (checkIgnore setting).value.Pairwise (· < ·) := by
  unfold checkIgnore
  split
  · exact List.Pairwise.nil
  · exact List.pairwise_singleton _ _
  · exact Names.pairwise_ofList _
  · exact Names.pairwise_ofList _
  · exact List.Pairwise.nil

theorem pairwise_ignore_of_build (hb : base.ignore.Pairwise (· < ·))
    (h : build base settings = .ok c) : c.ignore.Pairwise (· < ·) := by
  have hignore := (Checked.eq_ok_iff.1 (build_eq_ok_iff.1 h).ignore).1
  rw [← hignore]
  exact part_of_forall (P := fun names : Names => names.Pairwise (· < ·)) hb checkIgnore_pairwise

theorem checkKeywords_text {k : Keywords} (h : ∀ name ∈ k.names, name ≠ "") :
    checkKeywords (.object
      [("fields", .text k.fields), ("omit", .text k.omitted), ("sort", .text k.sort),
        ("offset", .text k.offset), ("limit", .text k.limit)]) = .ok k := by
  simp only [Keywords.names, List.forall_mem_cons] at h
  obtain ⟨hfields, homitted, hsort, hoffset, hlimit, -⟩ := h
  unfold checkKeywords
  dsimp only
  rw [checkKeyword_text rfl hfields, checkKeyword_text rfl homitted, checkKeyword_text rfl hsort,
    checkKeyword_text rfl hoffset, checkKeyword_text rfl hlimit]
  rfl

theorem checkMaxLimit_int {n : Int} (h : 0 < n) : checkMaxLimit (.int n) = .ok (some n) :=
  if_pos h

theorem nestedIgnore?_texts {names : List String}
    (h : settings.get? "ignore" = some (.array (names.map Setting.text))) :
    nestedIgnore? settings = none := by
  unfold nestedIgnore?
  rw [h]
  dsimp only
  rw [Option.map_eq_none_iff, List.find?_eq_none]
  intro item hitem
  obtain ⟨name, -, rfl⟩ := List.mem_map.1 hitem
  exact nofun

/-- A configuration passes its own checks unchanged. -/
theorem build_toSettings (hv : c.Valid) (hignore : c.ignore.Pairwise (· < ·)) :
    build {} c.toSettings = .ok c := by
  refine build_eq_ok_iff.2 ⟨checkKeywords_text hv.keywords, checkIgnore_texts hignore, ?_, ?_, rfl,
    rfl, nestedIgnore?_texts rfl⟩
  · show checkMaxLimit ((c.maxLimit.map Setting.int).getD .null) = .ok c.maxLimit
    cases hmax : c.maxLimit with
    | none => rfl
    | some n => exact checkMaxLimit_int (hv.maxLimit n hmax)
  · show checkCodec (.text (codecText c.codec)) = .ok c.codec
    cases c.codec <;> rfl

/-- Building in layers gives what one build gives in which the last setting of each name counts as a
whole.  For two layers, also where the upper one is refused, the outcome is that of the upper one
laid over the lower one, or over the values of the configuration that the lower one built; and what
is refused, and why, is decided by the upper one alone. -/
theorem layers_compose :
    (∀ (lower : Settings) (c : Config), build {} lower = .ok c →
      build {} c.toSettings = .ok c ∧ ∀ upper : Settings,
        build c upper = build {} (lower.overlay upper) ∧
        build c upper = build {} (c.toSettings.overlay upper) ∧
        ∀ e, build c upper = .error e ↔ build {} upper = .error e) ∧
    (∀ layers : List Settings,
      ((∃ c, buildLayers layers = .ok c) ↔ ∀ layer ∈ layers, ∃ c, build {} layer = .ok c) ∧
      ∀ c, buildLayers layers = .ok c → build {} (Settings.merged layers) = .ok c) ∧
    ∀ (layers : List Settings) (name : String),
      (Settings.merged layers).get? name = layers.reverse.findSome? (·.get? name) := by
  have hnone : build {} [] = .ok {} := rfl
  have hmerged : ∀ layers c, buildLayers layers = .ok c →
      build {} (Settings.merged layers) = .ok c := fun layers c h => foldlM_overlay hnone h
  refine ⟨fun lower c hlower => ?_,
    fun layers => ⟨exists_foldlM_iff {} layers, hmerged layers⟩, Settings.get?_merged⟩
  have hself : build {} c.toSettings = .ok c :=
    build_toSettings (valid_of_build valid_default hlower)
      (pairwise_ignore_of_build List.Pairwise.nil hlower)
  exact ⟨hself, fun upper => ⟨build_overlay hlower upper, build_overlay hself upper,
    build_eq_error_iff c {} upper⟩⟩

/-- Names to ignore, given out of order, and a truth value for the greatest limit. -/
def lowerLayer : Settings :=
  [("ignore", .array [.text "b", .text "a"]), ("max_limit", .bool true)]

/-- Another name for one keyword, and nothing to ignore. -/
def upperLayer : Settings :=
  [("keywords", .object [("limit", .text "$limit")]), ("ignore", .null)]

theorem layers_compose_two :
    build { ignore := ["a", "b"], maxLimit := some 1 } upperLayer =
      build {}
        [("ignore", .null), ("max_limit", .bool true),
          ("keywords", .object [("limit", .text "$limit")])] ∧
    build {} (Settings.merged [lowerLayer, upperLayer]) =
      .ok { keywords := { limit := "$limit" }, maxLimit := some 1 } := by
  obtain ⟨htwo, hlayers, -⟩ := layers_compose
  have hlower : build {} lowerLayer = .ok { ignore := ["a", "b"], maxLimit := some 1 } := rfl
  exact ⟨((htwo lowerLayer _ hlower).2 upperLayer).1, (hlayers [lowerLayer, upperLayer]).2 _ rfl⟩

end Config
end QueryCriteria
