import QueryCriteria.Config.Basic
import QueryCriteria.Config.Integer

/-!
Configurations built from settings on top of a base.  A setting replaces the whole value
that the base has under its name, and all settings are checked before any is refused, so
that a caller sees every problem at once, in the order of the configuration's parts.
-/
namespace QueryCriteria

/-- A value together with the problems found on the way to it. -/
structure Checked (α : Type) where
  value : α
  problems : List Problem

namespace Checked

def ok {α : Type} (value : α) : Checked α := { value, problems := [] }

/-- A value that stands in for one that could not be read. -/
def failed {α : Type} (value : α) (kind : ProblemKind) (place : List Place) : Checked α :=
  { value, problems := [{ kind, place }] }

end Checked

namespace Config

/-- Unknown names are reported after the known ones of their group. -/
def unknownProblems (place : List Place) (settings : Settings) (known : List String) :
    List Problem :=
  (settings.unknown known).map fun name =>
    { kind := .unknownName, place := place ++ [.name name] }

def checkKeyword (settings : Settings) (name fallback : String) : Checked String :=
  let place := [.name "keywords", .name name]
  match settings.get? name with
  | none => .ok fallback
  | some (.text s) => if s = "" then .failed fallback .emptyText place else .ok s
  | some _ => .failed fallback .noText place

def checkKeywords : Setting → Checked Keywords
  | .object entries =>
    let fields := checkKeyword entries "fields" "fields"
    let omitted := checkKeyword entries "omit" "omit"
    let sort := checkKeyword entries "sort" "sort"
    let offset := checkKeyword entries "offset" "offset"
    let limit := checkKeyword entries "limit" "limit"
    { value :=
        { fields := fields.value, omitted := omitted.value, sort := sort.value,
          offset := offset.value, limit := limit.value }
      problems :=
        fields.problems ++ omitted.problems ++ sort.problems ++ offset.problems ++
          limit.problems ++
          unknownProblems [.name "keywords"] entries ["fields", "omit", "sort", "offset", "limit"] }
  | _ => .failed {} (.noObject "Keywords") [.name "keywords"]

/-- The first of equal scalars stays. -/
def distinct : List Setting → List Setting
  | [] => []
  | item :: items => item :: (distinct items).filter fun other => other.label? ≠ item.label?

/-- The members of a set of names, counted from `n`. -/
def checkMembers : Nat → List Setting → Checked (List String)
  | _, [] => .ok []
  | n, item :: items =>
    let rest := checkMembers (n + 1) items
    match item with
    | .text s => { value := s :: rest.value, problems := rest.problems }
    | _ =>
      { value := rest.value
        problems := { kind := .noText, place := [.name "ignore", .index n] } :: rest.problems }

def checkIgnore : Setting → Checked Names
  | .null => .ok []
  | .text s => .ok [s]
  | .array items =>
    let members := checkMembers 0 (distinct items)
    { value := Names.ofList members.value, problems := members.problems }
  | .object entries => .ok (Names.ofList (entries.map (·.1)))
  | _ => .failed [] .noSet [.name "ignore"]

/-- A greatest limit has to be positive. -/
def checkPositive (n : Int) : Checked (Option Int) :=
  if 0 < n then .ok (some n) else .failed none .notPositive [.name "max_limit"]

def checkConverted : Except ProblemKind Int → Checked (Option Int)
  | .ok n => checkPositive n
  | .error kind => .failed none kind [.name "max_limit"]

def checkMaxLimit : Setting → Checked (Option Int)
  | .null => .ok none
  | .bool b => checkPositive (if b then 1 else 0)
  | .int n => checkPositive n
  | .float x => checkConverted (integerOfFloat x)
  | .text s => checkConverted (integerOfText s.toList)
  | _ => .failed none .noInteger [.name "max_limit"]

def checkCodec : Setting → Checked Codec
  | .text s =>
    if s = "flat" then .ok .flat
    else if s = "bracket" then .ok .bracket
    else .failed .flat .noCodec [.name "parser"]
  | _ => .failed .flat .noCodec [.name "parser"]

def switchOf? (text : String) : Option Bool :=
  let word := text.toList.map Char.toLower
  if (["0", "off", "f", "false", "n", "no"].map String.toList).contains word then some false
  else if (["1", "on", "t", "true", "y", "yes"].map String.toList).contains word then some true
  else none

/-- The switch that a number stands for, if it is 0 or 1. -/
def checkSwitchNumber (n : Int) (place : List Place) : Checked Bool :=
  if n = 0 then .ok false
  else if n = 1 then .ok true
  else .failed true .unreadableSwitch place

/-- A switch may be written as a truth value, as 0 or 1, or as one of some words.  A
number that is no integer of 64 bits is not even taken for one. -/
def checkSwitch (settings : Settings) (name : String) : Checked Bool :=
  let place := [.name "coerce", .name name]
  match settings.get? name with
  | none => .ok true
  | some (.bool b) => .ok b
  | some (.int n) =>
    if -(twoTo 63 : Int) ≤ n ∧ n < twoTo 63 then checkSwitchNumber n place
    else .failed true .noSwitch place
  | some (.float x) =>
    match integerOfFloat x with
    | .ok n => checkSwitchNumber n place
    | .error _ => .failed true .noSwitch place
  | some (.text s) =>
    match switchOf? s with
    | some b => .ok b
    | none => .failed true .unreadableSwitch place
  | some _ => .failed true .noSwitch place

def checkSwitches : Setting → Checked Switches
  | .object entries =>
    let regexes := checkSwitch entries "regexes"
    let booleans := checkSwitch entries "booleans"
    let dates := checkSwitch entries "dates"
    let numbers := checkSwitch entries "numbers"
    { value :=
        { regexes := regexes.value, booleans := booleans.value, dates := dates.value,
          numbers := numbers.value }
      problems :=
        regexes.problems ++ booleans.problems ++ dates.problems ++ numbers.problems ++
          unknownProblems [.name "coerce"] entries ["regexes", "booleans", "dates", "numbers"] }
  | _ => .failed {} (.noObject "CoercionOptions") [.name "coerce"]

/-- A part of the configuration: checked if there is a setting, else that of the base. -/
def part {α : Type} (settings : Settings) (name : String) (check : Setting → Checked α)
    (base : α) : Checked α :=
  match settings.get? name with
  | none => .ok base
  | some setting => check setting

/-- Whether the names to ignore hold a list or a mapping, which no set can hold. -/
def nestedIgnore? (settings : Settings) : Option Bool :=
  match settings.get? "ignore" with
  | some (.array items) =>
    (items.find? fun item => item.label?.isNone).map fun item =>
      match item with
      | .object _ => true
      | _ => false
  | _ => none

def check (base : Config) (settings : Settings) : Checked Config :=
  let keywords := part settings "keywords" checkKeywords base.keywords
  let ignore := part settings "ignore" checkIgnore base.ignore
  let maxLimit := part settings "max_limit" checkMaxLimit base.maxLimit
  let codec := part settings "codec" checkCodec base.codec
  let switches := part settings "coerce" checkSwitches base.switches
  { value :=
      { keywords := keywords.value, ignore := ignore.value, maxLimit := maxLimit.value,
        codec := codec.value, switches := switches.value }
    problems :=
      keywords.problems ++ ignore.problems ++ maxLimit.problems ++ codec.problems ++
        switches.problems ++
        unknownProblems [] settings ["keywords", "ignore", "max_limit", "codec", "coerce"] }

/-- The configuration that settings make of a base. -/
def build (base : Config) (settings : Settings) : Except ConfigError Config :=
  match nestedIgnore? settings with
  | some isMapping => .error (.nestedIgnore isMapping)
  | none =>
    match check base settings with
    | { value, problems := [] } => .ok value
    | { value := _, problems } => .error (.invalid problems)

/-- Settings in layers, the later ones on top. -/
def buildLayers (layers : List Settings) : Except ConfigError Config :=
  layers.foldlM build {}

end Config
end QueryCriteria
