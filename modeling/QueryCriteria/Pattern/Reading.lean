import QueryCriteria.Text.Identifier
import QueryCriteria.Pattern.CharacterClass
import QueryCriteria.Pattern.Flags
import QueryCriteria.Pattern.Quantifier
import QueryCriteria.Pattern.Width

/-!
Reading a regular expression.  A `Reading` holds the groups that are open, innermost
first, and for each of them the widths of what has been read so far; `step?` reads one
item or opens or closes one group, and refuses what has no meaning.  Nothing is kept of
an expression but whether it can be read, the flags that hold for the whole of it and how
far it looks behind.
-/
namespace QueryCriteria
namespace Pattern

/-- What an item is to a quantifier after it. -/
inductive ItemKind where
  | place
  | quantified
  | repeatable
  deriving DecidableEq

/-- What was opened, and so what closing it does. -/
inductive Opening where
  | whole
  /-- A numbered group, counted from one. -/
  | capture (number : Nat)
  | grouping
  | lookAhead
  /-- A look-behind, with the number that bounded group references outside of it. -/
  | lookBehind (outer : Option Nat)
  | condition

structure Level where
  opening : Opening
  /-- Whether white space and comments are skipped. -/
  spaced : Bool
  /-- The width of the alternatives that are finished. -/
  finished : Option Width
  alternatives : Nat
  /-- The width of the items before the last one. -/
  before : Width
  last : Option (ItemKind × Width)

namespace Level

def start (opening : Opening) (spaced : Bool) : Level :=
  { opening := opening, spaced := spaced, finished := none, alternatives := 0,
    before := Width.zero, last := none }

def sequenceWidth (l : Level) : Width :=
  match l.last with
  | none => l.before
  | some (_, w) => l.before.add w

def push (l : Level) (kind : ItemKind) (w : Width) : Level :=
  { l with before := l.sequenceWidth, last := some (kind, w) }

def width (l : Level) : Width :=
  match l.finished with
  | none => l.sequenceWidth
  | some w => w.either l.sequenceWidth

def nextAlternative (l : Level) (spaced : Bool) : Level :=
  { l with
    spaced := spaced, finished := some l.width, alternatives := l.alternatives + 1,
    before := Width.zero, last := none }

/-- The item before a quantifier; a place or a quantified item cannot take one. -/
def quantify? (l : Level) (q : Quantifier) : Option Level :=
  match l.last with
  | some (.repeatable, w) => some { l with last := some (.quantified, w.repeated q.low q.high) }
  | _ => none

end Level

structure Reading where
  level : Level
  outer : List Level
  /-- The flags that hold for the whole expression. -/
  flags : List Char
  /-- The widths of the groups in the order in which they were opened; none while open. -/
  groups : List (Option Width)
  names : List (List Char × Nat)
  /-- The groups that may be referred to inside a look-behind are those below this number. -/
  bound : Option Nat
  /-- The greatest group number that a condition has asked for. -/
  asked : Nat
  quantified : Bool
  /-- The width of the widest look-behind. -/
  behind : Nat

namespace Reading

def start : Reading :=
  { level := Level.start .whole false, outer := [], flags := [], groups := [], names := [],
    bound := none, asked := 0, quantified := false, behind := 0 }

def push (r : Reading) (kind : ItemKind) (w : Width) : Reading :=
  { r with level := r.level.push kind w }

def enter (r : Reading) (opening : Opening) (spaced : Bool) : Reading :=
  { r with level := Level.start opening spaced, outer := r.level :: r.outer }

/-- The width of a group that is closed. -/
def closedGroup? (r : Reading) (n : Nat) : Option Width :=
  if n = 0 then none else (r.groups[n - 1]?).join

def withinBound (r : Reading) (n : Nat) : Bool :=
  match r.bound with
  | none => true
  | some limit => (r.closedGroup? n).isSome && n < limit

def refer? (r : Reading) (n : Nat) : Option Reading :=
  (r.closedGroup? n).bind fun w => if r.withinBound n then some (r.push .repeatable w) else none

def named? (r : Reading) (name : List Char) : Option Nat :=
  (r.names.find? fun entry => entry.1 = name).map (·.2)

def capture (r : Reading) : Reading :=
  { r with groups := r.groups ++ [none] }.enter (.capture (r.groups.length + 1)) r.level.spaced

def captureNamed? (r : Reading) (name : List Char) : Option Reading :=
  if Text.isName name ∧ r.named? name = none then
    some { r with names := r.names ++ [(name, r.groups.length + 1)] }.capture
  else none

/-- The group that a condition asks for, by name or by number. -/
def ask? (r : Reading) (name : List Char) : Option Reading :=
  let asked : Option (Nat × Nat) :=
    if Text.isName name then (r.named? name).map fun n => (n, 0)
    else
      match readInteger? name with
      | some (.ofNat (n + 1)) => some (n + 1, n + 1)
      | _ => none
  asked.bind fun (n, number) =>
    if r.withinBound n then
      some ({ r with asked := max r.asked number }.enter .condition r.level.spaced)
    else none

/-- Flags for the whole expression may only stand at its start. -/
def setFlags? (r : Reading) (on : List Char) : Option Reading :=
  if r.outer.isEmpty ∧ r.level.alternatives = 0 ∧ r.level.last.isNone then
    let flags := r.flags ++ on
    some { r with flags := flags, level := { r.level with spaced := flags.contains 'x' } }
  else none

def close? (r : Reading) : Option Reading :=
  match r.outer with
  | [] => none
  | above :: outer =>
    let w := r.level.width
    let r' := { r with level := above, outer := outer }
    match r.level.opening with
    | .whole => none
    | .capture n => some ({ r' with groups := r.groups.set (n - 1) (some w) }.push .repeatable w)
    | .grouping => some (r'.push .repeatable w)
    | .lookAhead => some (r'.push .repeatable Width.zero)
    | .lookBehind bound =>
      if w.isFixed then
        some ({ r' with bound := bound, behind := max r.behind w.least }.push .repeatable Width.zero)
      else none
    | .condition =>
      some (r'.push .repeatable (if r.level.alternatives = 0 then w.either Width.zero else w))

def branch? (r : Reading) : Option Reading :=
  match r.level.opening with
  | .whole => some { r with level := r.level.nextAlternative (r.flags.contains 'x') }
  | .condition =>
    if r.level.alternatives = 0 then
      some { r with level := r.level.nextAlternative r.level.spaced }
    else none
  | _ => some { r with level := r.level.nextAlternative r.level.spaced }

def lookBehind (r : Reading) : Reading :=
  { r with bound := some (r.bound.getD (r.groups.length + 1)) }.enter (.lookBehind r.bound)
    r.level.spaced

def change? (r : Reading) : FlagChange → Option Reading
  | .whole on => r.setFlags? on
  | .scoped on off =>
    some (r.enter .grouping ((r.level.spaced || on.contains 'x') && !off.contains 'x'))

/-- A group with a name, or a reference to one. -/
def namedGroup? (r : Reading) : List Symbol → Option (Reading × List Symbol)
  | [] => none
  | s :: rest =>
    if s.isPlain '<' then
      (untilPlain? '>' rest).bind fun (name, after) => (r.captureNamed? name).map (·, after)
    else if s.isPlain '=' then
      (untilPlain? ')' rest).bind fun (name, after) =>
        ((r.named? name).bind r.refer?).map (·, after)
    else none

/-- What follows `(?`. -/
def extension? (r : Reading) : List Symbol → Option (Reading × List Symbol)
  | [] => none
  | s :: rest =>
    if s.escaped then none
    else if s.char = 'P' then r.namedGroup? rest
    else if s.char = ':' ∨ s.char = '>' then some (r.enter .grouping r.level.spaced, rest)
    else if s.char = '#' then (afterPlain? ')' rest).map (r, ·)
    else if s.char = '=' ∨ s.char = '!' then some (r.enter .lookAhead r.level.spaced, rest)
    else if s.char = '<' then
      match rest with
      | t :: rest => if t.isPlain '=' || t.isPlain '!' then some (r.lookBehind, rest) else none
      | [] => none
    else if s.char = '(' then
      (untilPlain? ')' rest).bind fun (name, after) => (r.ask? name).map (·, after)
    else (readFlags? (s :: rest)).bind fun (change, after) => (r.change? change).map (·, after)

def group? (r : Reading) : List Symbol → Option (Reading × List Symbol)
  | s :: rest => if s.isPlain '?' then r.extension? rest else some (r.capture, s :: rest)
  | [] => some (r.capture, [])

def escape? (r : Reading) (c : Char) (rest : List Symbol) : Option (Reading × List Symbol) :=
  (Pattern.escape? c rest).bind fun (meaning, after) =>
    match meaning with
    | .place => some (r.push .place Width.zero, after)
    | .character => some (r.push .repeatable Width.one, after)
    | .reference n => (r.refer? n).map (·, after)

/-- A character that is no part of the syntax of groups and classes. -/
def item? (r : Reading) (c : Char) (rest : List Symbol) : Option (Reading × List Symbol) :=
  match readQuantifier c rest with
  | .quantifier q after =>
    (r.level.quantify? q).map fun level =>
      ({ r with level := level, quantified := true }, afterMark after)
  | .literal => some (r.push .repeatable Width.one, rest)
  | .refused => none

def isSpace (c : Char) : Bool := c == ' ' || ('\t' ≤ c && c ≤ '\r')

def step? (r : Reading) (s : Symbol) (rest : List Symbol) : Option (Reading × List Symbol) :=
  if s.escaped then r.escape? s.char rest
  else if s.char = '|' then r.branch?.map (·, rest)
  else if s.char = ')' then r.close?.map (·, rest)
  else if r.level.spaced && isSpace s.char then some (r, rest)
  else if r.level.spaced && s.char == '#' then some (r, (afterPlain? '\n' rest).getD [])
  else if s.char = '[' then (readClass? rest).map (r.push .repeatable Width.one, ·)
  else if s.char = '(' then r.group? rest
  else if s.char = '^' ∨ s.char = '$' then some (r.push .place Width.zero, rest)
  else r.item? s.char rest

/-- Each step takes at least one symbol, so the length of the text is fuel enough. -/
def run? : Nat → Reading → List Symbol → Option Reading
  | _, r, [] => some r
  | 0, _, _ :: _ => none
  | fuel + 1, r, s :: rest => (r.step? s rest).bind fun (r, rest) => run? fuel r rest

/-- Whether the text may end here. -/
def isComplete (r : Reading) : Bool :=
  r.outer.isEmpty && r.asked ≤ r.groups.length && compatible r.flags &&
    !(r.quantified && r.flags.contains 't')

end Reading

/-- The finished reading of a text that is a regular expression. -/
def read? (text : List Char) : Option Reading :=
  (symbols? text).bind fun symbols =>
    (Reading.run? symbols.length .start symbols).filter Reading.isComplete

end Pattern
end QueryCriteria
