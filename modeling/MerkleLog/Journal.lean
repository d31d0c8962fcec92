import MerkleLog.Journal.Record

/-!
# The journal

Records are made by named loggers.  Names form a tree by their dots.  A logger without a level of
its own takes that of the nearest logger above it, and in the end that of the root.  Records that
reach their logger's level are written as lines by one handler, once the journal has been set up.
-/

namespace MerkleLog

/-- The one handler: whether it abbreviates digests. -/
structure Handler where
  abbreviates : Bool
deriving DecidableEq

/-- The state of logging. -/
structure Journal where
  /-- The level of the root. -/
  rootLevel : Level
  /-- The levels that loggers were given, newest first. -/
  levels : List (String × Level)
  /-- The handler, once there is one. -/
  handler : Option Handler
deriving DecidableEq

namespace Journal

/-- The journal before any setup. -/
def initial : Journal := ⟨.warning, [], none⟩

/-- The names that denote the root. -/
def isRoot (name : String) : Bool := name == "" || name == "root"

/-- Give a logger a level. -/
def setLevel (j : Journal) (name : String) (level : Level) : Journal :=
  if isRoot name then { j with rootLevel := level }
  else { j with levels := (name, level) :: j.levels }

/-- The loggers whose level is set where no others are named. -/
def defaultLoggers : List String := ["outbox_proofs", "outbox_cli"]

/-- Set the journal up.  The first time adds the handler and sets the level of the root; every time
sets the levels of some loggers, and may turn abbreviation on. -/
def setup (j : Journal) (level : Level) (loggers : List String) (abbreviate : Bool) : Journal :=
  let j :=
    match j.handler with
    | none => { j with rootLevel := level, handler := some ⟨false⟩ }
    | some _ => j
  let j := loggers.foldl (fun j name => j.setLevel name level) j
  if abbreviate then { j with handler := j.handler.map fun _ => ⟨true⟩ } else j

/-- A name and those above it, nearest first, given the parts of the name, last first. -/
def ancestors : List String → List String
  | [] => []
  | part :: above => ".".intercalate (part :: above).reverse :: ancestors above

/-- The level from which a logger's records count. -/
def effectiveLevel (j : Journal) (name : String) : Level :=
  let own := (ancestors (name.splitOn ".").reverse).filterMap fun n =>
    (j.levels.lookup n).filter (· ≠ .unset)
  if isRoot name then j.rootLevel else own.head?.getD j.rootLevel

/-- Whether a logger lets a record of a level pass.  Records without a level never do. -/
def lets (j : Journal) (logger : String) (level : Level) : Bool :=
  0 < level.rank && (j.effectiveLevel logger).rank ≤ level.rank

/-- The line of a record with a message. -/
def lineOf (r : Record) (message : String) : String :=
  r.level.name ++ ":" ++ (if isRoot r.logger then "root" else r.logger) ++ ":" ++ message

/-- The line that a record leaves, if its logger lets it pass and there is a handler.  A message
that cannot be formed is passed over, unless digests are to be cut down in it. -/
def line (j : Journal) (r : Record) : Except Template.Fault (Option String) :=
  match j.handler with
  | none => .ok none
  | some handler =>
    if !j.lets r.logger r.level then .ok none
    else if handler.abbreviates then do
      let r ← r.abbreviate
      return some (lineOf r (← r.message))
    else
      match r.message with
      | .ok message => .ok (some (lineOf r message))
      | .error _ => .ok none

end Journal

end MerkleLog
