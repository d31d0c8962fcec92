import MerkleLog.Console.Arguments
import MerkleLog.Console.Files
import MerkleLog.Console.Layout
import MerkleLog.Console.Markup
import MerkleLog.Document.Proof
import MerkleLog.Document.Store
import MerkleLog.Journal
import MerkleLog.Journal.Notice
import MerkleLog.Json.Canonical
import MerkleLog.Json.Display
import MerkleLog.Ledger
import MerkleLog.Settings

/-!
# Runs of the program

A run takes the files, the settings and a command line to the files afterwards, what is printed,
what is logged and how the run ends.
-/

namespace MerkleLog.Console

/-- What a run cannot recover from. -/
inductive Failure where
  | log (cause : Error)
  | file (cause : FileError)
  | json (cause : Json.Unreadable)
  | markup (cause : Markup.Fault)
  | level (cause : Level.Fault)
deriving DecidableEq

/-- The wording of the failure to read an integer of too many digits. -/
def overlongMessage (digits : Nat) : String :=
  "Exceeds the limit (4300 digits) for integer string conversion: value has " ++ toString digits ++
  " digits; use sys.set_int_max_str_digits() to increase the limit"

/-- The wording of a failure. -/
def Failure.message : Failure → String
  | log cause => cause.message
  | file .notFound => "no such file"
  | file .isDirectory => "a directory stands in place of the file"
  | file .notDirectory => "a file stands in place of a directory"
  | file .nameTooLong => "a name is too long"
  | file .nullInPath => "embedded null byte"
  | file (.undecodable fault) => fault.message
  | json .malformed => "the file does not hold JSON"
  | json (.overlong digits) => overlongMessage digits
  | json .tooDeep => "the file holds too deeply nested JSON"
  | markup .unopened => "a tag in the output closes nothing"
  | markup .notLiteral => "a tag in the output has parameters that are no literal"
  | markup (.style .meaningless) => "a style in the output has no meaning"
  | markup (.style .emptyComponent) => "invalid literal for int() with base 10: ''"
  | markup (.style (.overlong digits)) => overlongMessage digits
  | level cause => cause.message

/-- How a run stops. -/
inductive Stop where
  /-- The command line is malformed. -/
  | usage
  /-- The program ends with a status. -/
  | exit (status : Nat)
  /-- The program fails. -/
  | failure (cause : Failure)
deriving DecidableEq

/-- What a run has done so far. -/
structure Session where
  files : Files
  journal : Journal
  /-- What was printed. -/
  output : String
  /-- The lines logged. -/
  lines : List String

/-- A step of a run. -/
abbrev Action (α : Type) : Type := ExceptT Stop (StateM Session) α

namespace Action

/-- Stop at a failure of the log. -/
def ofExcept {α : Type} : Except Error α → Action α
  | .ok a => pure a
  | .error cause => throw (.failure (.log cause))

/-- Print a line as it stands. -/
def print (line : String) : Action Unit :=
  modify fun s => { s with output := s.output ++ line ++ "\n" }

/-- Print a marked-up text. -/
def say (markup : String) : Action Unit :=
  match Markup.render markup with
  | .ok cs => print (Layout.layOut cs)
  | .error cause => throw (.failure (.markup cause))

/-- Print a value. -/
def display (v : Json) : Action Unit :=
  print v.shown

/-- Log notices.  Their messages can always be formed. -/
def log (notices : List Notice) : Action Unit :=
  modify fun s =>
    let line? (n : Notice) := (s.journal.line n.record).toOption.join
    { s with lines := s.lines ++ notices.filterMap line? }

/-- An action on files. -/
def onFiles {α : Type} : Except FileError α → Action α
  | .ok a => pure a
  | .error cause => throw (.failure (.file cause))

/-- Read a file. -/
def read (path : Path) : Action String := do
  onFiles ((← get).files.read path)

/-- Write a text to a file. -/
def write (path : Path) (text : String) : Action Unit := do
  let files ← onFiles ((← get).files.write path (Bytes.utf8 text))
  modify fun s => { s with files }

end Action

/-! ## The commands -/

variable (settings : Settings) (h : Hash)

/-- Stop because the file at a path holds no store. -/
def refuseStore {α : Type} (path reason : String) : Action α := do
  Action.say ("[red]Cannot read store " ++ path ++ ": " ++ reason ++ "[/red]")
  throw (.exit 1)

/-- Load the store of a path; a path without a file stands for the store without events. -/
def loadStore (path : String) : Action Store := do
  let place := Path.ofString path
  if !(← Action.onFiles ((← get).files.contains place)) then return .empty
  match (← get).files.read place with
  | .error (.undecodable fault) => refuseStore path fault.message
  | .error cause => throw (.failure (.file cause))
  | .ok text =>
    match Store.load settings.hashAlgorithm text with
    | .ok store => return store
    | .error cause => refuseStore path cause.message

/-- The accumulator of a store. -/
def rebuild (store : Store) : Action Accumulator := do
  let kept ← Action.ofExcept store.latest
  let accumulator ← Action.ofExcept (Replay.accumulator kept)
  Action.log (Replay.notices kept)
  return accumulator

/-- The leaf that a line stands for: the digest of its text, or the digest written in it. -/
def leafOf? (hex : Bool) (line : List Char) : Option Bytes :=
  if hex then (Bytes.ofHexChars? (Text.trim Text.isBlankOrSeparator line)).filter isDigest
  else some (h.digest (Bytes.utf8 (String.ofList line)))

/-- Append the leaves of lines that are not blank. -/
def appendLines (hex : Bool) (ledger : Ledger) : List (List Char) → Action Ledger
  | [] => return ledger
  | line :: rest =>
    if line.all Text.isBlankOrSeparator then appendLines hex ledger rest
    else
      match leafOf? h hex line with
      | none => throw .usage
      | some leaf => do appendLines hex (← Action.ofExcept (ledger.append h leaf)) rest

/-- Append the lines of a file to the log of a store. -/
def accumulate (leaves store : String) (hex : Bool) : Action Unit := do
  let kept ← loadStore settings store
  let accumulator ← rebuild kept
  let text ← Action.read (Path.ofString leaves)
  let ledger ← appendLines h hex ⟨kept, accumulator, true⟩ (Text.lines text.toList)
  let saved ← Action.ofExcept (ledger.store.save settings.hashAlgorithm)
  Action.write (Path.ofString store) saved
  let root ← Action.ofExcept (ledger.root h)
  Action.say ("[green]Log size " ++ toString ledger.size ++ ", root " ++ root.toHex ++ "[/green]")

/-- Show the size and the root of the log of a store. -/
def showRoot (store : String) : Action Unit := do
  let accumulator ← rebuild (← loadStore settings store)
  if accumulator.size = 0 then
    Action.say "[yellow]Store is empty[/yellow]"
  else
    let root ← Action.ofExcept (accumulator.root h)
    Action.display (.obj [("tree_size", .int accumulator.size),
      ("root_hash_b64", .str (Text.Base64.encode root))])

/-- The root to prove against: the one given, or the one that the store recorded for the size. -/
def rootFor (store : Store) (size : Int) : Option String → Action Bytes
  | some given =>
    match Text.Base64.decode? given with
    | some root => return root
    | none => throw .usage
  | none =>
    match store.head? size with
    | some root => return root
    | none => do
      Action.say ("[red]No recorded head for size " ++ toString size ++ "; pass --root-b64[/red]")
      throw (.exit 1)

/-- The leaf of an index. -/
def leafAt (store : Store) (index : Int) : Action Bytes := do
  let address : Address := ⟨0, index⟩
  let found ← Action.ofExcept (store.find [address])
  Action.log (store.notices [address])
  match found address with
  | some leaf => return leaf
  | none =>
    Action.say ("[red]Leaf " ++ toString index ++ " not found in store[/red]")
    throw (.exit 1)

/-- Prove that a log of some size holds a leaf. -/
def prove (index size : Int) (root : Option String) (store : String) (out : Option String) :
    Action Unit := do
  let kept ← loadStore settings store
  let root ← rootFor kept size root
  let leaf ← leafAt kept index
  let attempt := kept.attempt h id index leaf root size
  Action.log attempt.notices
  match attempt.outcome with
  | .error cause =>
    Action.say ("[red]Proof failed: " ++ cause.message ++ "[/red]")
    throw (.exit 1)
  | .ok proof =>
    let document ← Action.ofExcept
      ((ProofDocument.ofProof proof).orInvalid ProofDocument.recordName)
    match out.filter (· ≠ "") with
    | some path =>
      Action.write (Path.ofString path) (← Action.ofExcept (Json.canonical document.toJson))
      Action.say ("[green]Wrote proof to " ++ path ++ "[/green]")
    | none => Action.display document.toJson

/-- Check a proof. -/
def verify (path : String) : Action Unit := do
  let text ← Action.read ⟨path⟩
  match Json.parse .lenient text with
  | .error cause => throw (.failure (.json cause))
  | .ok document =>
    let valid := ProofDocument.verify h document
    Action.display (.obj [("proof_valid", .bool valid)])
    if !valid then throw (.exit 1)

/-- Carry out a command. -/
def Command.act : Command → Action Unit
  | .accumulate leaves store hex => Console.accumulate settings h leaves store hex
  | .root store => showRoot settings h store
  | .prove index size given store out => Console.prove settings h index size given store out
  | .verify path => Console.verify h path

/-- The paths that a command may read or write. -/
def Command.paths : Command → List Path
  | .accumulate leaves store _ => [Path.ofString leaves, Path.ofString store]
  | .root store => [Path.ofString store]
  | .prove _ _ _ store out => [Path.ofString store, Path.ofString (out.getD "")]
  | .verify path => [⟨path⟩]

/-! ## Whole runs -/

/-- How to use the program. -/
def helpText : String :=
  "Usage: [--verbose] COMMAND [ARGS]...\n\n" ++
  "Commands:\n" ++
  "  accumulate LEAVES [--store PATH] [--hex]\n" ++
  "  root [--store PATH]\n" ++
  "  prove LEAF_INDEX --tree-size N [--root-b64 TEXT] [--store PATH] [--out PATH]\n" ++
  "  verify PATH"

/-- Set the journal up. -/
def openJournal (verbose : Bool) : Action Unit :=
  match if verbose then .ok Level.debug else Level.ofSetting settings.logLevel with
  | .error cause => throw (.failure (.level cause))
  | .ok level =>
    modify fun s => { s with
      journal := s.journal.setup level Journal.defaultLoggers settings.abbreviateDigests }

/-- Do what a command line asks for.  The journal is set up before the words after the name of a
command are looked at. -/
def fulfil : Request → Action Unit
  | .help => Action.print helpText
  | .invoke verbose name words => do
    openJournal settings verbose
    match name.errand? words with
    | none => throw .usage
    | some .help => Action.print helpText
    | some (.run command) => command.act settings h

/-- What comes of a run. -/
structure Report where
  stop : Stop
  session : Session

/-- Run the program over files. -/
def run (args : List String) (files : Files) : Report :=
  let session : Session := ⟨files, .initial, "", []⟩
  match Request.ofArguments? args with
  | none => ⟨.usage, session⟩
  | some request =>
    match (fulfil settings h request).run session with
    | (.ok (), session) => ⟨.exit 0, session⟩
    | (.error stop, session) => ⟨stop, session⟩

end MerkleLog.Console
