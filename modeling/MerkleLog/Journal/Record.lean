import MerkleLog.Journal.Level
import MerkleLog.Journal.Template
import MerkleLog.Text.Word

/-!
# Journal records

A record is made by a logger, at a level, from a template and arguments.  Its message is formed only
when it is asked for.  In a message, every word that consists of exactly sixty-four lower-case
hexadecimal digits is a digest, and is cut down to its first eight digits and two dots.
-/

namespace MerkleLog

/-- A message to be logged. -/
structure Record where
  logger : String
  level : Level
  template : String
  /-- The arguments; none once the message has been formed for good. -/
  arguments : Option (List Json)
deriving DecidableEq

/-- The message.  Without arguments it is the template as it stands. -/
def Record.message (r : Record) : Except Template.Fault String :=
  match r.arguments with
  | none | some [] => .ok r.template
  | some args => Template.fill r.template (.ofList args)

/-! ## Abbreviation of digests -/

namespace Text

/-- Whether a character is a lower-case hexadecimal digit. -/
def isLowerHex (c : Char) : Bool :=
  ('0' ≤ c && c ≤ '9') || ('a' ≤ c && c ≤ 'f')

/-- A text cut at every border between word characters and others. -/
def runs (cs : List Char) : List (List Char) :=
  cs.splitBy fun a b => isWord a == isWord b

/-- Whether a run is the hexadecimal form of a digest. -/
def isDigestWord (run : List Char) : Bool :=
  run.length == 64 && run.all isLowerHex

/-- A run, cut down if it is a digest. -/
def abbreviateRun (run : List Char) : List Char :=
  if isDigestWord run then run.take 8 ++ ['.', '.'] else run

/-- A text with all digests in it cut down. -/
def abbreviate (cs : List Char) : List Char :=
  (runs cs).flatMap abbreviateRun

end Text

/-- A record with the digests in its message cut down.  If there are none it stays as it is;
otherwise the message is formed for good. -/
def Record.abbreviate (r : Record) : Except Template.Fault Record :=
  r.message.map fun message =>
    let short := String.ofList (Text.abbreviate message.toList)
    if short = message then r else { r with template := short, arguments := none }

end MerkleLog
