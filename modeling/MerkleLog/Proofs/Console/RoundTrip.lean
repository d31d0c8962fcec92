import MerkleLog.Hash.Sha256
import MerkleLog.Proofs.Console.Commands

/-!
# From lines to valid proofs

Files of lines are accumulated one run after the other, from a disk without a store on.  Then every
line can be proved against every size of the log since it was appended, and the written proof is
found valid.  Proving can still fail in one way: the path of the proof is confirmed as a marked-up
text, whose tags may be faulty.
-/

namespace MerkleLog.Console

variable {settings : Settings} {h : Hash} {files : Files} {store out leaves text : String}
  {lines : List (List Char)} {stops : List Stop} {level : Level} {args : List String} {i n : Nat}

/-- A disk with two lines, and a blank one between them, in a file. -/
def twoLines : Files := ⟨["w"], [(["w", "l.txt"], .file (Bytes.utf8 "a\n \nb\n"))]⟩

lemma level_default : Level.ofSetting Settings.default.logLevel = .ok .info := by decide +kernel

lemma read_twoLines : twoLines.read (Path.ofString "l.txt") = .ok "a\n \nb\n" := by
  decide +kernel

lemma filledLines_twoLines : filledLines "a\n \nb\n" = [['a'], ['b']] := by decide +kernel

lemma resolve_store_twoLines :
    twoLines.resolve (Path.ofString "s.json") = .ok (.free ["w", "s.json"]) := by
  decide +kernel

/-- The run that accumulates the two lines. -/
def accumulated : Report :=
  run Settings.default Sha256.hash ["accumulate", "--store", "s.json", "--", "l.txt"] twoLines

end MerkleLog.Console
