import MerkleLog.Journal.Record
import MerkleLog.Resolve
import MerkleLog.Store

/-!
# What the library logs

A notice tells of a step in the work of the log.  The steps themselves do not log; notices are read
off what they were given and what came of them.
-/

namespace MerkleLog

/-- A step that is logged. -/
inductive Notice where
  /-- The accumulator was rebuilt from the newest events of some levels. -/
  | rebuilt (size levels : Nat)
  /-- A lookup found some of the addresses asked for. -/
  | lookedUp (found asked : Nat)
  /-- Some of the nodes that a plan queries are known. -/
  | queried (leaf size found asked : Nat)
  /-- The frontier led to the expected root. -/
  | frontierResolved (size : Nat)
  /-- The frontier led to another root. -/
  | frontierDiffers (size : Nat) (computed expected : Bytes)
deriving DecidableEq

namespace Notice

/-- The record of a notice. -/
def record : Notice → Record
  | rebuilt size levels =>
    ⟨"outbox_proofs.tree", .debug, "rebuilt accumulator of size %d from %d levels",
      some [.int size, .int levels]⟩
  | lookedUp found asked =>
    ⟨"outbox_proofs.store", .debug, "lookup: %d of %d addresses present",
      some [.int found, .int asked]⟩
  | queried leaf size found asked =>
    ⟨"outbox_proofs.prover", .debug, "leaf %d of %d: %d of %d queried nodes found",
      some [.int leaf, .int size, .int found, .int asked]⟩
  | frontierResolved size =>
    ⟨"outbox_proofs.prover", .debug, "frontier resolved for size %d", some [.int size]⟩
  | frontierDiffers size computed expected =>
    ⟨"outbox_proofs.prover", .warning, "frontier walk for size %d ended at %s, expected root %s",
      some [.int size, .str computed.toHex, .str expected.toHex]⟩

end Notice

/-- The notice of an accumulator that was rebuilt. -/
def Replay.notices (kept : List (Option Event)) : List Notice :=
  match Replay.accumulator kept with
  | .ok a => [.rebuilt a.size kept.length]
  | .error _ => []

/-- The notice of a lookup. -/
def Store.notices (s : Store) (asked : List Address) : List Notice :=
  match s.lookup asked with
  | .ok found => [.lookedUp found.length asked.length]
  | .error _ => []

/-- The notices of the resolution of a plan, read off its outcome. -/
def Plan.notices (p : Plan) (found : Found) : Except Error Proof → List Notice
  | .error .rootNotDigest => []
  | .error (.malformedNode _) => []
  | outcome =>
    let queried := .queried p.leaf p.size (p.foundCount found) p.query.length
    match outcome with
    | .error (.frontierUnknown _) | .error (.partialMissing _) => [queried]
    | .error (.rootMismatch expected computed size) =>
      [queried, .frontierDiffers size computed expected]
    | _ => if p.balanced then [queried] else [queried, .frontierResolved p.size]

/-- An attempt at a proof. -/
structure Attempt where
  outcome : Except Error Proof
  /-- The lookups made. -/
  queries : List (List Address)
  notices : List Notice

/-- Attempt a proof from a store.  Every lookup in it goes through `revise`, which may change what
was found. -/
def Store.attempt (h : Hash) (s : Store) (revise : Found → Found) (index : Int) (leaf root : Bytes)
    (size : Int) : Attempt :=
  let lookup asked := do return revise (← s.find asked)
  let outcome := Proof.build h index leaf root size lookup
  match Plan.make index size with
  | .error _ => ⟨outcome, [], []⟩
  | .ok p =>
    if p.query.isEmpty then ⟨outcome, [], p.notices (fun _ => none) outcome⟩
    else
      match lookup p.query with
      | .error _ => ⟨outcome, [p.query], []⟩
      | .ok found => ⟨outcome, [p.query], s.notices p.query ++ p.notices found outcome⟩

end MerkleLog
