import MerkleLog.Frontier
import MerkleLog.Replay
import Std.Data.HashMap

/-!
# The node store

A store keeps every event it was given, in order, an index from addresses to digests, and the heads
of the log: the root recorded for each size.  The index answers a lookup of many addresses at once.
-/

namespace MerkleLog

/-- Roots by size, in ascending order of size. -/
abbrev Heads := List (Int × Bytes)

namespace Heads

/-- Record the root for a size, in place of an earlier one. -/
def insert (size : Int) (root : Bytes) : Heads → Heads
  | [] => [(size, root)]
  | (n, r) :: rest =>
    if size < n then (size, root) :: (n, r) :: rest
    else if size = n then (size, root) :: rest
    else (n, r) :: insert size root rest

/-- The root recorded for a size. -/
def get? (heads : Heads) (size : Int) : Option Bytes :=
  heads.lookup size

end Heads

/-- Events in the order of their recording, the index of nodes, and the heads. -/
structure Store where
  events : Array Event
  nodes : Std.HashMap Address Bytes
  heads : Heads

namespace Store

/-- The store without events. -/
def empty : Store := ⟨#[], ∅, []⟩

/-- Record events one after the other.  An event whose address has no key ends the recording; it is
kept in the list of events all the same, but not in the index. -/
def record (s : Store) : List Event → Store × Except Error Unit
  | [] => (s, .ok ())
  | e :: rest =>
    let kept := { s with events := s.events.push e }
    match e.address.encode with
    | .error cause => (kept, .error cause)
    | .ok _ => record { kept with nodes := kept.nodes.insert e.address e.hash } rest

/-- Record the root of the log at a size. -/
def recordHead (s : Store) (size : Int) (root : Bytes) : Store :=
  { s with heads := s.heads.insert size root }

/-- Those of some addresses that the index holds, with their digests.  Every address must have a
key. -/
def lookup (s : Store) : List Address → Except Error (List (Address × Bytes))
  | [] => .ok []
  | a :: rest => do
    let _ ← a.encode
    let found ← s.lookup rest
    match s.nodes[a]? with
    | some d => return (a, d) :: found
    | none => return found

/-- A lookup as a function. -/
def find (s : Store) (addresses : List Address) : Except Error Found := do
  let found ← s.lookup addresses
  return fun a => found.lookup a

/-- The newest event of every level. -/
def latest (s : Store) : Except Error (List (Option Event)) :=
  Replay.latest s.events.toList

/-- The root recorded for a size. -/
def head? (s : Store) (size : Int) : Option Bytes :=
  s.heads.get? size

/-- The number of nodes in the index. -/
def size (s : Store) : Nat := s.nodes.size

end Store

end MerkleLog
