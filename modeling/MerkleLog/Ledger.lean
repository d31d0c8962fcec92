import MerkleLog.Store

/-!
# The ledger

A ledger is an accumulator whose appends are published to a store: the events of every append, and,
if it is told so, the root after it.
-/

namespace MerkleLog

/-- An accumulator together with the store that it publishes to. -/
structure Ledger where
  store : Store
  accumulator : Accumulator
  /-- Whether the root is recorded after every append. -/
  recordsHeads : Bool

namespace Ledger

/-- A ledger that goes on where the events of a store end. -/
def ofStore (store : Store) (recordsHeads : Bool) : Except Error Ledger := do
  let kept ← store.latest
  let accumulator ← Replay.accumulator kept
  return ⟨store, accumulator, recordsHeads⟩

/-- The ledger without leaves, on an empty store. -/
def empty (recordsHeads : Bool) : Ledger :=
  ⟨.empty, .empty, recordsHeads⟩

/-- The number of leaves. -/
def size (l : Ledger) : Nat := l.accumulator.size

/-- The root over all leaves. -/
def root (h : Hash) (l : Ledger) : Except Error Bytes := l.accumulator.root h

/-- Append a leaf and publish the nodes that it completes. -/
def append (h : Hash) (l : Ledger) (leaf : Bytes) : Except Error Ledger := do
  let (accumulator, events) ← l.accumulator.append h leaf
  let (store, outcome) := l.store.record events
  outcome
  if l.recordsHeads then
    let root ← accumulator.root h
    return { l with store := store.recordHead accumulator.size root, accumulator }
  else
    return { l with store, accumulator }

/-- Append leaves in order. -/
def appendAll (h : Hash) (l : Ledger) (leaves : List Bytes) : Except Error Ledger :=
  leaves.foldlM (append h) l

end Ledger

end MerkleLog
