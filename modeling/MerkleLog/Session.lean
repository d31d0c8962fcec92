import MerkleLog.Ledger

/-!
# Working on one store

A store is recorded into by whoever holds it, among them any number of logs that are opened on it.
Each of these has an accumulator of its own and does not see what the others append.  Every call
tells what it leaves behind, also where it fails.
-/

namespace MerkleLog

namespace Ledger

/-- Append a leaf in place, with the number of leaves after it.  The accumulator has taken the leaf
before anything is recorded. -/
def publish (h : Hash) (l : Ledger) (leaf : Bytes) : Ledger × Except Error Nat :=
  match l.accumulator.append h leaf with
  | .error cause => (l, .error cause)
  | .ok (accumulator, events) =>
    let (store, outcome) := l.store.record events
    let kept : Ledger := { l with store, accumulator }
    match outcome with
    | .error cause => (kept, .error cause)
    | .ok () =>
      if l.recordsHeads then
        match accumulator.root h with
        | .error cause => (kept, .error cause)
        | .ok root =>
          ({ kept with store := store.recordHead accumulator.size root }, .ok accumulator.size)
      else (kept, .ok accumulator.size)

end Ledger

/-- A log without its store. -/
structure Writer where
  accumulator : Accumulator
  /-- Whether the root is recorded after every append. -/
  recordsHeads : Bool

/-- The log that a writer is on a store. -/
def Writer.on (w : Writer) (store : Store) : Ledger := ⟨store, w.accumulator, w.recordsHeads⟩

/-- The writer that a log is apart from its store. -/
def Ledger.writer (l : Ledger) : Writer := ⟨l.accumulator, l.recordsHeads⟩

/-- A store and the logs opened on it so far. -/
structure Session where
  store : Store
  writers : List Writer

/-- What is called for in a session. -/
inductive Call where
  /-- Record events one after the other. -/
  | record (events : List Event)
  /-- Record the root for a size. -/
  | recordHead (size : Int) (root : Bytes)
  /-- Open a log where the events of the store end. -/
  | openLog (recordsHeads : Bool)
  /-- Append a leaf to the log opened in the given place. -/
  | append (place : Nat) (leaf : Bytes)

namespace Session

/-- The session in which nothing has been called for. -/
def start (store : Store) : Session := ⟨store, []⟩

/-- One call.  A log that is not there appends nothing. -/
def call (h : Hash) (s : Session) : Call → Session × Except Error Unit
  | .record events =>
    let (store, outcome) := s.store.record events
    ({ s with store }, outcome)
  | .recordHead size root => ({ s with store := s.store.recordHead size root }, .ok ())
  | .openLog recordsHeads =>
    match Ledger.ofStore s.store recordsHeads with
    | .error cause => (s, .error cause)
    | .ok l => ({ s with writers := s.writers ++ [l.writer] }, .ok ())
  | .append place leaf =>
    match s.writers[place]? with
    | none => (s, .ok ())
    | some w =>
      let (l, outcome) := (w.on s.store).publish h leaf
      (⟨l.store, s.writers.set place l.writer⟩, outcome.map fun _ => ())

/-- Calls one after the other, whatever comes of each. -/
def run (h : Hash) (s : Session) (calls : List Call) : Session :=
  calls.foldl (fun s c => (s.call h c).1) s

end Session

end MerkleLog
