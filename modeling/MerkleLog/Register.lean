import MerkleLog.Accumulator

/-!
# The accumulator in place

A log that lives long keeps its accumulator in two variables, the number of its leaves and the list
of slots, and changes them as leaves come in.  Loading counts while it looks through the partials.
Appending counts first; then it clears the slots that the carry passes, one after the other, and
fills the first free one.  Every call tells what became of the variables, also where it fails.
-/

namespace MerkleLog

/-- The variables of an accumulator. -/
structure Register where
  /-- The number of leaves. -/
  count : Nat
  /-- The digests of complete subtrees, one a slot, lowest level first. -/
  slots : List (Option Bytes)
deriving DecidableEq

/-- The variables that hold an accumulator. -/
def Accumulator.register (a : Accumulator) : Register := ⟨a.size, a.slots⟩

namespace Register

/-- The variables of the log without leaves. -/
def empty : Register := ⟨0, []⟩

/-- Look through partials, each of which becomes one more slot. -/
def fill (r : Register) : List (Option Bytes) → Except Error Register
  | [] => .ok r
  | p :: rest => do
    match ← Accumulator.slotOf r.slots.length p with
    | none => fill ⟨r.count, r.slots ++ [none]⟩ rest
    | some d => fill ⟨r.count + 2 ^ r.slots.length, r.slots ++ [some d]⟩ rest

/-- The variables for the given partials. -/
def load (partials : List (Option Bytes)) : Except Error Register := do
  let r ← empty.fill partials
  if r.slots.getLast? = some none then throw (.topAbsent (r.slots.length - 1) r.count)
  if maxWord < r.count then throw (.sizeOutOfRange r.count)
  return r

/-- Carry a digest from the given level on.  Also lists the events of the parents formed. -/
def settle (h : Hash) (count level : Nat) (slots : List (Option Bytes)) (d : Bytes) :
    List (Option Bytes) × List Event :=
  if hlevel : level < slots.length then
    match slots[level] with
    | none => (slots.set level (some d), [])
    | some older =>
      let parent := h.pair older d
      let (settled, events) := settle h count (level + 1) (slots.set level none) parent
      (settled, ⟨(level + 1 : Nat), count, parent⟩ :: events)
  else (slots ++ [some d], [])
termination_by slots.length - level

/-- Append a leaf, with the events of the leaf and of every parent that it completes. -/
def announce (h : Hash) (r : Register) (leaf : Bytes) : Register × Except Error (List Event) :=
  if !isDigest leaf then (r, .error .leafNotDigest)
  else if r.count = maxWord then (r, .error (.full r.count))
  else
    let count := r.count + 1
    let (slots, events) := settle h count 0 r.slots leaf
    (⟨count, slots⟩, .ok (⟨0, count, leaf⟩ :: events))

/-- Append a leaf, with the number of leaves after it. -/
def append (h : Hash) (r : Register) (leaf : Bytes) : Register × Except Error Nat :=
  let (next, outcome) := r.announce h leaf
  (next, outcome.map fun _ => next.count)

/-- Variables of their own with the same contents. -/
def clone (r : Register) : Register := ⟨r.count, r.slots⟩

/-- The variables that calls lead to, whatever leaves and partials they are given. -/
inductive Reached (h : Hash) : Register → Prop
  | empty : Reached h empty
  | load {partials : List (Option Bytes)} {r : Register} (hload : load partials = .ok r) :
      Reached h r
  | announce {r : Register} (hr : Reached h r) (leaf : Bytes) : Reached h (r.announce h leaf).1
  | append {r : Register} (hr : Reached h r) (leaf : Bytes) : Reached h (r.append h leaf).1
  | clone {r : Register} (hr : Reached h r) : Reached h r.clone

end Register

end MerkleLog
