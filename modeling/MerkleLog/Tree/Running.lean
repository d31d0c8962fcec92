import MerkleLog.Tree

/-!
# Trees built with a running capacity

Both kinds of trees can be built by keeping track of a capacity.  Partials are folded from the
lowest level upward: the capacity of a level is doubled from one to the next, and a partial takes on
its right what was built so far, padded until it is as wide.  Leaves are divided from the top down:
the capacity is doubled until it has room for all of them, and then halved from one level to the
next, where positions past the last leaf become one empty node.
-/

namespace MerkleLog

namespace Tree

/-! ## From partials -/

/-- Put as many empty positions as a tree has on its right, until it has some capacity. -/
def pad (room : Int) (t : Tree) : Tree :=
  if 0 < t.capacity ∧ t.capacity < room then pad room (internal t (empty t.capacity)) else t
termination_by (room - t.capacity).toNat
decreasing_by
  simp only [capacity]
  omega

/-- Fold partials from a level upward, whose nodes have the capacity `room`, onto what was built so
far. -/
def spineFrom (level : Nat) (room : Int) (built : Option Tree) : List (Option Bytes) → Tree
  | [] => built.getD (empty 1)
  | none :: rest => spineFrom (level + 1) (room * 2) built rest
  | some d :: rest =>
    if d = zeroDigest then spineFrom (level + 1) (room * 2) built rest
    else
      let node := if level = 0 then leaf d else summary d room
      let joined :=
        match built with
        | none => node
        | some t => internal node (t.pad room)
      spineFrom (level + 1) (room * 2) (some joined) rest

/-- The tree that partials span, lowest level first. -/
def spine (partials : List (Option Bytes)) : Tree := spineFrom 0 1 none partials

/-! ## From leaves -/

/-- Double a capacity until it has room for a number of leaves. -/
def doubled (count room : Nat) : Nat :=
  if 0 < room ∧ room < count then doubled count (room * 2) else room
termination_by count - room

/-- The tree of some capacity over the leaves from a position on. -/
def halve (leaves : List Bytes) (lo room : Nat) : Tree :=
  if h : lo < leaves.length then
    if room ≤ 1 then leaf leaves[lo]
    else internal (halve leaves lo (room / 2)) (halve leaves (lo + room / 2) (room / 2))
  else empty room
termination_by room

/-- The smallest tree with the given leaves. -/
def divided (leaves : List Bytes) : Tree :=
  if leaves.length = 0 then empty 1 else halve leaves 0 (doubled leaves.length 1)

end Tree

end MerkleLog
