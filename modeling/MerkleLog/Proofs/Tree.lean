import Mathlib.Tactic.Ring
import MerkleLog.Tree

/-!
# Trees over leaves

How a tree over a list of leaves splits into the trees over its halves, how deep the smallest tree
with room for some leaves is, and which subtree stands in which place of a tree.
-/

namespace MerkleLog

namespace Tree

variable {h : Hash} {leaves : List Bytes} {depth : Nat}

/-! ## Halves -/

@[simp] lemma ofLeavesAt_nil (depth : Nat) : ofLeavesAt depth [] = empty (2 ^ depth) := by
  cases depth <;> rfl

@[simp] lemma ofLeavesAt_zero_cons (d : Bytes) (rest : List Bytes) :
    ofLeavesAt 0 (d :: rest) = leaf d := rfl

/-- A tree of capacity `2 ^ depth` reads no further than its capacity. -/
lemma ofLeavesAt_take {count : Nat} (hcount : 2 ^ depth ≤ count) :
    ofLeavesAt depth (leaves.take count) = ofLeavesAt depth leaves := by
  induction depth generalizing leaves count with
  | zero =>
    cases leaves with
    | nil => simp
    | cons d rest =>
      obtain ⟨count, rfl⟩ : ∃ k, count = k + 1 := ⟨count - 1, by omega⟩
      simp
  | succ depth ih =>
    cases leaves with
    | nil => simp
    | cons d rest =>
      have hpow : 2 ^ (depth + 1) = 2 ^ depth + 2 ^ depth := by ring
      have hpos : 0 < 2 ^ depth := Nat.two_pow_pos depth
      -- a leaf is left over, so that both sides split
      obtain ⟨rest', hrest'⟩ : ∃ r, (d :: rest).take count = d :: r :=
        ⟨rest.take (count - 1), by rw [← List.take_succ_cons, Nat.sub_add_cancel (by omega)]⟩
      have hleft : ((d :: rest).take count).take (2 ^ depth) = (d :: rest).take (2 ^ depth) := by
        rw [List.take_take, Nat.min_eq_left (by omega)]
      have hright : ofLeavesAt depth (((d :: rest).take count).drop (2 ^ depth))
          = ofLeavesAt depth ((d :: rest).drop (2 ^ depth)) := by
        rw [List.drop_take]
        exact ih (by omega)
      rw [hrest'] at hleft hright ⊢
      rw [ofLeavesAt, ofLeavesAt, hleft, hright]

/-- A tree with a leaf splits in the middle of its positions. -/
lemma ofLeavesAt_succ (hleaves : leaves ≠ []) :
    ofLeavesAt (depth + 1) leaves
      = internal (ofLeavesAt depth leaves) (ofLeavesAt depth (leaves.drop (2 ^ depth))) := by
  cases leaves with
  | nil => exact absurd rfl hleaves
  | cons d rest => rw [ofLeavesAt, ofLeavesAt_take le_rfl]

@[simp] lemma capacity_ofLeavesAt (depth : Nat) (leaves : List Bytes) :
    (ofLeavesAt depth leaves).capacity = 2 ^ depth := by
  induction depth generalizing leaves with
  | zero => cases leaves <;> simp [capacity]
  | succ depth ih =>
    cases leaves with
    | nil => simp [capacity]
    | cons d rest =>
      rw [ofLeavesAt, capacity, ih, ih]
      ring

/-! ## The least depth -/

lemma depthFor_le_iff {count : Nat} : depthFor count ≤ depth ↔ count ≤ 2 ^ depth := by
  unfold depthFor
  split
  · have := Nat.two_pow_pos depth
    omega
  · rw [Nat.succ_le_iff, Nat.log2_lt (by omega)]
    omega

lemma le_two_pow_depthFor (count : Nat) : count ≤ 2 ^ depthFor count :=
  depthFor_le_iff.1 le_rfl

lemma depthFor_eq {count : Nat} (hlow : 2 ^ depth < 2 * count) (hhigh : count ≤ 2 ^ depth) :
    depthFor count = depth := by
  refine le_antisymm (depthFor_le_iff.2 hhigh) (Nat.le_of_not_lt fun hlt => ?_)
  obtain ⟨depth, rfl⟩ : ∃ k, depth = k + 1 := ⟨depth - 1, by omega⟩
  have hsmall := depthFor_le_iff.1 (Nat.le_of_lt_succ hlt)
  rw [Nat.pow_succ] at hlow
  omega

/-! ## Places -/

/-- The subtree a number of levels below the root, in a place counted from the left.  There is none
below an end node. -/
def subtree? : Nat → Nat → Tree → Option Tree
  | 0, _, t => some t
  | down + 1, place, internal l r =>
    if place < 2 ^ down then subtree? down place l else subtree? down (place - 2 ^ down) r
  | _ + 1, _, _ => none

/-! ## A small log -/

/-- Three leaves, the fewest whose tree has an empty position. -/
def threeLeaves : List Bytes :=
  [List.replicate digestSize 1, List.replicate digestSize 2, List.replicate digestSize 3]

lemma isDigest_threeLeaves : ∀ d ∈ threeLeaves, isDigest d := by decide

end Tree

end MerkleLog
