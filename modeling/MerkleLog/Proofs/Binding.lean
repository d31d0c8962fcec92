import Mathlib.Data.List.Induction
import MerkleLog.Hash.Sha256
import MerkleLog.Proofs.Climb

/-!
# Accepted proofs are bound to the log

A proof that is accepted under the root of a log states what the log holds at the index: the leaf,
or nothing past the last one.  Otherwise its verification breaks the hash, and the pair that does so
can be read off the pairs that it hashes.  The argument goes from the root down: as long as running
digest and block agree at a level, either the pair hashed below is that of the block's halves, so
that they agree one level further down, or two different pairs have the same digest.
-/

namespace MerkleLog

namespace Proof

variable {h : Hash} {leaves : List Bytes} {i : Nat} {d : Bytes} {siblings : List Bytes}

/-- The verification of a proof hashes, at some level, another pair than the digests below the inner
node of the tree at that level and position, and both pairs have the same digest. -/
def Collides (h : Hash) (t : Tree) (p : Proof) : Prop :=
  ∃ level pair l r, (pairs h p.index.toNat p.leaf p.hashes)[level]? = some pair ∧
    t.subtree? (p.hashes.length - (level + 1)) (p.index.toNat / 2 ^ (level + 1))
      = some (.internal l r) ∧
    pair ≠ (l.digest h, r.digest h) ∧ h.pair pair.1 pair.2 = h.pair (l.digest h) (r.digest h)

/-- The verification of a proof hashes, at some level, a pair to the zero digest. -/
def HashesToZero (h : Hash) (p : Proof) : Prop :=
  ∃ pair ∈ pairs h p.index.toNat p.leaf p.hashes, h.pair pair.1 pair.2 = zeroDigest

/-- A climb that reaches the block that holds its position has gone along the path of the leaf, or
has started past the log from zero, or has hashed another pair at one of the blocks passed, or has
hashed to zero past the log. -/
lemma climb_cases (hclimb : climb h i d siblings
      = some ((Block.holding siblings.length i).digest h leaves)) :
    (leaves[i]? = some d ∧ siblings = Block.path h leaves i siblings.length) ∨
      (leaves.length ≤ i ∧ d = zeroDigest) ∨
      (∃ level pair, (pairs h i d siblings)[level]? = some pair ∧
        (Block.holding (level + 1) i).start < leaves.length ∧
        pair ≠ pairAt (i / 2 ^ level) ((Block.holding level i).digest h leaves)
          ((Block.holding level i).sibling.digest h leaves) ∧
        h.pair pair.1 pair.2 = (Block.holding (level + 1) i).digest h leaves) ∨
      (leaves.length ≤ i ∧ ∃ pair ∈ pairs h i d siblings, h.pair pair.1 pair.2 = zeroDigest) := by
  -- the last sibling is the highest, so that the induction goes from the root down
  induction siblings using List.reverseRecOn with
  | nil =>
    have hd : d = Block.digest h leaves ⟨0, i⟩ := by simpa [climb] using hclimb
    rcases Nat.lt_or_ge i leaves.length with hi | hi
    · rw [Block.digest_leaf hi] at hd
      exact Or.inl ⟨by rw [hd, List.getElem?_eq_getElem hi], rfl⟩
    · rw [Block.digest_of_length_le (by simpa using hi)] at hd
      exact Or.inr (Or.inl ⟨hi, hd⟩)
  | append_singleton siblings s ih =>
    rw [climb_concat, Option.bind_eq_some_iff] at hclimb
    obtain ⟨e, hbelow, htop⟩ := hclimb
    rw [List.length_append, List.length_singleton] at htop ⊢
    rw [pairs_concat hbelow]
    split at htop
    case isFalse => cases htop
    have hpair := Option.some.inj htop
    by_cases hstart : (Block.holding (siblings.length + 1) i).start < leaves.length
    · by_cases hsame : pairAt (i / 2 ^ siblings.length) e s
          = pairAt (i / 2 ^ siblings.length) ((Block.holding siblings.length i).digest h leaves)
            ((Block.holding siblings.length i).sibling.digest h leaves)
      · -- climb and log agree one level further down
        obtain ⟨rfl, rfl⟩ := pairAt_inj rfl hsame
        rcases ih hbelow with ⟨hleaf, hpath⟩ | hpast | ⟨level, pair, hget, hcollides⟩ | ⟨hi, hzero⟩
        · refine Or.inl ⟨hleaf, ?_⟩
          rw [Block.path_succ, ← hpath]
        · exact Or.inr (Or.inl hpast)
        · refine Or.inr (Or.inr (Or.inl ⟨level, pair, ?_, hcollides⟩))
          rw [List.getElem?_append_left (List.getElem?_eq_some_iff.1 hget).1, hget]
        · obtain ⟨pair, hmem, hpair⟩ := hzero
          exact Or.inr (Or.inr (Or.inr ⟨hi, pair, List.mem_append_left _ hmem, hpair⟩))
      · refine Or.inr (Or.inr (Or.inl ⟨siblings.length, _, ?_, hstart, hsame, hpair⟩))
        rw [List.getElem?_append_right (by simp), length_pairs, Nat.sub_self,
          List.getElem?_cons_zero]
    · -- the block is empty, so that its zero digest is hashed here
      rw [not_lt] at hstart
      rw [Block.digest_of_length_le hstart] at hpair
      exact Or.inr (Or.inr (Or.inr ⟨hstart.trans (Block.start_holding_le _ _), _,
        List.mem_append_right _ (List.mem_singleton_self _), hpair⟩))

/-- A proof that is accepted under the root of a log is that of one of its leaves, or states the
zero digest past the last leaf, or its verification breaks the hash. -/
theorem verify_binds {p : Proof} {depth : Nat}
    (hdepth : (Tree.ofLeaves leaves).capacity = 2 ^ depth)
    (hroot : p.root = (Tree.ofLeaves leaves).digest h) (hlength : p.hashes.length = depth)
    (hverify : p.verify h = true) :
    (∃ i : Nat, p.index = i ∧ leaves[i]? = some p.leaf ∧
        (Tree.ofLeaves leaves).prove h p.index = some p.hashes) ∨
      (leaves.length ≤ p.index ∧ p.leaf = zeroDigest) ∨
      p.Collides h (Tree.ofLeaves leaves) ∨
      (leaves.length ≤ p.index ∧ p.HashesToZero h) := by
  obtain ⟨root, leaf, index, hashes⟩ := p
  dsimp only at hroot hlength hverify ⊢
  subst hroot hlength
  simp only [verify, Bool.and_eq_true, decide_eq_true_eq, beq_iff_eq] at hverify
  obtain ⟨⟨-, hnonneg, hlt⟩, hclimb⟩ := hverify
  obtain ⟨i, rfl⟩ := Int.eq_ofNat_of_zero_le hnonneg
  have hi : i < 2 ^ hashes.length := by exact_mod_cast hlt
  -- the capacity tells the depth
  have hcap : hashes.length = Tree.depthFor leaves.length := by
    rw [Tree.ofLeaves, Tree.capacity_ofLeavesAt] at hdepth
    exact (Nat.pow_right_injective le_rfl (by exact_mod_cast hdepth)).symm
  have hroot : Block.holding hashes.length i = ⟨hashes.length, 0⟩ := Block.holding_of_lt hi
  have htree : Tree.ofLeaves leaves = Block.tree leaves ⟨hashes.length, 0⟩ := by
    rw [hcap, ← Block.ofLeaves_eq_tree]
  rw [Int.toNat_natCast, htree, ← hroot] at hclimb
  rcases climb_cases hclimb with ⟨hleaf, hpath⟩ | ⟨hpast, hzero⟩ |
      ⟨level, pair, hget, hstart, hne, hpair⟩ | ⟨hpast, hzero⟩
  · obtain ⟨hlog, -⟩ := List.getElem?_eq_some_iff.1 hleaf
    refine Or.inl ⟨i, rfl, hleaf, ?_⟩
    rw [Block.prove_ofLeaves hlog, ← hcap, ← hpath]
  · exact Or.inr (Or.inl ⟨by exact_mod_cast hpast, hzero⟩)
  · obtain ⟨l, r, hinner, hdigests⟩ := tree_holding_succ (h := h) level hstart
    have hlevel : level < hashes.length := by
      simpa using (List.getElem?_eq_some_iff.1 hget).1
    rw [hdigests] at hne
    rw [Block.digest, hinner, Tree.digest] at hpair
    refine Or.inr (Or.inr (Or.inl ⟨level, pair, l, r, hget, ?_, hne, hpair⟩))
    rw [htree, Int.toNat_natCast, Block.subtree?_holding hlevel hi hstart, hinner]
  · exact Or.inr (Or.inr (Or.inr ⟨by exact_mod_cast hpast, hzero⟩))

/-- The second of three leaves, proved under the root over SHA-256. -/
def ofSecondLeaf : Proof :=
  ⟨(Tree.ofLeaves Tree.threeLeaves).digest Sha256.hash, List.replicate digestSize 2, 1,
    Block.path Sha256.hash Tree.threeLeaves 1 2⟩

theorem ofSecondLeaf_binds :
    ofSecondLeaf.verify Sha256.hash = true ∧
      ((∃ i : Nat, ofSecondLeaf.index = i ∧ Tree.threeLeaves[i]? = some ofSecondLeaf.leaf ∧
          (Tree.ofLeaves Tree.threeLeaves).prove Sha256.hash ofSecondLeaf.index
            = some ofSecondLeaf.hashes) ∨
        (Tree.threeLeaves.length ≤ ofSecondLeaf.index ∧ ofSecondLeaf.leaf = zeroDigest) ∨
        ofSecondLeaf.Collides Sha256.hash (Tree.ofLeaves Tree.threeLeaves) ∨
        (Tree.threeLeaves.length ≤ ofSecondLeaf.index ∧
          ofSecondLeaf.HashesToZero Sha256.hash)) := by
  have hverify : ofSecondLeaf.verify Sha256.hash = true :=
    verify_path Tree.isDigest_threeLeaves (by decide : 1 < Tree.threeLeaves.length)
  have hdepth : (Tree.ofLeaves Tree.threeLeaves).capacity = 2 ^ 2 := by decide
  exact ⟨hverify, verify_binds hdepth rfl (Block.length_path 1 2) hverify⟩

end Proof

end MerkleLog
