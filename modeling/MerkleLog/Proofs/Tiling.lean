import MerkleLog.Proofs.Block

/-!
# Spans of addresses

An address spans the leaves up to the one that it names, as many as it is wide.  Some addresses tile
a range of leaves if each leaf of the range, and no other, lies in the span of exactly one of them.
A block and its sibling tile their parent.
-/

namespace MerkleLog

variable {a : Address} {x lo mid hi : Int} {addresses others : List Address}

/-- Whether a position is among the leaves that an address spans. -/
def Address.Covers (a : Address) (x : Int) : Prop :=
  a.leaf - a.width + 1 ≤ x ∧ x ≤ a.leaf

instance (a : Address) (x : Int) : Decidable (a.Covers x) :=
  inferInstanceAs (Decidable (_ ∧ _))

/-- The spans of addresses are disjoint and make up the leaves from `lo` up to but without `hi`. -/
structure Tiles (addresses : List Address) (lo hi : Int) : Prop where
  le : lo ≤ hi
  disjoint : addresses.Pairwise fun a b => ∀ x, a.Covers x → ¬ b.Covers x
  covers_iff : ∀ x, (∃ a ∈ addresses, a.Covers x) ↔ lo ≤ x ∧ x < hi

namespace Tiles

lemma nil (lo : Int) : Tiles [] lo lo where
  le := le_rfl
  disjoint := .nil
  covers_iff x := by
    simp only [List.not_mem_nil, false_and, exists_false, false_iff]
    omega

/-- Tilings of adjacent ranges tile them both. -/
lemma append (hlow : Tiles addresses lo mid) (hhigh : Tiles others mid hi) :
    Tiles (addresses ++ others) lo hi where
  le := hlow.le.trans hhigh.le
  disjoint := by
    refine List.pairwise_append.2 ⟨hlow.disjoint, hhigh.disjoint, ?_⟩
    intro a ha b hb x hax hbx
    have hbelow := (hlow.covers_iff x).1 ⟨a, ha, hax⟩
    have habove := (hhigh.covers_iff x).1 ⟨b, hb, hbx⟩
    omega
  covers_iff x := by
    have hlowle := hlow.le
    have hhighle := hhigh.le
    simp only [List.mem_append, or_and_right, exists_or, hlow.covers_iff, hhigh.covers_iff]
    omega

/-- The order of the addresses does not matter. -/
lemma perm (htiles : Tiles addresses lo hi) (hperm : addresses.Perm others) :
    Tiles others lo hi where
  le := htiles.le
  disjoint := by
    refine (hperm.pairwise_iff ?_).1 htiles.disjoint
    exact fun hdisjoint x hbx hax => hdisjoint x hax hbx
  covers_iff x := by
    simp only [← hperm.mem_iff, htiles.covers_iff]

end Tiles

namespace Block

lemma covers_address (b : Block) : b.address.Covers x ↔ b.start ≤ x ∧ x < b.stop := by
  have hstop := b.stop_eq
  rw [Address.Covers, width_address, address_eq]
  dsimp only
  omega

lemma tiles (b : Block) : Tiles [b.address] b.start b.stop where
  le := Int.ofNat_le.2 b.start_lt_stop.le
  disjoint := List.pairwise_singleton _ _
  covers_iff x := by
    simp only [List.mem_singleton, exists_eq_left, covers_address]

/-- With the sibling of a block, a tiling of the block tiles the parent. -/
lemma tiles_parent {b : Block} (htiles : Tiles addresses b.start b.stop) :
    Tiles (addresses ++ [b.sibling.address]) b.parent.start b.parent.stop := by
  obtain ⟨level, index⟩ := b
  have hsibling := tiles (sibling ⟨level, index⟩)
  rcases Nat.even_or_odd' index with ⟨j, rfl | rfl⟩
  · -- the sibling starts where the block stops
    rw [sibling_left] at hsibling ⊢
    rw [parent_left, ← start_left, ← stop_right]
    exact htiles.append hsibling
  · rw [sibling_right] at hsibling ⊢
    rw [parent_right, ← start_left, ← stop_right]
    exact (hsibling.append htiles).perm List.perm_append_comm

end Block

end MerkleLog
