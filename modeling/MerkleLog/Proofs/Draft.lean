import Mathlib.Data.List.Induction
import Mathlib.Data.Nat.Bitwise
import MerkleLog.Draft
import MerkleLog.Proofs.Plan

/-!
# The plan made in one pass is the plan

The loop that climbs keeps its place at the last leaf of the block that holds the leaf; in binary
this is the place of the block followed by ones, so that flipping the lowest bit of the place of the
block gives the sibling and setting it gives the parent.  The loop that goes down keeps the bits of
the size that it has passed.
-/

namespace MerkleLog

namespace Block

/-- The last leaf of a block in binary: the place of the block, followed by ones. -/
lemma testBit_stop_sub_one (b : Block) (bit : Nat) :
    (b.stop - 1).testBit bit = if bit < b.level then true else b.index.testBit (bit - b.level) := by
  have hpos := Nat.two_pow_pos b.level
  have hlast : b.stop - 1 = 2 ^ b.level * b.index + (2 ^ b.level - 1) := by
    rw [stop, Nat.add_one_mul, Nat.mul_comm, Nat.add_sub_assoc hpos]
  rw [hlast, Nat.testBit_two_pow_mul_add _ (Nat.sub_one_lt hpos.ne')]
  split
  case isTrue hlow => rw [Nat.testBit_two_pow_sub_one, decide_eq_true hlow]
  case isFalse => rfl

/-- The sibling ends with one bit flipped. -/
lemma stop_sub_one_xor (b : Block) : (b.stop - 1) ^^^ 2 ^ b.level = b.sibling.stop - 1 := by
  obtain ⟨level, index⟩ := b
  have hsibling : sibling ⟨level, index⟩ = ⟨level, index ^^^ 1⟩ := by
    rcases Nat.even_or_odd index with heven | hodd
    · rw [sibling, if_pos (Nat.even_iff.1 heven), Nat.xor_one_of_even heven]
    · rw [sibling, if_neg (by rw [Nat.odd_iff.1 hodd]; exact one_ne_zero), Nat.xor_one_of_odd hodd]
  refine Nat.eq_of_testBit_eq fun bit => ?_
  rw [hsibling, Nat.testBit_xor, testBit_stop_sub_one, testBit_stop_sub_one, Nat.testBit_two_pow]
  dsimp only
  rcases Nat.lt_or_ge bit level with hlow | hhigh
  · simp [hlow, hlow.ne']
  · obtain ⟨k, rfl⟩ := Nat.exists_eq_add_of_le hhigh
    have hone : decide (level = level + k) = Nat.testBit 1 k := by
      cases k <;> simp [Nat.testBit_add_one]
    rw [if_neg (by omega), if_neg (by omega), Nat.add_sub_cancel_left, Nat.testBit_xor, hone]

/-- The parent ends with the same bit set. -/
lemma stop_sub_one_or (b : Block) : (b.stop - 1) ||| 2 ^ b.level = b.parent.stop - 1 := by
  obtain ⟨level, index⟩ := b
  refine Nat.eq_of_testBit_eq fun bit => ?_
  rw [parent, Nat.testBit_or, testBit_stop_sub_one, testBit_stop_sub_one, Nat.testBit_two_pow]
  dsimp only
  rcases Nat.lt_trichotomy bit level with hlow | rfl | hhigh
  · simp [hlow, hlow.trans (Nat.lt_succ_self level)]
  · simp
  · obtain ⟨k, rfl⟩ := Nat.exists_eq_add_of_lt hhigh
    have hbelow : level + k + 1 - level = k + 1 := by omega
    have habove : level + k + 1 - (level + 1) = k := by omega
    rw [if_neg (by omega), if_neg (by omega), hbelow, habove, Nat.testBit_add_one,
      decide_eq_false hhigh.ne, Bool.or_false]

end Block

namespace Draft

variable {size : Nat}

lemma eraseDups_concat (asked : List Address) (a : Address) :
    (asked ++ [a]).eraseDups
      = if a ∈ asked then asked.eraseDups else asked.eraseDups ++ [a] := by
  rw [List.eraseDups_append]
  by_cases ha : a ∈ asked <;> simp [ha, List.removeAll, List.eraseDups_cons]

/-- Nodes that are asked for one after the other are asked for once each. -/
lemma nodup_eraseDups (asked : List Address) : asked.eraseDups.Nodup := by
  induction asked using List.reverseRecOn with
  | nil => exact List.nodup_nil
  | append_singleton asked a ih =>
    rw [eraseDups_concat]
    split
    case isTrue => exact ih
    case isFalse ha =>
      rw [← List.mem_eraseDups] at ha
      refine List.nodup_append.2 ⟨ih, List.pairwise_singleton _ a, ?_⟩
      rintro b hb c hc rfl
      rw [List.mem_singleton] at hc
      exact ha (hc ▸ hb)

/-- What is asked for so far, each node once, grows with the list of all that was to be asked. -/
lemma ask_eraseDups (nodes asked : List Address) (noted : List (Nat × Address)) (a : Address) :
    ask ⟨nodes, asked.eraseDups, noted⟩ a = ⟨nodes, (asked ++ [a]).eraseDups, noted⟩ := by
  rw [ask, eraseDups_concat]
  simp only [List.mem_eraseDups]
  split <;> rfl

/-- A sibling is noted, and asked for if it passes the filter of those that are. -/
lemma noteNode_eraseDups (nodes asked : List Address) (noted : List (Nat × Address)) (a : Address) :
    noteNode size ⟨nodes, asked.eraseDups, noted⟩ a
      = ⟨nodes ++ [a], (asked ++ [a].filter fun b : Address => b.leaf < size).eraseDups,
        noted⟩ := by
  rw [noteNode]
  by_cases ha : a.leaf < size
  · simp [ha, ask_eraseDups]
  · simp [ha]

end Draft

namespace Plan

open Draft

variable {p : Plan} {level total : Nat}

/-- The draft of a plan whose siblings have been noted below a level. -/
def climbed (p : Plan) (level : Nat) : Draft :=
  ⟨p.nodesBelow level, ((p.nodesBelow level).filter p.isComplete).eraseDups, []⟩

/-- One step of the loop that climbs. -/
lemma noteNode_climbed (p : Plan) (level : Nat) :
    (p.climbed level).noteNode p.size (p.siblingAt level).address = p.climbed (level + 1) := by
  rw [climbed, noteNode_eraseDups, climbed, nodesBelow_succ, List.filter_append]
  rfl

/-- The loop that climbs, from the block that holds the leaf at some level. -/
lemma ascend_climbed (p : Plan) (count level : Nat) :
    ascend p.size count level ((Block.holding level p.leaf).stop - 1) (p.climbed level)
      = p.climbed (level + count) := by
  induction count generalizing level with
  | zero => rfl
  | succ count ih =>
    have hsibling :
        (⟨level, (((Block.holding level p.leaf).stop - 1) ^^^ 2 ^ level : Nat)⟩ : Address)
          = (p.siblingAt level).address := by
      rw [siblingAt, Block.address_eq_natCast, ← Block.stop_sub_one_xor]
      rfl
    have hparent : ((Block.holding level p.leaf).stop - 1) ||| 2 ^ level
        = (Block.holding (level + 1) p.leaf).stop - 1 := by
      rw [Block.holding_succ, ← Block.stop_sub_one_or]
      rfl
    rw [ascend, hsibling, hparent, noteNode_climbed, ih]
    congr 1
    omega

/-- The loop that goes down, from where the bits above some level add up to `total`. -/
lemma descend_partialsBelow (nodes asked : List Address) (noted : List (Nat × Address))
    (htotal : p.size / 2 ^ level * 2 ^ level = total) :
    descend p.size level total ⟨nodes, asked.eraseDups, noted⟩
      = ⟨nodes, (asked ++ (p.partialsBelow level).map (·.2)).eraseDups,
        noted ++ p.partialsBelow level⟩ := by
  induction level generalizing asked noted total with
  | zero => simp [descend, partialsBelow]
  | succ level ih =>
    rw [descend, Nat.and_two_pow]
    cases hbit : p.size.testBit level with
    | false =>
      rw [← Block.div_mul_two_pow_of_clear hbit] at htotal
      rw [partialsBelow_of_clear hbit, if_pos (by simp), ih _ _ htotal]
    | true =>
      have hbelow : p.size / 2 ^ level * 2 ^ level = total + 2 ^ level := by
        rw [Block.div_mul_two_pow_of_set hbit, htotal]
      have hpartial : (⟨level, ((total + 2 ^ level : Nat) : Int) - 1⟩ : Address)
          = p.partialAt level := by
        rw [partialAt, hbelow]
      rw [partialsBelow_of_set hbit, if_neg (by simp)]
      dsimp only
      rw [hpartial, notePartial, ask_eraseDups, ih _ _ hbelow]
      simp

/-- Both loops one after the other, the second only for a size that is no power of two. -/
lemma draft_eq (p : Plan) : p.draft =
    if p.size &&& (p.size - 1) = 0 then ascend p.size (p.levels - 1) 0 p.leaf blank
    else descend p.size p.levels 0 (ascend p.size p.levels 0 p.leaf blank) := by
  have hclimbed : ∀ count, ascend p.size count 0 p.leaf blank = p.climbed count := by
    intro count
    have hplace : (Block.holding 0 p.leaf).stop - 1 = p.leaf := by
      rw [Block.holding_zero, Block.stop, Nat.pow_zero, Nat.mul_one, Nat.add_sub_cancel]
    have hascend := p.ascend_climbed count 0
    rwa [hplace, Nat.zero_add] at hascend
  have hpower : p.size &&& (p.size - 1) = 0 ↔ p.balanced = true := by
    rw [balanced_iff_isPowerOfTwo, Nat.and_sub_one_eq_zero_iff_isPowerOfTwo p.size_pos.ne']
  simp only [hpower, hclimbed]
  rw [draft, query, nodes_eq, depth]
  cases hbalanced : p.balanced with
  | true => simp [partials_eq_nil hbalanced, climbed]
  | false =>
    have hnone : p.size / 2 ^ p.levels * 2 ^ p.levels = 0 := by
      rw [Nat.div_eq_of_lt p.size_lt_two_pow_levels, Nat.zero_mul]
    simp [partials_eq hbalanced, climbed, descend_partialsBelow _ _ _ hnone]

end Plan

namespace Draft

/-- The plan made in one pass is the plan. -/
lemma make_eq (leaf size : Int) : make leaf size = (Plan.make leaf size).map Plan.draft := by
  rw [make, Plan.make]
  split_ifs with hsize hleaf
  · rfl
  · rw [Except.map, Plan.draft_eq]
    exact (apply_ite Except.ok _ _ _).symm
  · rfl

end Draft

end MerkleLog
