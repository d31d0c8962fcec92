import MerkleLog.Proofs.Draft
import MerkleLog.Proofs.Ledger
import MerkleLog.Proofs.Tiling

/-!
# The geometry of a plan

The siblings on the way up from a leaf tile the tree around it: those below a level, with the leaf,
tile the block of that level that holds it.  The partials tile the leaves of a log: those of the
bits below a level tile what lies past the whole blocks of that level.
-/

namespace MerkleLog

namespace Plan

variable {p : Plan} {level : Nat} {a : Address}

/-! ## Tilings -/

/-- The siblings below a level, with the leaf, tile the block that holds the leaf. -/
lemma tiles_nodesBelow (p : Plan) (level : Nat) :
    Tiles (⟨0, p.leaf⟩ :: p.nodesBelow level)
      (Block.holding level p.leaf).start (Block.holding level p.leaf).stop := by
  induction level with
  | zero =>
    rw [Block.holding_zero, ← Block.address_leaf]
    exact Block.tiles _
  | succ level ih =>
    rw [nodesBelow_succ, ← List.cons_append, Block.holding_succ]
    exact Block.tiles_parent ih

lemma tiles_nodes (p : Plan) : Tiles (⟨0, p.leaf⟩ :: p.nodes) 0 (2 ^ p.depth : Nat) := by
  have htiles := p.tiles_nodesBelow p.depth
  have hleaf : p.leaf < 2 ^ p.depth := by
    rw [depth_eq]
    exact p.leaf_lt_size.trans_le (Tree.le_two_pow_depthFor _)
  rwa [Block.holding_of_lt hleaf, Block.start_zero, Block.stop, Nat.zero_add, Nat.one_mul] at htiles

/-- The partial of a bit spans the block between the whole blocks of the level above and those of
its own level. -/
lemma tiles_partialAt (hbit : p.size.testBit level = true) :
    Tiles [p.partialAt level] (p.size / 2 ^ (level + 1) * 2 ^ (level + 1) : Nat)
      (p.size / 2 ^ level * 2 ^ level : Nat) := by
  have htiles := Block.tiles ⟨level, 2 * (p.size / 2 ^ (level + 1))⟩
  have hstop : Block.stop ⟨level, 2 * (p.size / 2 ^ (level + 1))⟩
      = p.size / 2 ^ level * 2 ^ level := by
    rw [Block.stop, Block.div_two_pow_of_set hbit]
  have haddress : Block.address ⟨level, 2 * (p.size / 2 ^ (level + 1))⟩ = p.partialAt level := by
    rw [Block.address_eq, hstop, partialAt]
  rwa [haddress, hstop, Block.start_left] at htiles

/-- The partials of the bits below a level tile what lies past the whole blocks of the level. -/
lemma tiles_partialsBelow (p : Plan) (level : Nat) :
    Tiles ((p.partialsBelow level).map (·.2)) (p.size / 2 ^ level * 2 ^ level : Nat) p.size := by
  induction level with
  | zero =>
    rw [Nat.pow_zero, Nat.div_one, Nat.mul_one]
    exact Tiles.nil _
  | succ level ih =>
    cases hbit : p.size.testBit level with
    | false => rwa [partialsBelow_of_clear hbit, ← Block.div_mul_two_pow_of_clear hbit]
    | true =>
      rw [partialsBelow_of_set hbit]
      exact (tiles_partialAt hbit).append ih

lemma tiles_partials (hbalanced : p.balanced = false) :
    Tiles (p.partials.map (·.2)) 0 p.size := by
  have htiles := p.tiles_partialsBelow p.levels
  rwa [← partials_eq hbalanced, Nat.div_eq_of_lt p.size_lt_two_pow_levels, Nat.zero_mul] at htiles

/-! ## Nodes, partials and query -/

@[simp] lemma length_nodes (p : Plan) : p.nodes.length = p.depth := by
  simp [nodes]

lemma getElem_nodes (hlevel : level < p.nodes.length) :
    p.nodes[level] = (p.siblingAt level).address := by
  simp [nodes]

/-- A node was complete at the size if all leaves that it spans are before the size. -/
lemma isComplete_iff_covers (ha : a ∈ p.nodes) :
    p.isComplete a = true ↔ ∀ x, a.Covers x → 0 ≤ x ∧ x < p.size := by
  obtain ⟨level, -, rfl⟩ := List.mem_map.1 ha
  rw [isComplete_address]
  simp only [Block.covers_address]
  have hlast := (p.siblingAt level).start_lt_stop
  constructor
  · intro hstop x hx
    omega
  · intro hinside
    have hbefore := hinside ((p.siblingAt level).stop - 1) (by omega)
    omega

lemma mem_query_iff_covers : a ∈ p.query ↔
    a ∈ p.partials.map (·.2) ∨ (a ∈ p.nodes ∧ ∀ x, a.Covers x → 0 ≤ x ∧ x < p.size) := by
  rw [query, List.mem_eraseDups, List.mem_append, List.mem_filter, Or.comm]
  exact or_congr_right (and_congr_right isComplete_iff_covers)

lemma map_fst_partials (p : Plan) : p.partials.map (·.1) = p.partialLevels := by
  simp [partials, Function.comp_def]

lemma nodup_levels (p : Plan) : (p.partials.map (·.1)).Nodup := by
  rw [map_fst_partials, partialLevels]
  split
  · exact List.nodup_nil
  · exact ((List.reverse_perm _).nodup_iff.2 List.nodup_range).filter _

lemma nodup_query (p : Plan) : p.query.Nodup :=
  Draft.nodup_eraseDups _

/-- What a plan asks for ends before the size, at a multiple of its width. -/
lemma leaf_of_mem_query (ha : a ∈ p.query) :
    a.leaf < p.size ∧ ((2 ^ a.level.toNat : Nat) : Int) ∣ a.leaf + 1 := by
  obtain ⟨b, rfl, hstop⟩ := exists_block_of_mem_query ha
  refine ⟨leaf_lt_of_mem_query ha, ?_⟩
  rw [Block.address_eq]
  dsimp only
  rw [Int.toNat_natCast, sub_add_cancel]
  exact Int.natCast_dvd_natCast.2 b.two_pow_dvd_stop

/-- What a plan asks for has a key as long as the size does not pass the reach of eight bytes. -/
lemma exists_key_of_mem_query (hsize : p.size ≤ 2 ^ 64) (ha : a ∈ p.query) :
    ∃ key, a.encode = .ok key := by
  obtain ⟨b, rfl, hstop⟩ := exists_block_of_mem_query ha
  have hmax : maxWord + 1 = 2 ^ 64 := rfl
  exact Address.encode_of_fits (Block.fits_address_iff.2 (hmax ▸ hstop.trans hsize))

/-! ## The geometry -/

/-- The shape of a plan. -/
structure Geometry (p : Plan) : Prop where
  /-- The nodes are as many as the bits below the least power of two with room for the leaves. -/
  size_le : p.size ≤ 2 ^ p.nodes.length
  least : ∀ w, p.size ≤ 2 ^ w → p.nodes.length ≤ w
  /-- There is one at each level, the sibling of the parent that stands there above the leaf. -/
  level_node : ∀ level (hlevel : level < p.nodes.length), p.nodes[level].level = level
  node_eq : ∀ level (hlevel : level < p.nodes.length),
    p.nodes[level] = (Address.parent^[level] ⟨0, p.leaf⟩).sibling
  /-- With the leaf they tile the tree. -/
  tiles_nodes : Tiles (⟨0, p.leaf⟩ :: p.nodes) 0 (2 ^ p.nodes.length : Nat)
  /-- A power of two has no partials. -/
  no_partials : p.size.isPowerOfTwo → p.partials = []
  /-- Any other size has one partial for each of its bits. -/
  mem_levels : ¬ p.size.isPowerOfTwo → ∀ level,
    level ∈ p.partials.map (·.1) ↔ p.size.testBit level = true
  nodup_levels : (p.partials.map (·.1)).Nodup
  level_partial : ∀ level a, (level, a) ∈ p.partials → a.level = level
  /-- They tile the leaves. -/
  tiles_partials : ¬ p.size.isPowerOfTwo → Tiles (p.partials.map (·.2)) 0 p.size
  /-- The partials are asked for, and those nodes that span leaves before the size only. -/
  mem_query : ∀ a, a ∈ p.query ↔
    a ∈ p.partials.map (·.2) ∨ (a ∈ p.nodes ∧ ∀ x, a.Covers x → 0 ≤ x ∧ x < p.size)
  nodup_query : p.query.Nodup
  /-- All that is asked for was complete at the size. -/
  complete : ∀ a ∈ p.query, a.leaf < p.size ∧ ((2 ^ a.level.toNat : Nat) : Int) ∣ a.leaf + 1
  /-- It has a key if every leaf has one. -/
  has_key : p.size ≤ 2 ^ 64 → ∀ a ∈ p.query, ∃ key, a.encode = .ok key

lemma geometry (p : Plan) : p.Geometry := by
  have hpower : ¬ p.size.isPowerOfTwo ↔ p.balanced = false := by
    rw [← balanced_iff_isPowerOfTwo, Bool.not_eq_true]
  have hdepth : p.nodes.length = Tree.depthFor p.size := by
    rw [length_nodes, depth_eq]
  constructor
  case size_le =>
    rw [hdepth]
    exact Tree.le_two_pow_depthFor _
  case least =>
    intro w hw
    rw [hdepth]
    exact Tree.depthFor_le_iff.2 hw
  case level_node =>
    intro level hlevel
    rw [getElem_nodes]
    rfl
  case tiles_nodes =>
    rw [length_nodes]
    exact p.tiles_nodes
  case node_eq =>
    intro level hlevel
    rw [getElem_nodes, ← Block.address_leaf, Block.iterate_parent_address, Block.sibling_address,
      siblingAt]
  case no_partials =>
    intro hsize
    exact partials_eq_nil (balanced_iff_isPowerOfTwo.2 hsize)
  case mem_levels =>
    intro hsize level
    rw [map_fst_partials, mem_partialLevels]
    exact and_iff_right (hpower.1 hsize)
  case nodup_levels => exact p.nodup_levels
  case level_partial =>
    intro level a ha
    obtain ⟨-, -, rfl⟩ := mem_partials.1 ha
    rfl
  case tiles_partials =>
    intro hsize
    exact tiles_partials (hpower.1 hsize)
  case mem_query => exact fun a => mem_query_iff_covers
  case nodup_query => exact p.nodup_query
  case complete => exact fun a ha => leaf_of_mem_query ha
  case has_key => exact fun hsize a ha => exists_key_of_mem_query hsize ha

/-- A plan is made for the leaves of a tree and refused for others.  Every plan has this shape,
whether its parts are read off the blocks or collected by flipping and setting bits. -/
theorem make_geometry (leaf size : Int) :
    (size ≤ 0 → make leaf size = .error .noProof) ∧
      (0 < size → ¬(0 ≤ leaf ∧ leaf < size) → make leaf size = .error (.leafOutside leaf size)) ∧
      (0 ≤ leaf → leaf < size →
        ∃ p, make leaf size = .ok p ∧ (p.leaf : Int) = leaf ∧ (p.size : Int) = size ∧ p.Geometry) ∧
      Draft.make leaf size = (make leaf size).map draft := by
  refine ⟨fun hsize => ?_, fun hsize hleaf => ?_, fun hnonneg hlt => ?_, Draft.make_eq leaf size⟩
  · rw [make, if_pos hsize]
  · rw [make, if_neg (by omega), dif_neg hleaf]
  · have hmake : make leaf size = .ok ⟨leaf.toNat, size.toNat, by omega⟩ := by
      rw [make, if_neg (by omega), dif_pos ⟨hnonneg, hlt⟩]
    exact ⟨_, hmake, Int.toNat_of_nonneg hnonneg, Int.toNat_of_nonneg (hnonneg.trans hlt.le),
      geometry _⟩

/-- The plan for the last of seven leaves: two siblings are complete, and the bits of seven are
three partials. -/
theorem make_geometry_lastOfSeven :
    (∃ p, make 6 7 = .ok p ∧ (p.leaf : Int) = 6 ∧ (p.size : Int) = 7 ∧ p.Geometry) ∧
      (make 6 7).map draft
        = .ok ⟨[⟨0, 7⟩, ⟨1, 5⟩, ⟨2, 3⟩], [⟨1, 5⟩, ⟨2, 3⟩, ⟨0, 6⟩],
          [(2, ⟨2, 3⟩), (1, ⟨1, 5⟩), (0, ⟨0, 6⟩)]⟩ := by
  obtain ⟨-, -, hplan, hdraft⟩ := make_geometry 6 7
  refine ⟨hplan (by decide) (by decide), ?_⟩
  rw [← hdraft]
  decide

end Plan

end MerkleLog
