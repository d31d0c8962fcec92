import MerkleLog.Proofs.Tree

/-!
# Trees with even halves

Read from the left, the end nodes of a tree cover its positions one after the other.  Where the two
halves of every inner node have one capacity, a leaf below a node says much about the node: its
capacity is a power of two, and the comparisons on the way down lead to the leaf.  So a position is
proved exactly if a leaf stands there.
-/

namespace MerkleLog

namespace Tree

variable {h : Hash} {t l r : Tree} {i : Int} {d : Bytes} {path : List Bytes}

/-- The two halves of every inner node have one capacity. -/
def Halved : Tree → Prop
  | empty _ | leaf _ | summary _ _ => True
  | internal l r => l.Halved ∧ r.Halved ∧ l.capacity = r.capacity

instance decidableHalved : (t : Tree) → Decidable t.Halved
  | empty _ | leaf _ | summary _ _ => isTrue trivial
  | internal l r =>
    have := decidableHalved l
    have := decidableHalved r
    inferInstanceAs (Decidable (l.Halved ∧ r.Halved ∧ l.capacity = r.capacity))

/-- The digests that a tree is made of have the size of one. -/
def Digested : Tree → Prop
  | empty _ => True
  | leaf d | summary d _ => isDigest d = true
  | internal l r => l.Digested ∧ r.Digested

/-- The end nodes from the left, each with the first position that it covers. -/
def ends : Tree → List (Int × Tree)
  | empty n => [(0, empty n)]
  | leaf d => [(0, leaf d)]
  | summary d n => [(0, summary d n)]
  | internal l r => l.ends ++ r.ends.map fun (i, e) => (l.capacity + i, e)

/-! ## Where leaves stand -/

@[simp] lemma leaf_mem_ends_empty (n : Int) : (i, leaf d) ∉ (empty n).ends := by
  simp [ends]

@[simp] lemma leaf_mem_ends_summary (e : Bytes) (n : Int) : (i, leaf d) ∉ (summary e n).ends := by
  simp [ends]

@[simp] lemma leaf_mem_ends_leaf {e : Bytes} : (i, leaf d) ∈ (leaf e).ends ↔ i = 0 ∧ d = e := by
  simp [ends]

/-- Below an inner node, a leaf stands in one of the halves, counted from where the half starts. -/
lemma leaf_mem_ends_internal :
    (i, leaf d) ∈ (internal l r).ends ↔
      (i, leaf d) ∈ l.ends ∨ (i - l.capacity, leaf d) ∈ r.ends := by
  rw [ends, List.mem_append, List.mem_map]
  refine or_congr_right ⟨?_, fun hright => ⟨_, hright, ?_⟩⟩
  · rintro ⟨⟨j, e⟩, hmem, heq⟩
    obtain ⟨rfl, rfl⟩ := Prod.mk.inj heq
    rwa [add_sub_cancel_left]
  · simp

lemma isDigest_of_mem_ends (ht : t.Digested) (hleaf : (i, leaf d) ∈ t.ends) :
    isDigest d = true := by
  induction t generalizing i with
  | empty n => exact absurd hleaf (leaf_mem_ends_empty n)
  | leaf e =>
    obtain ⟨-, rfl⟩ := leaf_mem_ends_leaf.1 hleaf
    exact ht
  | summary e n => exact absurd hleaf (leaf_mem_ends_summary e n)
  | internal l r ihl ihr =>
    rcases leaf_mem_ends_internal.1 hleaf with hleft | hright
    · exact ihl ht.1 hleft
    · exact ihr ht.2 hright

/-- A leaf stands within the capacity, which is a power of two. -/
lemma bounds_of_mem_ends (ht : t.Halved) (hleaf : (i, leaf d) ∈ t.ends) :
    0 ≤ i ∧ i < t.capacity ∧ ∃ k : Nat, t.capacity = 2 ^ k := by
  induction t generalizing i with
  | empty n => exact absurd hleaf (leaf_mem_ends_empty n)
  | leaf e =>
    obtain ⟨rfl, -⟩ := leaf_mem_ends_leaf.1 hleaf
    exact ⟨le_rfl, Int.zero_lt_one, 0, rfl⟩
  | summary e n => exact absurd hleaf (leaf_mem_ends_summary e n)
  | internal l r ihl ihr =>
    obtain ⟨hl, hr, heven⟩ := ht
    have hdouble : ∀ k : Nat, (2 : Int) ^ (k + 1) = 2 ^ k + 2 ^ k := fun k => by ring
    rw [capacity]
    -- the half without the leaf has the capacity of the other
    rcases leaf_mem_ends_internal.1 hleaf with hleft | hright
    · obtain ⟨hlow, hhigh, k, hk⟩ := ihl hl hleft
      refine ⟨hlow, by omega, k + 1, ?_⟩
      rw [← heven, hk, hdouble]
    · obtain ⟨hlow, hhigh, k, hk⟩ := ihr hr hright
      refine ⟨by omega, by omega, k + 1, ?_⟩
      rw [heven, hk, hdouble]

/-- A leaf in the left half stands before the middle. -/
lemma lt_capacity_of_mem_ends (ht : (internal l r).Halved) (hleaf : (i, leaf d) ∈ l.ends) :
    i < l.capacity :=
  (bounds_of_mem_ends ht.1 hleaf).2.1

/-- A leaf in the right half stands at the middle or past it. -/
lemma capacity_le_of_mem_ends (ht : (internal l r).Halved)
    (hleaf : (i - l.capacity, leaf d) ∈ r.ends) : l.capacity ≤ i := by
  obtain ⟨hlow, -, -⟩ := bounds_of_mem_ends ht.2.1 hleaf
  omega

/-! ## Which positions are proved -/

/-- The comparisons on the way down lead to a leaf, if to anything, and pass as many levels as the
capacity has doublings. -/
lemma exists_leaf_of_prove (ht : t.Halved) (hpath : t.prove h i = some path) :
    (∃ d, (i, leaf d) ∈ t.ends) ∧ t.capacity = 2 ^ path.length := by
  induction t generalizing i path with
  | empty n => cases hpath
  | leaf e =>
    rw [prove] at hpath
    split_ifs at hpath with hi
    obtain rfl := Option.some.inj hpath
    exact ⟨⟨e, leaf_mem_ends_leaf.2 ⟨hi, rfl⟩⟩, rfl⟩
  | summary e n => cases hpath
  | internal l r ihl ihr =>
    obtain ⟨hl, hr, heven⟩ := ht
    rw [prove] at hpath
    rw [capacity]
    split_ifs at hpath with hi
    · obtain ⟨below, hbelow, rfl⟩ := Option.map_eq_some_iff.1 hpath
      obtain ⟨⟨d, hleaf⟩, hk⟩ := ihl hl hbelow
      refine ⟨⟨d, leaf_mem_ends_internal.2 (Or.inl hleaf)⟩, ?_⟩
      rw [← heven, hk, List.length_append, List.length_singleton]
      ring
    · obtain ⟨below, hbelow, rfl⟩ := Option.map_eq_some_iff.1 hpath
      obtain ⟨⟨d, hleaf⟩, hk⟩ := ihr hr hbelow
      refine ⟨⟨d, leaf_mem_ends_internal.2 (Or.inr hleaf)⟩, ?_⟩
      rw [heven, hk, List.length_append, List.length_singleton]
      ring

/-- The position of a leaf has no more bits than its path has digests. -/
lemma exists_place (ht : t.Halved) (hleaf : (i, leaf d) ∈ t.ends)
    (hpath : t.prove h i = some path) : ∃ j : Nat, i = j ∧ j < 2 ^ path.length := by
  obtain ⟨hlow, hhigh, -⟩ := bounds_of_mem_ends ht hleaf
  obtain ⟨-, hcapacity⟩ := exists_leaf_of_prove ht hpath
  obtain ⟨j, rfl⟩ := Int.eq_ofNat_of_zero_le hlow
  rw [hcapacity] at hhigh
  exact ⟨j, rfl, by exact_mod_cast hhigh⟩

/-- Where a leaf stands, the comparisons on the way down lead to it. -/
lemma exists_prove_of_leaf (ht : t.Halved) (hleaf : (i, leaf d) ∈ t.ends) :
    ∃ path, t.prove h i = some path := by
  induction t generalizing i with
  | empty n => exact absurd hleaf (leaf_mem_ends_empty n)
  | leaf e =>
    obtain ⟨rfl, -⟩ := leaf_mem_ends_leaf.1 hleaf
    exact ⟨[], rfl⟩
  | summary e n => exact absurd hleaf (leaf_mem_ends_summary e n)
  | internal l r ihl ihr =>
    rw [prove]
    rcases leaf_mem_ends_internal.1 hleaf with hleft | hright
    · obtain ⟨below, hbelow⟩ := ihl ht.1 hleft
      rw [if_pos (lt_capacity_of_mem_ends ht hleft), hbelow]
      exact ⟨_, rfl⟩
    · obtain ⟨below, hbelow⟩ := ihr ht.2.1 hright
      rw [if_neg (capacity_le_of_mem_ends ht hright).not_gt, hbelow]
      exact ⟨_, rfl⟩

end Tree

end MerkleLog
