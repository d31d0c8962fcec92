import Mathlib.Order.Bounds.Basic
import MerkleLog.Proofs.Register
import MerkleLog.Proofs.Running
import MerkleLog.Proofs.Shape

/-!
# What built trees cover

Read from the left, the nodes of a built tree that are not empty stand side by side from the first
position on.  A tree is put together from a left half that they fill and a right half, or from a
left half and empty positions, so that both ways of building keep this up; its capacity is the least
power of two with room for what it holds.
-/

namespace MerkleLog

namespace Tree

open Register (standing standing_none standing_of_ne impliedSize)

variable {t l r : Tree} {nodes others : List Tree} {lo mid hi : Int} {size level lag : Nat}
  {leaves : List Bytes} {partials : List (Option Bytes)}

/-! ## Nodes side by side -/

/-- Whether a tree is one empty node. -/
def isEmpty : Tree → Bool
  | empty _ => true
  | _ => false

/-- The end nodes from the left that are not empty, each with the first position that it covers. -/
def filled (t : Tree) : List (Int × Tree) := t.ends.filter fun e => !e.2.isEmpty

/-- The first node starts at `lo`, every other one where the one before it ends, and the last one
ends at `hi`. -/
def Abut : Int → List (Int × Tree) → Int → Prop
  | lo, [], hi => lo = hi
  | lo, (i, e) :: rest, hi => i = lo ∧ 0 < e.capacity ∧ Abut (lo + e.capacity) rest hi

lemma Abut.append {ends others : List (Int × Tree)} (hlow : Abut lo ends mid)
    (hhigh : Abut mid others hi) : Abut lo (ends ++ others) hi := by
  induction ends generalizing lo with
  | nil =>
    obtain rfl : lo = mid := hlow
    exact hhigh
  | cons e ends ih =>
    obtain ⟨hstart, hpos, hrest⟩ := hlow
    exact ⟨hstart, hpos, ih hrest⟩

lemma Abut.shift {ends : List (Int × Tree)} (hends : Abut lo ends hi) (k : Int) :
    Abut (k + lo) (ends.map fun (i, e) => (k + i, e)) (k + hi) := by
  induction ends generalizing lo with
  | nil =>
    obtain rfl : lo = hi := hends
    rfl
  | cons e ends ih =>
    obtain ⟨hstart, hpos, hrest⟩ := hends
    refine ⟨congrArg (k + ·) hstart, hpos, ?_⟩
    rw [add_assoc]
    exact ih hrest

/-- The nodes of a tree that are not empty, from the left, which stand side by side on the first
positions. -/
structure Spans (t : Tree) (nodes : List Tree) (size : Int) : Prop where
  nodes_eq : t.filled.map (·.2) = nodes
  abut : Abut 0 t.filled size

lemma filled_internal (l r : Tree) :
    (internal l r).filled = l.filled ++ r.filled.map fun (i, e) => (l.capacity + i, e) := by
  rw [filled, ends, List.filter_append, List.filter_map]
  rfl

lemma spans_empty (n : Int) : (empty n).Spans [] 0 := ⟨rfl, rfl⟩

lemma spans_leaf (d : Bytes) : (leaf d).Spans [leaf d] 1 :=
  ⟨rfl, rfl, Int.zero_lt_one, rfl⟩

/-- Beside a tree whose nodes fill it, those of another one go on. -/
lemma Spans.join {n : Int} (hl : l.Spans nodes l.capacity) (hr : r.Spans others n) :
    (internal l r).Spans (nodes ++ others) (l.capacity + n) where
  nodes_eq := by
    rw [filled_internal, List.map_append, hl.nodes_eq, List.map_map, ← hr.nodes_eq]
    rfl
  abut := by
    have hright := hr.abut.shift l.capacity
    rw [add_zero] at hright
    rw [filled_internal]
    exact hl.abut.append hright

/-- Empty positions on the right change nothing. -/
lemma Spans.pad {n : Int} (ht : t.Spans nodes n) (m : Int) :
    (internal t (empty m)).Spans nodes n := by
  have hfilled : (internal t (empty m)).filled = t.filled := by
    rw [filled_internal]
    exact List.append_nil _
  constructor
  · rw [hfilled, ht.nodes_eq]
  · rw [hfilled]
    exact ht.abut

/-! ## Halves -/

/-- The two halves of every inner node have one capacity, a power of two, and the left one is not
empty. -/
def WellFormed : Tree → Prop
  | empty _ | leaf _ | summary _ _ => True
  | internal l r =>
    l.WellFormed ∧ r.WellFormed ∧ (∃ k : Nat, l.capacity = 2 ^ k ∧ r.capacity = 2 ^ k) ∧
      l.isEmpty = false

/-- A tree with some nodes, side by side on its first positions, as small as it can be. -/
structure Covers (t : Tree) (nodes : List Tree) (size : Nat) : Prop where
  /-- The capacity is the least power of two with room for the positions, and at least one. -/
  capacity : IsLeast {c : Int | (∃ k : Nat, c = 2 ^ k) ∧ max (size : Int) 1 ≤ c} t.capacity
  wellFormed : t.WellFormed
  spans : t.Spans nodes size

lemma isLeast_capacity {k : Nat} (hcapacity : t.capacity = 2 ^ k)
    (hleast : ∀ j, size ≤ 2 ^ j ↔ k ≤ j) :
    IsLeast {c : Int | (∃ k : Nat, c = 2 ^ k) ∧ max (size : Int) 1 ≤ c} t.capacity := by
  have hcast : ∀ j : Nat, (2 : Int) ^ j = (2 ^ j : Nat) := fun j => by norm_cast
  constructor
  · refine ⟨⟨k, hcapacity⟩, ?_⟩
    have hroom := (hleast k).2 le_rfl
    have hpos := Nat.two_pow_pos k
    rw [hcapacity, hcast]
    omega
  · rintro c ⟨⟨j, rfl⟩, hroom⟩
    rw [hcast] at hroom
    have hkj := (hleast j).1 (by omega)
    rw [hcapacity, hcast, hcast]
    exact_mod_cast Nat.pow_le_pow_right (by decide) hkj

/-! ## Trees over leaves -/

lemma isEmpty_ofLeavesAt (depth : Nat) (hleaves : leaves ≠ []) :
    (ofLeavesAt depth leaves).isEmpty = false := by
  cases leaves with
  | nil => exact absurd rfl hleaves
  | cons d rest => cases depth <;> rfl

lemma wellFormed_ofLeavesAt (depth : Nat) (leaves : List Bytes) :
    (ofLeavesAt depth leaves).WellFormed := by
  induction depth generalizing leaves with
  | zero => cases leaves <;> exact trivial
  | succ depth ih =>
    cases leaves with
    | nil => exact trivial
    | cons d rest =>
      rw [ofLeavesAt_succ (List.cons_ne_nil d rest)]
      refine ⟨ih _, ih _, ⟨depth, ?_, ?_⟩, isEmpty_ofLeavesAt depth (List.cons_ne_nil d rest)⟩
      · exact capacity_ofLeavesAt depth _
      · exact capacity_ofLeavesAt depth _

/-- The leaves stand in order from the first position on. -/
lemma spans_ofLeavesAt {depth : Nat} (hroom : leaves.length ≤ 2 ^ depth) :
    (ofLeavesAt depth leaves).Spans (leaves.map leaf) leaves.length := by
  induction depth generalizing leaves with
  | zero =>
    match leaves, hroom with
    | [], _ => exact spans_empty 1
    | [d], _ => exact spans_leaf d
  | succ depth ih =>
    cases leaves with
    | nil =>
      rw [ofLeavesAt_nil]
      exact spans_empty _
    | cons d rest =>
      rw [Nat.pow_succ] at hroom
      have hrest : ((d :: rest).drop (2 ^ depth)).length ≤ 2 ^ depth := by
        rw [List.length_drop]
        omega
      have hright := ih hrest
      rcases Nat.le_or_le (d :: rest).length (2 ^ depth) with hfew | hmany
      · -- all leaves are in the left half
        have hleft := ih hfew
        rw [ofLeavesAt_succ (List.cons_ne_nil d rest), List.drop_eq_nil_of_le hfew, ofLeavesAt_nil]
        exact hleft.pad _
      · -- the left half is full
        have htake : ((d :: rest).take (2 ^ depth)).length = 2 ^ depth := by
          rw [List.length_take, Nat.min_eq_left hmany]
        have hleft := ih htake.le
        have hcapacity := capacity_ofLeavesAt depth (d :: rest)
        have hfull : (((d :: rest).take (2 ^ depth)).length : Int)
            = (ofLeavesAt depth (d :: rest)).capacity := by
          rw [htake, hcapacity]
          norm_cast
        rw [ofLeavesAt_take le_rfl, hfull] at hleft
        have hjoined := hleft.join hright
        have hlength : (ofLeavesAt depth (d :: rest)).capacity
            + (((d :: rest).drop (2 ^ depth)).length : Int) = (d :: rest).length := by
          rw [← hfull, htake, List.length_drop]
          omega
        rw [← List.map_append, List.take_append_drop, hlength] at hjoined
        rw [ofLeavesAt_succ (List.cons_ne_nil d rest)]
        exact hjoined

lemma covers_ofLeaves (leaves : List Bytes) :
    (ofLeaves leaves).Covers (leaves.map leaf) leaves.length where
  capacity := isLeast_capacity (capacity_ofLeavesAt _ _) fun _ => depthFor_le_iff.symm
  wellFormed := wellFormed_ofLeavesAt _ leaves
  spans := spans_ofLeavesAt (le_two_pow_depthFor _)

/-! ## Trees over partials -/

/-- The node that a partial stands for at a level, if it stands for any: a leaf at the lowest level,
and a complete subtree known by its digest above it. -/
def nodeOf (p : Option Bytes) (level : Nat) : Option Tree :=
  (standing p).map fun d => if level = 0 then leaf d else summary d (2 ^ level)

/-- The nodes that partials stand for from a level upward, lowest first. -/
def nodesFrom (level : Nat) (partials : List (Option Bytes)) : List Tree :=
  (partials.zipIdx level).filterMap fun (p, level) => nodeOf p level

lemma nodesFrom_of_none {p : Option Bytes} (hp : standing p = none) (level : Nat)
    (partials : List (Option Bytes)) :
    nodesFrom level (p :: partials) = nodesFrom (level + 1) partials := by
  simp [nodesFrom, nodeOf, hp]

lemma nodesFrom_of_some {p : Option Bytes} {d : Bytes} (hp : standing p = some d) (level : Nat)
    (partials : List (Option Bytes)) :
    nodesFrom level (p :: partials) = complete level d :: nodesFrom (level + 1) partials := by
  simp [nodesFrom, nodeOf, hp, complete]

/-- A tree over the partials below a level, some doublings short of it: its nodes fill more than
half of it. -/
structure Built (level lag : Nat) (t : Tree) (nodes : List Tree) (size : Nat) : Prop where
  wellFormed : t.WellFormed
  isEmpty_eq : t.isEmpty = false
  spans : t.Spans nodes size
  capacity : ∃ k, t.capacity = 2 ^ k ∧ k + lag = level ∧ size ≤ 2 ^ k ∧ 2 ^ k < 2 * size

namespace Built

lemma skip (ht : Built level lag t nodes size) : Built (level + 1) (lag + 1) t nodes size where
  wellFormed := ht.wellFormed
  isEmpty_eq := ht.isEmpty_eq
  spans := ht.spans
  capacity := by
    obtain ⟨k, hcapacity, hk, hroom⟩ := ht.capacity
    exact ⟨k, hcapacity, by omega, hroom⟩

/-- The tree as wide as the level, padded on its right. -/
lemma padded (ht : Built level lag t nodes size) :
    (widen lag t).WellFormed ∧ (widen lag t).Spans nodes size ∧
      (widen lag t).capacity = 2 ^ level := by
  obtain ⟨k, hcapacity, hk, -⟩ := ht.capacity
  have hwide : ∀ n, (widen n t).capacity = 2 ^ (k + n) := fun n => by
    rw [capacity_widen, hcapacity, pow_add]
  -- every doubling has the tree widened so far on its left
  have hpadded : ∀ n, (widen n t).WellFormed ∧ (widen n t).isEmpty = false ∧
      (widen n t).Spans nodes size := by
    intro n
    induction n with
    | zero => exact ⟨ht.wellFormed, ht.isEmpty_eq, ht.spans⟩
    | succ n ih =>
      obtain ⟨hwellFormed, hempty, hspans⟩ := ih
      rw [widen_succ]
      exact ⟨⟨hwellFormed, trivial, ⟨k + n, hwide n, hwide n⟩, hempty⟩, rfl, hspans.pad _⟩
  obtain ⟨hwellFormed, -, hspans⟩ := hpadded lag
  exact ⟨hwellFormed, hspans, by rw [hwide, hk]⟩

end Built

lemma wellFormed_complete (level : Nat) (d : Bytes) : (complete level d).WellFormed := by
  unfold complete
  split <;> exact trivial

lemma isEmpty_complete (level : Nat) (d : Bytes) : (complete level d).isEmpty = false := by
  unfold complete
  split <;> rfl

lemma spans_complete (level : Nat) (d : Bytes) :
    (complete level d).Spans [complete level d] (2 ^ level) := by
  have hends : (complete level d).ends = [(0, complete level d)] := by
    unfold complete
    split <;> rfl
  have hfilled : (complete level d).filled = [(0, complete level d)] := by
    simp [filled, hends, isEmpty_complete]
  have hpos : (0 : Int) < 2 ^ level := by exact_mod_cast Nat.two_pow_pos level
  constructor
  · rw [hfilled]
    rfl
  · rw [hfilled, Abut, capacity_complete, Abut, zero_add]
    exact ⟨rfl, hpos, rfl⟩

lemma built_complete (level : Nat) (d : Bytes) :
    Built (level + 1) 1 (complete level d) [complete level d] (2 ^ level) where
  wellFormed := wellFormed_complete level d
  isEmpty_eq := isEmpty_complete level d
  spans := by exact_mod_cast spans_complete level d
  capacity := by
    have hpos := Nat.two_pow_pos level
    exact ⟨level, capacity_complete level d, rfl, le_rfl, by omega⟩

namespace Built

/-- A partial joins the padded tree from the left. -/
lemma join (ht : Built level lag t nodes size) (d : Bytes) :
    Built (level + 1) 0 (internal (complete level d) (widen lag t)) (complete level d :: nodes)
      (2 ^ level + size) := by
  obtain ⟨hwellFormed, hspans, hwide⟩ := ht.padded
  have hcomplete := capacity_complete level d
  constructor
  case wellFormed =>
    exact ⟨wellFormed_complete level d, hwellFormed, ⟨level, hcomplete, hwide⟩,
      isEmpty_complete level d⟩
  case isEmpty_eq => rfl
  case spans =>
    have hleft := spans_complete level d
    rw [← hcomplete] at hleft
    have hjoined := hleft.join hspans
    rw [hcomplete] at hjoined
    exact_mod_cast hjoined
  case capacity =>
    obtain ⟨k, -, hk, hroom, hfilled⟩ := ht.capacity
    have hpow : 2 ^ k ≤ 2 ^ level := Nat.pow_le_pow_right (by decide) (by omega)
    refine ⟨level + 1, ?_, rfl, ?_, ?_⟩
    · rw [Tree.capacity, hcomplete, hwide, pow_succ]
      ring
    · rw [Nat.pow_succ]
      omega
    · rw [Nat.pow_succ]
      omega

/-- The partials from a level upward join from the left, one after the other. -/
lemma exists_ofPartialsFrom (ht : Built level lag t nodes size)
    (partials : List (Option Bytes)) :
    ∃ t' level' lag', ofPartialsFrom level (some (t, lag)) partials = some t' ∧
      Built level' lag' t' ((nodesFrom level partials).reverse ++ nodes)
        (Accumulator.sizeAt level (partials.map standing) + size) := by
  induction partials generalizing level lag t nodes size with
  | nil => exact ⟨t, level, lag, rfl, by simpa [nodesFrom] using ht⟩
  | cons p partials ih =>
    rw [List.map_cons]
    cases hp : standing p with
    | none =>
      obtain ⟨t', level', lag', hfold, hbuilt⟩ := ih ht.skip
      rw [ofPartialsFrom_skip level _ hp, nodesFrom_of_none hp, Accumulator.sizeAt_none]
      exact ⟨t', level', lag', hfold, hbuilt⟩
    | some d =>
      obtain ⟨rfl, hzero⟩ := Register.standing_eq_some.1 hp
      obtain ⟨t', level', lag', hfold, hbuilt⟩ := ih (ht.join d)
      rw [ofPartialsFrom_join level lag t hzero, nodesFrom_of_some hp, Accumulator.sizeAt_some,
        List.reverse_cons, List.append_assoc, List.singleton_append, Nat.add_assoc]
      exact ⟨t', level', lag', hfold, hbuilt⟩

lemma covers (ht : Built level lag t nodes size) : t.Covers nodes size where
  capacity := by
    obtain ⟨k, hcapacity, -, hroom, hfilled⟩ := ht.capacity
    refine isLeast_capacity hcapacity fun j => ?_
    rw [← depthFor_eq hfilled hroom, depthFor_le_iff]
  wellFormed := ht.wellFormed
  spans := ht.spans

end Built

/-- The first partial that stands for leaves starts the tree, if there is one. -/
lemma exists_built (level : Nat) (partials : List (Option Bytes)) :
    (ofPartialsFrom level none partials = none ∧ nodesFrom level partials = [] ∧
        Accumulator.sizeAt level (partials.map standing) = 0) ∨
      ∃ t level' lag', ofPartialsFrom level none partials = some t ∧
        Built level' lag' t (nodesFrom level partials).reverse
          (Accumulator.sizeAt level (partials.map standing)) := by
  induction partials generalizing level with
  | nil => exact Or.inl ⟨rfl, rfl, Accumulator.sizeAt_nil level⟩
  | cons p partials ih =>
    rw [List.map_cons]
    cases hp : standing p with
    | none =>
      rw [ofPartialsFrom_skip level _ hp, nodesFrom_of_none hp, Accumulator.sizeAt_none]
      exact ih (level + 1)
    | some d =>
      obtain ⟨rfl, hzero⟩ := Register.standing_eq_some.1 hp
      have hbuilt := (built_complete level d).exists_ofPartialsFrom partials
      rw [ofPartialsFrom_first level hzero, nodesFrom_of_some hp, Accumulator.sizeAt_some,
        List.reverse_cons]
      exact Or.inr hbuilt

lemma covers_ofPartials (partials : List (Option Bytes)) :
    (ofPartials partials).Covers (nodesFrom 0 partials).reverse (impliedSize partials) := by
  rw [← Register.sizeOfSlots_map_standing, ← Accumulator.sizeAt_zero]
  rcases exists_built 0 partials with ⟨hfold, hnodes, hsize⟩ | ⟨t, level, lag, hfold, hbuilt⟩
  · rw [ofPartials, hfold, hnodes, hsize]
    exact covers_ofLeaves []
  · rw [ofPartials, hfold]
    exact hbuilt.covers

/-! ## Both ways of building -/

/-- Trees over partials and trees over leaves are well formed and cover the first positions.  The
tree over partials holds a node for each partial that counts, the highest first, and the tree over
leaves holds the leaves in order.  Both are also what is built with a running capacity. -/
theorem builders_cover :
    (∀ partials : List (Option Bytes),
      (ofPartials partials).Covers (nodesFrom 0 partials).reverse (impliedSize partials) ∧
        spine partials = ofPartials partials) ∧
    ∀ leaves : List Bytes,
      (ofLeaves leaves).Covers (leaves.map leaf) leaves.length ∧ divided leaves = ofLeaves leaves :=
  ⟨fun partials => ⟨covers_ofPartials partials, spine_eq partials⟩,
    fun leaves => ⟨covers_ofLeaves leaves, divided_eq leaves⟩⟩

/-- Between a leaf and a subtree of eight leaves, seven positions are empty: one on each level that
the leaf is padded through. -/
example : (ofPartials [some [1], none, some zeroDigest, some [2]]).ends
    = [(0, summary [2] 8), (8, leaf [1]), (9, empty 1), (10, empty 2), (12, empty 4)] := by
  decide

end Tree

end MerkleLog
