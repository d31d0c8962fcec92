import MerkleLog.Proofs.Register
import MerkleLog.Proofs.Root

/-!
# Snapshots of an accumulator

A log takes any digest for a leaf, and keeps it as a partial.  Loading and the tree that partials
span read the zero digest as no partial.  So the slots of an accumulator are loaded again only if
the highest of them stands for itself.  The copy lacks the partials that do not, and with them their
leaves; but these never counted for the root, which stays the same.
-/

namespace MerkleLog

open Register (standing standing_none standing_zero standing_of_ne)

variable {h : Hash} {slots : List (Option Bytes)} {top : Bytes}

/-! ## What partials stand for -/

/-- Partials stand for themselves if none of them is the zero digest. -/
lemma Register.map_standing_eq_self : slots.map standing = slots ↔ some zeroDigest ∉ slots := by
  constructor
  · intro hself hzero
    rw [← hself, List.mem_map] at hzero
    obtain ⟨p, -, hp⟩ := hzero
    exact (standing_eq_some.1 hp).2 rfl
  · intro hzero
    refine (List.map_congr_left fun p hp => ?_).trans (List.map_id _)
    cases p with
    | none => exact standing_none
    | some d =>
      refine standing_of_ne ?_
      rintro rfl
      exact hzero hp

namespace Tree

/-- A tree spans what its partials stand for. -/
lemma ofPartialsFrom_map_standing (level : Nat) (built : Option (Tree × Nat))
    (slots : List (Option Bytes)) :
    ofPartialsFrom level built (slots.map standing) = ofPartialsFrom level built slots := by
  induction slots generalizing level built with
  | nil => rfl
  | cons p slots ih =>
    have hfilter : (standing p).filter (· ≠ zeroDigest) = p.filter (· ≠ zeroDigest) := by
      rw [standing, Option.filter_filter]
      simp
    rw [List.map_cons, ofPartialsFrom.eq_def, ofPartialsFrom.eq_def level built (p :: slots)]
    simp only [hfilter, ih]

lemma ofPartials_map_standing (slots : List (Option Bytes)) :
    ofPartials (slots.map standing) = ofPartials slots := by
  rw [ofPartials, ofPartialsFrom_map_standing, ofPartials]

/-- Where a size has one bit, the tree is the one partial. -/
lemma ofPartialsFrom_single {front : List (Option Bytes)} (htop : top ≠ zeroDigest)
    (hsize : Accumulator.sizeOfSlots (front ++ [some top]) = 2 ^ front.length) (level : Nat) :
    ofPartialsFrom level none (front ++ [some top])
      = some (complete (level + front.length) top) := by
  induction front generalizing level with
  | nil =>
    rw [List.nil_append, ofPartialsFrom_first level htop]
    rfl
  | cons slot front ih =>
    rw [List.cons_append, List.length_cons, Nat.pow_succ] at hsize
    cases slot with
    | some d =>
      rw [Accumulator.sizeOfSlots] at hsize
      omega
    | none =>
      rw [Accumulator.sizeOfSlots] at hsize
      have hrest := ih (by omega) (level + 1)
      rw [List.length_cons, Nat.add_comm front.length, ← Nat.add_assoc]
      exact hrest

end Tree

namespace Accumulator

variable {a : Accumulator} {leaves : List Bytes}

/-- Where the highest partial stands for itself, the root is that of the tree, whichever of the two
ways it is come by. -/
lemma root_eq_ofPartials {front : List (Option Bytes)} (htop : top ≠ zeroDigest)
    (hslots : a.slots = front ++ [some top]) :
    a.root h = .ok ((Tree.ofPartials a.slots).digest h) := by
  have hne : a.size ≠ 0 := by
    intro hzero
    have hbit := testBit_sizeOfSlots a.slots front.length
    rw [← size, hzero, Nat.zero_testBit, hslots, List.getElem?_concat_length] at hbit
    cases hbit
  rw [root, if_neg hne, hslots, List.getLast?_concat]
  dsimp only
  split_ifs with hpow
  · rw [List.length_append, List.length_singleton, Nat.add_sub_cancel] at hpow
    rw [size, hslots] at hpow
    rw [Tree.ofPartials, Tree.ofPartialsFrom_single htop hpow, Option.getD_some,
      Tree.digest_complete]
  · rfl

/-- The highest slot of a log with leaves is taken. -/
lemma eq_nil_or_exists_top (ha : Register.Held a)
    (htop : a.slots.getLast? ≠ some (some zeroDigest)) :
    a.slots = [] ∨ ∃ front top, a.slots = front ++ [some top] ∧ top ≠ zeroDigest := by
  rcases List.eq_nil_or_concat a.slots with hnil | ⟨front, last, hslots⟩
  · exact Or.inl hnil
  · have htaken := ha.top
    rw [List.concat_eq_append] at hslots
    rw [hslots, List.getLast?_concat] at htop htaken
    obtain ⟨top, rfl⟩ := Option.ne_none_iff_exists'.1 fun hnone => htaken (congrArg some hnone)
    exact Or.inr ⟨front, top, hslots, fun hzero => htop (by rw [hzero])⟩

/-- Looking through the slots of a log gives what they stand for. -/
lemma slotsOf_slots (ha : Register.Held a) : slotsOf 0 a.slots = .ok (a.slots.map standing) :=
  Register.slotsOf_eq_ok.2 ⟨rfl, fun d hd _ => ha.digests d hd⟩

/-- Partials of which the highest is the zero digest cannot be loaded. -/
lemma ofPartials_eq_topAbsent (ha : Register.Held a)
    (htop : a.slots.getLast? = some (some zeroDigest)) :
    ofPartials a.slots
      = .error (.topAbsent (a.slots.length - 1) (sizeOfSlots (a.slots.map standing))) := by
  have hlast : (a.slots.map standing).getLast? = some none := by
    rw [List.getLast?_map, htop, Option.map_some, standing_zero]
  rw [ofPartials, slotsOf_slots ha, ok_bind]
  dsimp only
  rw [if_pos hlast, List.length_map]
  rfl

/-- Any other partials can be loaded, and give what they stand for. -/
lemma ofPartials_eq_standing (ha : Register.Held a)
    (htop : a.slots.getLast? ≠ some (some zeroDigest)) :
    ofPartials a.slots = .ok ⟨a.slots.map standing⟩ := by
  refine Replay.ofPartials_eq_ok.2 ⟨slotsOf_slots ha, ?_, ?_⟩
  · refine Register.getLast?_map_standing.2 ?_
    rcases eq_nil_or_exists_top ha htop with hnil | ⟨front, top, htaken, hne⟩
    · exact Or.inl hnil
    · refine Or.inr ⟨top, ?_, hne⟩
      rw [htaken, List.getLast?_concat]
  · exact (Replay.sizeOfSlots_slotsOf (slotsOf_slots ha)).1.trans ha.size_le

/-- The root does not change if every partial is replaced by what it stands for. -/
lemma root_map_standing (ha : Register.Held a)
    (htop : a.slots.getLast? ≠ some (some zeroDigest)) :
    root h ⟨a.slots.map standing⟩ = a.root h := by
  rcases eq_nil_or_exists_top ha htop with hnil | ⟨front, top, hslots, hne⟩
  · have hempty : a = empty := congrArg Accumulator.mk hnil
    rw [hempty]
    rfl
  · have hstanding : a.slots.map standing = front.map standing ++ [some top] := by
      rw [hslots, List.map_append, List.map_singleton, standing_of_ne hne]
    rw [root_eq_ofPartials hne hslots, root_eq_ofPartials hne hstanding,
      Tree.ofPartials_map_standing]

lemma held_of_appendAll (ha : Register.Held a) {b : Accumulator}
    (hrun : a.appendAll h leaves = .ok b) : Register.Held b := by
  induction leaves generalizing a with
  | nil =>
    obtain rfl := Except.ok.inj hrun
    exact ha
  | cons leaf leaves ih =>
    obtain ⟨next, events, hstep, hrest⟩ := appendAll_cons_eq_ok.1 hrun
    exact ih (ha.append hstep) hrest

/-- The partials of a log can be loaded unless the highest is the zero digest.  The copy has the
same root.  It has the same number of leaves and the same partials exactly if none of these is the
zero digest, which it reads as absent. -/
theorem ofPartials_slots_of_appendAll (hrun : empty.appendAll h leaves = .ok a) :
    (a.slots.getLast? = some (some zeroDigest) → ofPartials a.slots
      = .error (.topAbsent (a.slots.length - 1) (sizeOfSlots (a.slots.map standing)))) ∧
    (a.slots.getLast? ≠ some (some zeroDigest) → ∃ copy : Accumulator,
      ofPartials a.slots = .ok copy ∧
      copy.root h = a.root h ∧
      copy.slots = a.slots.map standing ∧
      (copy.slots = a.slots ↔ some zeroDigest ∉ a.slots) ∧
      (copy.size = a.size ↔ some zeroDigest ∉ a.slots)) := by
  have ha := held_of_appendAll Register.Held.empty hrun
  refine ⟨ofPartials_eq_topAbsent ha, fun htop => ?_⟩
  refine ⟨_, ofPartials_eq_standing ha htop, root_map_standing ha htop, rfl,
    Register.map_standing_eq_self, fun hsize => ?_, fun hzero => ?_⟩
  · exact Register.map_standing_eq_self.1 ((Replay.sizeOfSlots_slotsOf (slotsOf_slots ha)).2 hsize)
  · rw [size, Register.map_standing_eq_self.2 hzero, size]

/-- Three leaves, of which the last is the zero digest. -/
def zeroThird : List Bytes :=
  [List.replicate digestSize 1, List.replicate digestSize 2, zeroDigest]

/-- The log with these leaves. -/
def ofZeroThird : Accumulator :=
  ⟨[some zeroDigest,
    some (Sha256.hash.pair (List.replicate digestSize 1) (List.replicate digestSize 2))]⟩

/-- The copy of a log whose last leaf is the zero digest lacks that leaf. -/
theorem ofPartials_slots_of_appendAll_zeroThird :
    ∃ copy : Accumulator, empty.appendAll Sha256.hash zeroThird = .ok ofZeroThird ∧
      ofPartials ofZeroThird.slots = .ok copy ∧ copy.size ≠ ofZeroThird.size ∧
      copy.root Sha256.hash = ofZeroThird.root Sha256.hash := by
  have hrun : empty.appendAll Sha256.hash zeroThird = .ok ofZeroThird := rfl
  have htop : ofZeroThird.slots.getLast? ≠ some (some zeroDigest) := by decide +kernel
  obtain ⟨copy, hcopy, hroot, -, -, hsize⟩ := (ofPartials_slots_of_appendAll hrun).2 htop
  exact ⟨copy, hrun, hcopy, fun hsame => hsize.1 hsame List.mem_cons_self, hroot⟩

/-- The partials of a log whose only leaf is the zero digest cannot be loaded. -/
theorem ofPartials_slots_zeroLeaf :
    ∃ a : Accumulator, empty.appendAll Sha256.hash [zeroDigest] = .ok a ∧
      ∀ copy, ofPartials a.slots ≠ .ok copy := by
  refine ⟨⟨[some zeroDigest]⟩, rfl, fun copy hcopy => ?_⟩
  have hrefused : ofPartials [some zeroDigest] = .error (.topAbsent 0 0) := rfl
  rw [hrefused] at hcopy
  cases hcopy

end Accumulator

end MerkleLog
