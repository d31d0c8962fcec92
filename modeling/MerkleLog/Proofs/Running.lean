import MerkleLog.Proofs.Root
import MerkleLog.Tree.Running

/-!
# Running capacities build the same trees

The capacity of a level is a power of two throughout.  So a tree is as many doublings short of it as
it was folded levels ago, and the positions that are halved are those of a depth.
-/

namespace MerkleLog

namespace Tree

variable {t : Tree} {leaves : List Bytes} {level lag depth : Nat}

/-! ## Padding -/

lemma capacity_complete (level : Nat) (d : Bytes) : (complete level d).capacity = 2 ^ level := by
  unfold complete
  split
  · rename_i hlevel
    rw [hlevel]
    rfl
  · rfl

lemma capacity_widen (lag : Nat) (t : Tree) : (widen lag t).capacity = t.capacity * 2 ^ lag := by
  induction lag generalizing t with
  | zero => simp [widen]
  | succ lag ih =>
    rw [widen, ih, capacity, capacity]
    ring

/-- A tree with positions is padded as often as it is doublings short. -/
lemma pad_eq_widen {room : Int} (hpos : 0 < t.capacity) (hroom : t.capacity * 2 ^ lag = room) :
    t.pad room = widen lag t := by
  induction lag generalizing t with
  | zero =>
    have hfull : t.capacity = room := by simpa using hroom
    rw [pad, if_neg (by omega), widen]
  | succ lag ih =>
    have hdouble : (internal t (empty t.capacity)).capacity = t.capacity * 2 := by
      rw [capacity, capacity]
      ring
    have hshort : t.capacity < room := by
      have hpow : (1 : Int) ≤ 2 ^ lag := by exact_mod_cast Nat.one_le_two_pow
      have hmul := Int.mul_le_mul_of_nonneg_left hpow hpos.le
      rw [pow_succ, ← mul_assoc] at hroom
      omega
    rw [pad, if_pos ⟨hpos, hshort⟩, widen]
    refine ih ?_ ?_
    · omega
    · rw [hdouble, ← hroom]
      ring

/-! ## Spines -/

/-- A partial that stands for no leaves leaves the tree one more doubling short. -/
lemma ofPartialsFrom_skip (level : Nat) (built : Option (Tree × Nat)) {p : Option Bytes}
    (hp : p.filter (· ≠ zeroDigest) = none) (rest : List (Option Bytes)) :
    ofPartialsFrom level built (p :: rest)
      = ofPartialsFrom (level + 1) (built.map fun (t, lag) => (t, lag + 1)) rest := by
  rw [ofPartialsFrom.eq_def]
  simp only [hp]

/-- A tree that is some doublings short of the capacity of a level. -/
def Lags (level : Nat) (built : Tree × Nat) : Prop :=
  0 < built.1.capacity ∧ built.1.capacity * 2 ^ built.2 = 2 ^ level

lemma Lags.skip {built : Tree × Nat} (hbuilt : Lags level built) :
    Lags (level + 1) (built.1, built.2 + 1) := by
  obtain ⟨hpos, hroom⟩ := hbuilt
  refine ⟨hpos, ?_⟩
  rw [pow_succ, pow_succ, ← mul_assoc, hroom]

lemma lags_complete (level : Nat) (d : Bytes) : Lags (level + 1) (complete level d, 1) := by
  have hpow : (0 : Int) < 2 ^ level := by exact_mod_cast Nat.two_pow_pos level
  rw [Lags, capacity_complete]
  exact ⟨hpow, (pow_succ 2 level).symm⟩

lemma Lags.join (hbuilt : Lags level (t, lag)) (d : Bytes) :
    Lags (level + 1) (internal (complete level d) (widen lag t), 0) := by
  obtain ⟨-, hroom⟩ := hbuilt
  have hpow : (0 : Int) < 2 ^ level := by exact_mod_cast Nat.two_pow_pos level
  dsimp only at hroom
  rw [Lags, capacity, capacity_complete, capacity_widen, hroom, pow_zero, mul_one, pow_succ]
  omega

/-- Folding with a running capacity is folding with a number of missing doublings. -/
lemma spineFrom_eq {built : Option (Tree × Nat)} (partials : List (Option Bytes))
    (hbuilt : ∀ b ∈ built, Lags level b) :
    spineFrom level (2 ^ level) (built.map (·.1)) partials
      = (ofPartialsFrom level built partials).getD (empty 1) := by
  induction partials generalizing level built with
  | nil => cases built <;> rfl
  | cons p partials ih =>
    have hpow : (2 : Int) ^ level * 2 = 2 ^ (level + 1) := (pow_succ 2 level).symm
    have hskip : spineFrom (level + 1) (2 ^ (level + 1)) (built.map (·.1)) partials
        = (ofPartialsFrom (level + 1) (built.map fun (t, lag) => (t, lag + 1)) partials).getD
            (empty 1) := by
      rw [← ih]
      · rw [Option.map_map]
        rfl
      · intro b hb
        obtain ⟨before, hbefore, rfl⟩ := Option.mem_map.1 hb
        exact (hbuilt before hbefore).skip
    cases p with
    | none => rw [spineFrom, hpow, hskip, ofPartialsFrom_skip level built rfl]
    | some d =>
      rw [spineFrom, hpow]
      by_cases hzero : d = zeroDigest
      · have hnone : (some d).filter (· ≠ zeroDigest) = none := by simp [hzero]
        rw [if_pos hzero, hskip, ofPartialsFrom_skip level built hnone]
      · rw [if_neg hzero]
        have hnode : (if level = 0 then leaf d else summary d (2 ^ level)) = complete level d := rfl
        rw [hnode]
        cases built with
        | none =>
          rw [ofPartialsFrom_first level hzero]
          have hfirst : ∀ b ∈ some (complete level d, 1), Lags (level + 1) b := by
            intro b hb
            obtain rfl := Option.some.inj hb
            exact lags_complete level d
          exact ih hfirst
        | some before =>
          obtain ⟨t, lag⟩ := before
          have hlags := hbuilt _ rfl
          rw [ofPartialsFrom_join level lag t hzero]
          dsimp only [Option.map_some]
          rw [pad_eq_widen hlags.1 hlags.2]
          have hjoined : ∀ b ∈ some (internal (complete level d) (widen lag t), 0),
              Lags (level + 1) b := by
            intro b hb
            obtain rfl := Option.some.inj hb
            exact hlags.join d
          exact ih hjoined

theorem spine_eq (partials : List (Option Bytes)) : spine partials = ofPartials partials :=
  @spineFrom_eq 0 none partials nofun

/-! ## Halves -/

/-- The capacity is doubled up to that of the least depth with room for the leaves. -/
lemma doubled_eq {count : Nat} (hdepth : depth ≤ depthFor count) :
    doubled count (2 ^ depth) = 2 ^ depthFor count := by
  obtain ⟨k, hk⟩ := Nat.exists_eq_add_of_le hdepth
  induction k generalizing depth with
  | zero =>
    have hroom := le_two_pow_depthFor count
    rw [hk, Nat.add_zero] at hroom ⊢
    rw [doubled, if_neg (by omega)]
  | succ k ih =>
    have hshort : 2 ^ depth < count := by
      refine Nat.lt_of_not_le fun hroom => ?_
      have hleast := depthFor_le_iff.2 hroom
      omega
    rw [doubled, if_pos ⟨Nat.two_pow_pos depth, hshort⟩, ← Nat.pow_succ]
    exact ih (by omega) (by omega)

lemma halve_eq (leaves : List Bytes) (depth lo : Nat) :
    halve leaves lo (2 ^ depth) = ofLeavesAt depth (leaves.drop lo) := by
  induction depth generalizing lo with
  | zero =>
    rw [halve]
    split
    · rename_i hlo
      rw [if_pos (by simp), List.drop_eq_getElem_cons hlo, ofLeavesAt_zero_cons]
    · rename_i hlo
      rw [List.drop_eq_nil_of_le (by omega), ofLeavesAt_nil]
      rfl
  | succ depth ih =>
    rw [halve]
    split
    · rename_i hlo
      have hpos := Nat.two_pow_pos depth
      have hhalf : 2 ^ (depth + 1) / 2 = 2 ^ depth := by
        rw [Nat.pow_succ, Nat.mul_div_cancel _ (by decide)]
      have hne : leaves.drop lo ≠ [] := by
        rw [Ne, List.drop_eq_nil_iff]
        omega
      rw [if_neg (by rw [Nat.pow_succ]; omega), hhalf, ih, ih, ofLeavesAt_succ hne, List.drop_drop]
    · rename_i hlo
      rw [List.drop_eq_nil_of_le (by omega), ofLeavesAt_nil]
      norm_cast

theorem divided_eq (leaves : List Bytes) : divided leaves = ofLeaves leaves := by
  rw [divided]
  split
  · rename_i hlength
    obtain rfl := List.length_eq_zero_iff.1 hlength
    rfl
  · have hroom : doubled leaves.length 1 = 2 ^ depthFor leaves.length :=
      @doubled_eq 0 leaves.length (Nat.zero_le _)
    rw [hroom, halve_eq, List.drop_zero, ofLeaves]

end Tree

end MerkleLog
