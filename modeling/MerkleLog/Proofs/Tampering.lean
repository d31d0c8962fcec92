import Mathlib.Data.Nat.Bitwise
import MerkleLog.Hash.Sha256
import MerkleLog.Proofs.Climb

/-!
# Two accepted proofs of one root

Two proofs whose paths have the same length and that are accepted under the same root are compared
from the root down.  Where both verifications have reached the same digest, either they hashed the
same pair to it, or they show a collision.  From the same pair, a bit of the indices in common gives
the same running digest and the same sibling one level further down, and a bit that differs gives
them the wrong way round.
-/

namespace MerkleLog

namespace Proof

variable {h : Hash} {p q : Proof} {level : Nat} {d e s t : Bytes}

/-! ## One verification -/

/-- The digest that the verification of a proof has reached after a number of levels. -/
def runningAt (h : Hash) (p : Proof) (level : Nat) : Option Bytes :=
  climb h p.index.toNat p.leaf (p.hashes.take level)

/-- The pair that the verification of a proof hashes at a level. -/
def pairOf (h : Hash) (p : Proof) (level : Nat) : Option (Bytes × Bytes) :=
  (pairs h p.index.toNat p.leaf p.hashes)[level]?

/-- Whether the way up from the index of a proof is at a right child at a level. -/
def isRightAt (p : Proof) (level : Nat) : Bool :=
  p.index.toNat.testBit level

/-- One step of a verification: from the running digest `d` beside the sibling `s`. -/
structure StepAt (h : Hash) (p : Proof) (level : Nat) (d s : Bytes) : Prop where
  running : p.runningAt h level = some d
  sibling : p.hashes[level]? = some s
  hashed : p.pairOf h level = some (pairAt (p.index.toNat / 2 ^ level) d s)
  next : p.runningAt h (level + 1)
    = some (h.pair (pairAt (p.index.toNat / 2 ^ level) d s).1
      (pairAt (p.index.toNat / 2 ^ level) d s).2)

/-- The ways up are on the same side at a level if the places there have the same parity. -/
lemma isRightAt_eq_iff : p.isRightAt level = q.isRightAt level ↔
    p.index.toNat / 2 ^ level % 2 = q.index.toNat / 2 ^ level % 2 := by
  rw [isRightAt, isRightAt, Nat.testBit_eq_decide_div_mod_eq, Nat.testBit_eq_decide_div_mod_eq,
    decide_eq_decide]
  omega

lemma runningAt_zero (h : Hash) (p : Proof) : p.runningAt h 0 = some p.leaf := rfl

lemma runningAt_of_length_le (hverify : p.verify h = true) (hlevel : p.hashes.length ≤ level) :
    p.runningAt h level = some p.root := by
  obtain ⟨-, -, i, hi, -, hclimb⟩ := verify_iff.1 hverify
  rw [runningAt, List.take_of_length_le hlevel, hi, Int.toNat_natCast, hclimb]

/-- An index has no bits beyond the path. -/
lemma isRightAt_of_length_le (hverify : p.verify h = true) (hlevel : p.hashes.length ≤ level) :
    p.isRightAt level = false := by
  obtain ⟨-, -, i, hi, hlt, -⟩ := verify_iff.1 hverify
  rw [isRightAt, hi, Int.toNat_natCast]
  exact Nat.testBit_lt_two_pow (hlt.trans_le (Nat.pow_le_pow_right Nat.two_pos hlevel))

/-- An accepted proof takes a step at every level of its path. -/
lemma exists_stepAt (hverify : p.verify h = true) (hlevel : level < p.hashes.length) :
    ∃ d s, StepAt h p level d s := by
  obtain ⟨below, s, above, hhashes, rfl⟩ :
      ∃ below s above, p.hashes = below ++ s :: above ∧ below.length = level :=
    ⟨p.hashes.take level, p.hashes[level], p.hashes.drop (level + 1),
      by rw [← List.drop_eq_getElem_cons hlevel, List.take_append_drop],
      List.length_take_of_le hlevel.le⟩
  have hclimb := runningAt_of_length_le hverify le_rfl
  rw [runningAt, List.take_length, hhashes, climb_append, Option.bind_eq_some_iff] at hclimb
  obtain ⟨d, hbelow, habove⟩ := hclimb
  rw [climb_cons] at habove
  split at habove
  case isFalse => cases habove
  case isTrue hdigest =>
    have hnext : p.hashes.take (below.length + 1) = below ++ [s] := by
      rw [hhashes, List.take_length_add_append]
      rfl
    refine ⟨d, s, ?_, ?_, ?_, ?_⟩
    · rw [runningAt, hhashes, List.take_left, hbelow]
    · rw [hhashes, List.getElem?_append_right le_rfl, Nat.sub_self, List.getElem?_cons_zero]
    · rw [pairOf, hhashes, pairs_append hbelow, List.getElem?_append_right (by simp), length_pairs,
        Nat.sub_self, pairs, List.getElem?_cons_zero]
    · rw [runningAt, hnext, climb_concat, hbelow, Option.bind_some, if_pos hdigest]

/-! ## Two verifications -/

/-- Two verifications hash, at some level, different pairs to the same digest. -/
def CollideWith (h : Hash) (p q : Proof) : Prop :=
  ∃ level x y, p.pairOf h level = some x ∧ q.pairOf h level = some y ∧
    x ≠ y ∧ h.pair x.1 x.2 = h.pair y.1 y.2

/-- Two verifications have reached the same digest after a number of levels. -/
def AgreeAt (h : Hash) (p q : Proof) (level : Nat) : Prop :=
  ∃ d, p.runningAt h level = some d ∧ q.runningAt h level = some d

/-- The digests that two verifications have reached after a number of levels are each the sibling
in the other proof. -/
def CrossAt (h : Hash) (p q : Proof) (level : Nat) : Prop :=
  ∃ d e, p.runningAt h level = some d ∧ q.hashes[level]? = some d ∧
    q.runningAt h level = some e ∧ p.hashes[level]? = some e

/-- Two proofs of the same root along paths of the same length, both accepted and without a
collision between their verifications. -/
structure Matched (h : Hash) (p q : Proof) : Prop where
  accepted : p.verify h = true
  accepted' : q.verify h = true
  root : p.root = q.root
  length : p.hashes.length = q.hashes.length
  safe : ¬ CollideWith h p q

namespace Matched

lemma agreeAt_of_length_le (hpq : Matched h p q) (hlevel : p.hashes.length ≤ level) :
    AgreeAt h p q level := by
  refine ⟨p.root, runningAt_of_length_le hpq.accepted hlevel, ?_⟩
  rw [hpq.root]
  exact runningAt_of_length_le hpq.accepted' (hpq.length ▸ hlevel)

/-- Verifications that agree above a level have hashed the same pair there. -/
lemma exists_steps (hpq : Matched h p q) (hlevel : level < p.hashes.length)
    (habove : AgreeAt h p q (level + 1)) :
    ∃ d s e t, StepAt h p level d s ∧ StepAt h q level e t ∧
      pairAt (p.index.toNat / 2 ^ level) d s = pairAt (q.index.toNat / 2 ^ level) e t := by
  obtain ⟨d, s, hp⟩ := exists_stepAt hpq.accepted hlevel
  obtain ⟨e, t, hq⟩ := exists_stepAt hpq.accepted' (hpq.length ▸ hlevel)
  obtain ⟨above, hpabove, hqabove⟩ := habove
  have hdigest := Option.some.inj ((hp.next.symm.trans hpabove).trans (hqabove.symm.trans hq.next))
  refine ⟨d, s, e, t, hp, hq, not_not.1 fun hne => ?_⟩
  exact hpq.safe ⟨level, _, _, hp.hashed, hq.hashed, hne, hdigest⟩

/-- Where the ways up do not part, agreement goes down. -/
lemma agreeAt_of_eq (hpq : Matched h p q) (hlevel : level < p.hashes.length)
    (habove : AgreeAt h p q (level + 1)) (hbit : p.isRightAt level = q.isRightAt level) :
    AgreeAt h p q level ∧ p.hashes[level]? = q.hashes[level]? := by
  obtain ⟨d, s, e, t, hp, hq, hpair⟩ := hpq.exists_steps hlevel habove
  obtain ⟨rfl, rfl⟩ := pairAt_inj (isRightAt_eq_iff.1 hbit) hpair
  exact ⟨⟨d, hp.running, hq.running⟩, hp.sibling.trans hq.sibling.symm⟩

lemma lt_length_of_ne (hpq : Matched h p q) (hbit : p.isRightAt level ≠ q.isRightAt level) :
    level < p.hashes.length := by
  by_contra hlevel
  rw [not_lt] at hlevel
  rw [isRightAt_of_length_le hpq.accepted hlevel,
    isRightAt_of_length_le hpq.accepted' (hpq.length ▸ hlevel)] at hbit
  exact hbit rfl

/-- Where the ways up part, running digest and sibling change places. -/
lemma crossAt_of_ne (hpq : Matched h p q) (habove : AgreeAt h p q (level + 1))
    (hbit : p.isRightAt level ≠ q.isRightAt level) : CrossAt h p q level := by
  obtain ⟨d, s, e, t, hp, hq, hpair⟩ := hpq.exists_steps (hpq.lt_length_of_ne hbit) habove
  obtain ⟨rfl, rfl⟩ := pairAt_cross (mt isRightAt_eq_iff.2 hbit) hpair
  exact ⟨d, s, hp.running, hq.sibling, hq.running, hp.sibling⟩

/-- What goes down from level to level along the paths holds from the roots down. -/
lemma agreeAt_of_step (hpq : Matched h p q)
    (hstep : ∀ below < p.hashes.length, level ≤ below →
      AgreeAt h p q (below + 1) → AgreeAt h p q below) : AgreeAt h p q level := by
  rcases Nat.le_total level p.hashes.length with hlevel | hlevel
  · exact Nat.decreasingInduction' hstep hlevel (hpq.agreeAt_of_length_le le_rfl)
  · exact hpq.agreeAt_of_length_le hlevel

/-- Verifications agree from the root down to where their ways up part. -/
lemma agreeAt_of_forall_eq (hpq : Matched h p q)
    (hbits : ∀ above, level ≤ above → p.isRightAt above = q.isRightAt above) :
    AgreeAt h p q level :=
  hpq.agreeAt_of_step fun below hlength hbelow habove =>
    (hpq.agreeAt_of_eq hlength habove (hbits below hbelow)).1

lemma hashes_eq_of_forall_eq (hpq : Matched h p q)
    (hbits : ∀ above, level ≤ above → p.isRightAt above = q.isRightAt above) :
    p.hashes[level]? = q.hashes[level]? := by
  rcases Nat.lt_or_ge level p.hashes.length with hlevel | hlevel
  · have habove := hpq.agreeAt_of_forall_eq fun above hle => hbits above (Nat.le_of_succ_le hle)
    exact (hpq.agreeAt_of_eq hlevel habove (hbits level le_rfl)).2
  · rw [List.getElem?_eq_none hlevel, List.getElem?_eq_none (hpq.length ▸ hlevel)]

/-- Beside the same siblings the verifications agree at every level: where their ways up part, the
sibling of the one is both its own and the running digest of the other. -/
lemma agreeAt_of_hashes_eq (hpq : Matched h p q) (hhashes : p.hashes = q.hashes) (level : Nat) :
    AgreeAt h p q level := by
  refine hpq.agreeAt_of_step fun below hlength _ habove => ?_
  by_cases hbit : p.isRightAt below = q.isRightAt below
  · exact (hpq.agreeAt_of_eq hlength habove hbit).1
  · obtain ⟨d, e, hp, hsibling, hq, hsibling'⟩ := hpq.crossAt_of_ne habove hbit
    rw [hhashes, hsibling] at hsibling'
    obtain rfl := Option.some.inj hsibling'
    exact ⟨d, hp, hq⟩

/-- The ways up from different indices part at a highest level. -/
lemma exists_highest_part (hpq : Matched h p q) (hindex : p.index ≠ q.index) :
    ∃ top, p.isRightAt top ≠ q.isRightAt top ∧
      ∀ level, top < level → p.isRightAt level = q.isRightAt level := by
  obtain ⟨-, -, i, hi, -⟩ := verify_iff.1 hpq.accepted
  obtain ⟨-, -, j, hj, -⟩ := verify_iff.1 hpq.accepted'
  have hbit : ∀ level, (i ^^^ j).testBit level = (p.isRightAt level ^^ q.isRightAt level) := by
    intro level
    rw [Nat.testBit_xor, isRightAt, isRightAt, hi, hj, Int.toNat_natCast, Int.toNat_natCast]
  have hne : i ^^^ j ≠ 0 := by
    intro hzero
    rw [Nat.xor_eq_zero_iff] at hzero
    exact hindex (by rw [hi, hj, hzero])
  obtain ⟨top, htop, habove⟩ := Nat.exists_most_significant_bit hne
  refine ⟨top, ?_, fun level hlevel => ?_⟩
  · rw [hbit] at htop
    simpa using htop
  · have hclear := habove level hlevel
    rw [hbit] at hclear
    simpa using hclear

end Matched

/-- Two proofs that are accepted under the same root along paths of the same length show a
collision, or else they are the same at the same index, go together above the highest level at which
their ways up part, and share all siblings only if sibling and running digest coincide wherever the
ways part. -/
theorem verify_twice (hp : p.verify h = true) (hq : q.verify h = true) (hroot : p.root = q.root)
    (hlength : p.hashes.length = q.hashes.length) :
    CollideWith h p q ∨
      ((p.index = q.index → p.leaf = q.leaf ∧ p.hashes = q.hashes) ∧
        (p.index ≠ q.index → ∃ top, p.isRightAt top ≠ q.isRightAt top ∧
          CrossAt h p q top ∧ ∀ level, top < level → p.isRightAt level = q.isRightAt level ∧
            AgreeAt h p q level ∧ p.hashes[level]? = q.hashes[level]?) ∧
        (p.hashes = q.hashes → p.leaf = q.leaf ∧ ∀ level, AgreeAt h p q level ∧
          (p.isRightAt level ≠ q.isRightAt level →
            p.hashes[level]? = p.runningAt h level))) := by
  by_cases hsafe : CollideWith h p q
  · exact Or.inl hsafe
  have hpq : Matched h p q := ⟨hp, hq, hroot, hlength, hsafe⟩
  have hleaf : AgreeAt h p q 0 → p.leaf = q.leaf := by
    rintro ⟨d, hpd, hqd⟩
    rw [runningAt_zero] at hpd hqd
    exact Option.some.inj (hpd.trans hqd.symm)
  refine Or.inr ⟨fun hindex => ?_, fun hindex => ?_, fun hhashes => ?_⟩
  · have hbits : ∀ above, p.isRightAt above = q.isRightAt above := fun above => by
      rw [isRightAt, isRightAt, hindex]
    exact ⟨hleaf (hpq.agreeAt_of_forall_eq fun above _ => hbits above),
      List.ext_getElem? fun level => hpq.hashes_eq_of_forall_eq fun above _ => hbits above⟩
  · obtain ⟨top, hpart, habove⟩ := hpq.exists_highest_part hindex
    refine ⟨top, hpart, ?_, fun level hlevel => ⟨habove level hlevel, ?_, ?_⟩⟩
    · exact hpq.crossAt_of_ne (hpq.agreeAt_of_forall_eq fun above => habove above) hpart
    · exact hpq.agreeAt_of_forall_eq fun above hle => habove above (hlevel.trans_le hle)
    · exact hpq.hashes_eq_of_forall_eq fun above hle => habove above (hlevel.trans_le hle)
  · refine ⟨hleaf (hpq.agreeAt_of_hashes_eq hhashes 0), fun level => ⟨?_, fun hpart => ?_⟩⟩
    · exact hpq.agreeAt_of_hashes_eq hhashes level
    · obtain ⟨d, e, hpd, hsibling, -⟩ :=
        hpq.crossAt_of_ne (hpq.agreeAt_of_hashes_eq hhashes (level + 1)) hpart
      rw [hpd, hhashes, hsibling]

/-- The proof of one of two equal leaves over SHA-256. -/
def ofTwin (index : Int) : Proof :=
  ⟨Sha256.hash.pair zeroDigest zeroDigest, zeroDigest, index, [zeroDigest]⟩

/-- The same proof is accepted at both indices of two equal leaves. -/
theorem ofTwin_verify_twice :
    (ofTwin 0).verify Sha256.hash = true ∧ (ofTwin 1).verify Sha256.hash = true ∧
      (CollideWith Sha256.hash (ofTwin 0) (ofTwin 1) ∨
        (((ofTwin 0).index = (ofTwin 1).index → (ofTwin 0).leaf = (ofTwin 1).leaf ∧
            (ofTwin 0).hashes = (ofTwin 1).hashes) ∧
          ((ofTwin 0).index ≠ (ofTwin 1).index →
            ∃ top, (ofTwin 0).isRightAt top ≠ (ofTwin 1).isRightAt top ∧
              CrossAt Sha256.hash (ofTwin 0) (ofTwin 1) top ∧
              ∀ level, top < level → (ofTwin 0).isRightAt level = (ofTwin 1).isRightAt level ∧
                AgreeAt Sha256.hash (ofTwin 0) (ofTwin 1) level ∧
                (ofTwin 0).hashes[level]? = (ofTwin 1).hashes[level]?) ∧
          ((ofTwin 0).hashes = (ofTwin 1).hashes → (ofTwin 0).leaf = (ofTwin 1).leaf ∧
            ∀ level, AgreeAt Sha256.hash (ofTwin 0) (ofTwin 1) level ∧
              ((ofTwin 0).isRightAt level ≠ (ofTwin 1).isRightAt level →
                (ofTwin 0).hashes[level]? = (ofTwin 0).runningAt Sha256.hash level)))) := by
  have hzero : isDigest zeroDigest = true := by decide
  have hroot : isDigest (Sha256.hash.pair zeroDigest zeroDigest) = true :=
    isDigest_iff.2 (Sha256.hash.length_pair _ _)
  have hfirst : (ofTwin 0).verify Sha256.hash = true :=
    verify_iff.2 ⟨hzero, hroot, 0, rfl, by decide, by simp [ofTwin, climb, hzero]⟩
  have hsecond : (ofTwin 1).verify Sha256.hash = true :=
    verify_iff.2 ⟨hzero, hroot, 1, rfl, by decide, by simp [ofTwin, climb, hzero]⟩
  exact ⟨hfirst, hsecond, verify_twice hfirst hsecond rfl rfl⟩

end Proof

end MerkleLog
