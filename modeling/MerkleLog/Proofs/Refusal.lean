import MerkleLog.Proofs.Replay
import MerkleLog.Proofs.Text.Numeral

/-!
# Replays that fail

A replay fails with a cause that lies in one of the events, in the partials that they leave, or in
the sum of these.  A cause is told only if it can be worded.  This is so for all events of sizes and
levels that can be written, as long as the width of a block of the highest level can be; the cause
that an event of a higher level gives is too long.
-/

namespace MerkleLog

namespace Replay

open Accumulator (sizeOfSlots)

variable {kept above below : List (Option Event)} {slots partials : List (Option Bytes)}
  {e : Event} {cause : Error} {level : Nat}

/-! ## Causes -/

lemma check_eq_error (hcheck : check level e = .error cause) :
    cause = .wrongLevel level e.level ∨ cause = .wrongSize level e.sizeAfter ∨
      cause = .eventNotDigest level := by
  rw [check_eq] at hcheck
  split_ifs at hcheck
  · exact Or.inl (Except.error.inj hcheck).symm
  · exact Or.inr (Or.inl (Except.error.inj hcheck).symm)
  · exact Or.inr (Or.inr (Except.error.inj hcheck).symm)

/-- Looking at the events fails with the cause of one of them. -/
lemma survivors_eq_error (hsurvivors : survivors level kept = .error cause) :
    ∃ i e, kept[i]? = some (some e) ∧ check (level + i) e = .error cause := by
  induction kept generalizing level with
  | nil => cases hsurvivors
  | cons slot above ih =>
    rw [survivors] at hsurvivors
    rcases bind_eq_error.1 hsurvivors with habove | ⟨result, -, hslot⟩
    · obtain ⟨i, e, he, hcheck⟩ := ih habove
      exact ⟨i + 1, e, he, by rwa [← Nat.add_assoc, Nat.add_right_comm]⟩
    · cases slot with
      | none => cases hslot
      | some e =>
        rcases bind_eq_error.1 hslot with hcheck | ⟨-, -, hkeep⟩
        · exact ⟨0, e, rfl, hcheck⟩
        · split at hkeep <;> cases hkeep

/-- The highest event that fails its check stops a replay. -/
lemma survivors_append_eq_error {result : List (Option Bytes) × Int}
    (habove : survivors (level + below.length + 1) above = .ok result)
    (hcheck : check (level + below.length) e = .error cause) :
    survivors level (below ++ some e :: above) = .error cause := by
  induction below generalizing level with
  | nil =>
    have habove' : survivors (level + 1) above = .ok result := habove
    have hcheck' : check level e = .error cause := hcheck
    rw [List.nil_append, survivors, habove', ok_bind]
    dsimp only
    rw [hcheck', error_bind]
  | cons slot below ih =>
    rw [List.length_cons, ← Nat.add_assoc, Nat.add_right_comm level] at habove hcheck
    rw [List.cons_append, survivors, ih habove hcheck, error_bind]

/-- What survives has a slot for every level, and its newest size is that of an event. -/
lemma of_survivors_eq_ok {newest : Int} (hsurvivors : survivors level kept = .ok (slots, newest)) :
    slots.length = kept.length ∧ (newest = 0 ∨ ∃ e, some e ∈ kept ∧ newest = e.sizeAfter) := by
  induction kept generalizing level slots newest with
  | nil =>
    obtain ⟨rfl, rfl⟩ := Prod.mk.inj (Except.ok.inj hsurvivors)
    exact ⟨rfl, Or.inl rfl⟩
  | cons slot above ih =>
    obtain ⟨rest, newest', habove, hcases⟩ := survivors_cons hsurvivors
    obtain ⟨hlength, hnewest⟩ := ih habove
    rcases hcases with ⟨rfl, rfl, -⟩ | ⟨e, rfl, -, -, rfl, rfl⟩
    · refine ⟨congrArg Nat.succ hlength, hnewest.imp_right ?_⟩
      rintro ⟨e, he, hafter⟩
      exact ⟨e, List.mem_cons_of_mem _ he, hafter⟩
    · exact ⟨congrArg Nat.succ hlength, Or.inr ⟨e, List.mem_cons_self, rfl⟩⟩

lemma slotsOf_eq_error (hslots : Accumulator.slotsOf level partials = .error cause) :
    ∃ i < partials.length, cause = .partialNotDigest (level + i) := by
  induction partials generalizing level with
  | nil => cases hslots
  | cons p partials ih =>
    rw [Accumulator.slotsOf] at hslots
    rcases bind_eq_error.1 hslots with hslot | ⟨slot, -, hslots⟩
    · refine ⟨0, Nat.succ_pos _, ?_⟩
      cases p with
      | none => cases hslot
      | some d =>
        rw [Accumulator.slotOf] at hslot
        split_ifs at hslot
        exact (Except.error.inj hslot).symm
    · rcases bind_eq_error.1 hslots with hrest | ⟨rest, -, hnever⟩
      · obtain ⟨i, hi, hcause⟩ := ih hrest
        exact ⟨i + 1, Nat.succ_lt_succ hi, by rw [hcause, ← Nat.add_assoc, Nat.add_right_comm]⟩
      · cases hnever

lemma length_slotsOf (hslots : Accumulator.slotsOf level partials = .ok slots) :
    slots.length = partials.length := by
  induction partials generalizing level slots with
  | nil =>
    obtain rfl := Except.ok.inj hslots
    rfl
  | cons p partials ih =>
    rw [Accumulator.slotsOf, bind_eq_ok] at hslots
    obtain ⟨slot, -, hslots⟩ := hslots
    obtain ⟨rest, hrest, hslots⟩ := bind_eq_ok.1 hslots
    obtain rfl := Except.ok.inj hslots
    exact congrArg Nat.succ (ih hrest)

/-- Partials are refused for one that is no digest, or for what they stand for together. -/
lemma ofPartials_eq_error
    (hpartials : Accumulator.ofPartials partials = .error cause) :
    (∃ i < partials.length, cause = .partialNotDigest i) ∨
      ∃ slots, slots.length = partials.length ∧ sizeOfSlots slots ≤ sizeOfSlots partials ∧
        (cause = .topAbsent (slots.length - 1) (sizeOfSlots slots) ∨
          cause = .sizeOutOfRange (sizeOfSlots slots)) := by
  rw [Accumulator.ofPartials] at hpartials
  rcases bind_eq_error.1 hpartials with hslots | ⟨slots, hslots, hfault⟩
  · obtain ⟨i, hi, hcause⟩ := slotsOf_eq_error hslots
    exact Or.inl ⟨i, hi, by rwa [Nat.zero_add] at hcause⟩
  · refine Or.inr ⟨slots, length_slotsOf hslots, (sizeOfSlots_slotsOf hslots).1, ?_⟩
    dsimp only at hfault
    by_cases htop : slots.getLast? = some none
    · rw [if_pos htop, throw_eq_error, error_bind] at hfault
      exact Or.inl (Except.error.inj hfault).symm
    · rw [if_neg htop] at hfault
      by_cases hsize : maxWord < sizeOfSlots slots
      · rw [if_pos hsize, throw_eq_error, error_bind] at hfault
        exact Or.inr (Except.error.inj hfault).symm
      · rw [if_neg hsize] at hfault
        cases hfault

/-- A replay fails with the cause of an event or of the partials that the events leave, or because
these do not add up. -/
lemma accumulator_eq_error (ha : accumulator kept = .error cause) :
    (∃ level e, kept[level]? = some (some e) ∧ check level e = .error cause) ∨
      ∃ raw newest, survivors 0 kept = .ok (raw, newest) ∧
        (Accumulator.ofPartials (trim raw) = .error cause ∨
          ∃ a, Accumulator.ofPartials (trim raw) = .ok a ∧
            cause = .sizesDisagree a.size newest) := by
  rw [accumulator] at ha
  rcases bind_eq_error.1 ha with hsurvivors | ⟨⟨raw, newest⟩, hsurvivors, ha⟩
  · obtain ⟨level, e, he, hcheck⟩ := survivors_eq_error hsurvivors
    exact Or.inl ⟨level, e, he, by rwa [Nat.zero_add] at hcheck⟩
  · refine Or.inr ⟨raw, newest, hsurvivors, ?_⟩
    rcases bind_eq_error.1 ha with hpartials | ⟨a, hpartials, ha⟩
    · exact Or.inl hpartials
    · refine Or.inr ⟨a, hpartials, ?_⟩
      by_cases hsize : (a.size : Int) ≠ newest
      · rw [if_pos hsize, throw_eq_error, error_bind] at ha
        exact (Except.error.inj ha).symm
      · rw [if_neg hsize] at ha
        cases ha

end Replay

/-! ## Causes that are told -/

namespace Error

/-- The causes that lie in partials. -/
def isPartialsFault : Error → Bool
  | .partialNotDigest _ | .topAbsent _ _ | .sizeOutOfRange _ => true
  | _ => false

/-- The causes that lie in events. -/
def isEventsFault : Error → Bool
  | .wrongLevel _ _ | .wrongSize _ _ | .eventNotDigest _ | .sizesDisagree _ _ => true
  | _ => false

end Error

namespace Replay

open Accumulator (sizeOfSlots)

variable {kept : List (Option Event)} {partials : List (Option Bytes)} {e : Event} {cause : Error}
  {level : Nat}

/-- The number of levels whose blocks have widths that can be written. -/
def writableLevels : Nat := 14285

lemma isWritable_two_pow (hlevel : level < writableLevels) :
    Text.isWritable (2 ^ level : Nat) = true := by
  have htop : Text.isWritable (2 ^ (writableLevels - 1) : Nat) = true := by decide +kernel
  refine Text.isWritable_mono htop ?_
  rw [Int.natAbs_natCast, Int.natAbs_natCast]
  exact Nat.pow_le_pow_right Nat.two_pos (Nat.le_sub_one_of_lt hlevel)

lemma isWritable_level (hlevel : level ≤ writableLevels) : Text.isWritable level = true := by
  refine Text.isWritable_of_le ?_
  rw [Int.natAbs_natCast]
  exact hlevel.trans (by decide)

/-- What is wrong with an event can be told if its level is not too high. -/
lemma isExpressible_of_check (hlevel : level < writableLevels)
    (he : Text.isWritable e.level = true ∧ Text.isWritable e.sizeAfter = true)
    (hcheck : check level e = .error cause) : cause.isExpressible = true := by
  have hwritable := isWritable_level hlevel.le
  rw [Error.isExpressible_iff]
  rcases check_eq_error hcheck with rfl | rfl | rfl
  · simpa [Error.integers] using ⟨hwritable, he.1⟩
  · simpa [Error.integers] using ⟨hwritable, he.2, isWritable_two_pow hlevel⟩
  · simpa [Error.integers] using hwritable

/-- What is wrong with partials can be told if what they stand for can be written. -/
lemma isExpressible_of_ofPartials (hlength : partials.length ≤ writableLevels)
    (hsize : Text.isWritable (sizeOfSlots partials) = true)
    (hpartials : Accumulator.ofPartials partials = .error cause) :
    cause.isExpressible = true := by
  rw [Error.isExpressible_iff]
  rcases ofPartials_eq_error hpartials with ⟨i, hi, rfl⟩ | ⟨slots, hslots, hle, hcause⟩
  · simpa [Error.integers] using isWritable_level (hi.le.trans hlength)
  · rcases hcause with rfl | rfl
    · have hslot : slots.length - 1 ≤ writableLevels := by omega
      have hbits := (Accumulator.bitLength_sizeOfSlots_le slots).trans (hslots.trans_le hlength)
      simpa [Error.integers] using ⟨isWritable_level hslot, isWritable_level hbits⟩
    · have hsize' : Text.isWritable (sizeOfSlots slots) = true :=
        Text.isWritable_mono hsize (by simpa using hle)
      simpa [Error.integers] using hsize'

/-- A replay of events of not too many levels fails with a cause that can be told. -/
lemma isExpressible_of_accumulator (hlength : kept.length ≤ writableLevels)
    (hkept : ∀ e, some e ∈ kept →
      Text.isWritable e.level = true ∧ Text.isWritable e.sizeAfter = true)
    (ha : accumulator kept = .error cause) : cause.isExpressible = true := by
  rcases accumulator_eq_error ha with ⟨level, e, he, hcheck⟩ | ⟨raw, newest, hsurvivors, hfault⟩
  · have hlevel : level < kept.length := (List.getElem?_eq_some_iff.1 he).1
    exact isExpressible_of_check (hlevel.trans_le hlength)
      (hkept e (List.mem_of_getElem? he)) hcheck
  · obtain ⟨hraw, hnewest⟩ := of_survivors_eq_ok hsurvivors
    obtain ⟨count, hcount, hle, -⟩ := agrees_of_survivors hsurvivors
    rw [Nat.pow_zero, Nat.mul_one] at hcount
    -- what survives stands for no more than the newest event reports
    have hwritable : Text.isWritable newest = true := by
      rcases hnewest with rfl | ⟨e, he, rfl⟩
      · exact Text.isWritable_of_le (by decide)
      · exact (hkept e he).2
    have hsize : Text.isWritable (sizeOfSlots (trim raw)) = true := by
      refine Text.isWritable_mono hwritable ?_
      rw [sizeOfSlots_trim, hcount, Int.natAbs_natCast, Int.natAbs_natCast]
      exact hle
    rcases hfault with hpartials | ⟨a, hpartials, rfl⟩
    · exact isExpressible_of_ofPartials
        ((length_trim_le raw).trans (hraw.trans_le hlength)) hsize hpartials
    · have htotal : Text.isWritable a.size = true := by
        refine Text.isWritable_mono hsize ?_
        rw [Int.natAbs_natCast, Int.natAbs_natCast]
        exact (sizeOfSlots_slotsOf (ofPartials_eq_ok.1 hpartials).1).1
      rw [Error.isExpressible_iff]
      simpa [Error.integers] using ⟨htotal, hwritable⟩

lemma isFault_of_accumulator (ha : accumulator kept = .error cause) :
    cause.isPartialsFault = true ∨ cause.isEventsFault = true := by
  rcases accumulator_eq_error ha with ⟨level, e, -, hcheck⟩ | ⟨raw, newest, -, hfault⟩
  · refine Or.inr ?_
    rcases check_eq_error hcheck with rfl | rfl | rfl <;> rfl
  · rcases hfault with hpartials | ⟨a, -, rfl⟩
    · refine Or.inl ?_
      rcases ofPartials_eq_error hpartials with ⟨i, -, rfl⟩ | ⟨slots, -, -, rfl | rfl⟩ <;> rfl
    · exact Or.inr rfl

end Replay

end MerkleLog
