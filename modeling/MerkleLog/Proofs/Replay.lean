import MerkleLog.Proofs.Accumulator
import MerkleLog.Proofs.Outcome
import MerkleLog.Replay

/-!
# Which events leave which slots

Slots and the newest events of their levels agree if every taken slot holds the digest of the
newest event of its level, announced at the size that the slots from there upward stand for, and
every event at a free slot is no newer than that.  Replaying events that agree with some slots
gives those slots.  If a replay succeeds, the events agree with the slots that it gives: the sizes
of the surviving events add up exactly.
-/

namespace MerkleLog

namespace Replay

open Accumulator (sizeAt sizeAt_nil sizeAt_none sizeAt_some two_pow_dvd_sizeAt)

/-- The newest events of the levels from a level upward leave the slots from that level upward. -/
inductive Agrees : Nat → List (Option Bytes) → List (Option Event) → Prop
  | nil {level : Nat} {kept : List (Option Event)} (hkept : ∀ slot ∈ kept, slot = none) :
      Agrees level [] kept
  | free {level : Nat} {slots : List (Option Bytes)} {slot : Option Event}
      {above : List (Option Event)}
      (hslot : ∀ e, slot = some e → check level e = .ok () ∧ e.sizeAfter ≤ sizeAt (level + 1) slots)
      (habove : Agrees (level + 1) slots above) :
      Agrees level (none :: slots) (slot :: above)
  | taken {level : Nat} {slots : List (Option Bytes)} {d : Bytes} {above : List (Option Event)}
      (hd : isDigest d = true) (habove : Agrees (level + 1) slots above) :
      Agrees level (some d :: slots)
        (some ⟨level, (sizeAt (level + 1) slots + 2 ^ level : Nat), d⟩ :: above)

variable {level : Nat} {slots : List (Option Bytes)} {kept : List (Option Event)} {e : Event}
  {newest : Int}

/-- The checks on an event, one after the other. -/
lemma check_eq (level : Nat) (e : Event) : check level e =
    if e.level ≠ level then .error (.wrongLevel level e.level)
    else if e.sizeAfter ≤ 0 ∨ e.sizeAfter % (2 ^ level : Nat) ≠ 0 then
      .error (.wrongSize level e.sizeAfter)
    else if isDigest e.hash then .ok () else .error (.eventNotDigest level) := by
  rw [check]
  by_cases hlevel : e.level ≠ level
  · rw [if_pos hlevel, if_pos hlevel, throw_eq_error, error_bind]
  · rw [if_neg hlevel, if_neg hlevel]
    by_cases hsize : e.sizeAfter ≤ 0 ∨ e.sizeAfter % (2 ^ level : Nat) ≠ 0
    · rw [if_pos hsize, if_pos hsize, throw_eq_error, error_bind]
    · rw [if_neg hsize, if_neg hsize]
      cases isDigest e.hash <;> rfl

lemma check_eq_ok : check level e = .ok () ↔
    e.level = level ∧ 0 < e.sizeAfter ∧ ((2 ^ level : Nat) : Int) ∣ e.sizeAfter ∧
      isDigest e.hash = true := by
  rw [Int.dvd_iff_emod_eq_zero, check_eq]
  split_ifs with hlevel hsize hdigest
  · exact iff_of_false nofun fun hok => hlevel hok.1
  · refine iff_of_false nofun ?_
    rintro ⟨-, hpos, hmod, -⟩
    exact hsize.elim hpos.not_ge (not_not.2 hmod)
  · rw [not_or, not_le, not_not] at hsize
    exact iff_of_true rfl ⟨not_not.1 hlevel, hsize.1, hsize.2, hdigest⟩
  · exact iff_of_false nofun fun hok => hdigest hok.2.2.2

/-- The event of the last block that some slots stand for. -/
lemma check_last {d : Bytes} (hd : isDigest d = true) (level : Nat) (slots : List (Option Bytes)) :
    check level ⟨level, (sizeAt (level + 1) slots + 2 ^ level : Nat), d⟩ = .ok () := by
  have hpos := Nat.two_pow_pos level
  have hdvd : 2 ^ level ∣ sizeAt (level + 1) slots + 2 ^ level := by
    rw [← sizeAt_some level d]
    exact two_pow_dvd_sizeAt _ _
  exact check_eq_ok.2 ⟨rfl, by dsimp only; omega, Int.natCast_dvd_natCast.2 hdvd, hd⟩

/-! ## Events that agree are replayed to the slots -/

namespace Agrees

lemma survivors_nil (hkept : ∀ slot ∈ kept, slot = none) (level : Nat) :
    survivors level kept = .ok (List.replicate kept.length none, 0) := by
  induction kept generalizing level with
  | nil => rfl
  | cons slot kept ih =>
    rw [List.forall_mem_cons] at hkept
    obtain ⟨rfl, hrest⟩ := hkept
    rw [survivors, ih hrest]
    rfl

/-- The slots survive, followed by empty ones. -/
lemma survivors_eq (hagrees : Agrees level slots kept) :
    ∃ count, survivors level kept
      = .ok (slots ++ List.replicate count none, (sizeAt level slots : Int)) := by
  induction hagrees with
  | nil hkept => exact ⟨_, by rw [survivors_nil hkept, sizeAt_nil]; rfl⟩
  | @free level slots slot above hslot _ ih =>
    obtain ⟨count, hsurvivors⟩ := ih
    refine ⟨count, ?_⟩
    rw [survivors, hsurvivors, ok_bind, sizeAt_none]
    cases slot with
    | none => rfl
    | some e =>
      obtain ⟨hcheck, hstale⟩ := hslot e rfl
      dsimp only
      rw [hcheck, ok_bind, if_neg (not_lt.2 hstale)]
      rfl
  | @taken level slots d above hd _ ih =>
    obtain ⟨count, hsurvivors⟩ := ih
    have hpos := Nat.two_pow_pos level
    refine ⟨count, ?_⟩
    rw [survivors, hsurvivors, ok_bind, sizeAt_some]
    dsimp only
    rw [check_last hd, ok_bind, if_pos (by omega)]
    rfl

/-- Every event that agrees with slots was announced by the size that they stand for. -/
lemma sizeAfter_le (hagrees : Agrees level slots kept) (he : some e ∈ kept) :
    e.sizeAfter ≤ sizeAt level slots := by
  induction hagrees with
  | nil hkept => cases hkept _ he
  | free hslot _ ih =>
    rw [sizeAt_none]
    rcases List.mem_cons.1 he with rfl | he
    · exact (hslot e rfl).2
    · exact ih he
  | @taken level _ _ _ _ _ ih =>
    rw [sizeAt_some]
    rcases List.mem_cons.1 he with hhead | he
    · rw [Option.some.inj hhead]
    · have hle := ih he
      have hpos := Nat.two_pow_pos level
      omega

lemma isDigest_of_mem (hagrees : Agrees level slots kept) {d : Bytes} (hd : some d ∈ slots) :
    isDigest d = true := by
  induction hagrees with
  | nil => cases hd
  | free _ _ ih =>
    rcases List.mem_cons.1 hd with hhead | hd
    · cases hhead
    · exact ih hd
  | taken hdigest _ ih =>
    rcases List.mem_cons.1 hd with hhead | hd
    · rwa [Option.some.inj hhead]
    · exact ih hd

end Agrees

/-! ## Empty slots at the end -/

lemma trim_some (d : Bytes) (slots : List (Option Bytes)) :
    trim (some d :: slots) = some d :: trim slots := by
  rw [trim]
  rintro ⟨⟩

lemma trim_none_of_nil (hslots : trim slots = []) : trim (none :: slots) = [] := by
  simp only [trim, hslots]

lemma trim_none_of_ne (hslots : trim slots ≠ []) : trim (none :: slots) = none :: trim slots := by
  obtain ⟨slot, rest, hrest⟩ := List.exists_cons_of_ne_nil hslots
  simp only [trim, hrest]

lemma trim_replicate (count : Nat) : trim (List.replicate count (none : Option Bytes)) = [] := by
  induction count with
  | zero => rfl
  | succ count ih => rw [List.replicate_succ, trim_none_of_nil ih]

lemma trim_append_replicate (slots : List (Option Bytes)) (count : Nat) :
    trim (slots ++ List.replicate count none) = trim slots := by
  induction slots with
  | nil => exact trim_replicate count
  | cons slot slots ih =>
    rw [List.cons_append]
    cases slot with
    | some d => rw [trim_some, trim_some, ih]
    | none =>
      by_cases hnil : trim slots = []
      · rw [trim_none_of_nil (ih.trans hnil), trim_none_of_nil hnil]
      · rw [trim_none_of_ne (ih ▸ hnil), trim_none_of_ne hnil, ih]

/-- Slots whose last one is taken stay as they are. -/
lemma trim_of_top (htop : slots.getLast? ≠ some none) : trim slots = slots := by
  induction slots with
  | nil => rfl
  | cons slot slots ih =>
    cases slots with
    | nil =>
      cases slot with
      | none => exact absurd rfl htop
      | some d => rfl
    | cons next rest =>
      rw [List.getLast?_cons_cons] at htop
      have hrest := ih htop
      cases slot with
      | none => rw [trim_none_of_ne (by rw [hrest]; exact List.cons_ne_nil _ _), hrest]
      | some d => rw [trim_some, hrest]

lemma length_trim_le (slots : List (Option Bytes)) : (trim slots).length ≤ slots.length := by
  induction slots with
  | nil => exact le_rfl
  | cons slot slots ih =>
    cases slot with
    | some d =>
      rw [trim_some]
      exact Nat.succ_le_succ ih
    | none =>
      by_cases hnil : trim slots = []
      · rw [trim_none_of_nil hnil]
        exact Nat.zero_le _
      · rw [trim_none_of_ne hnil]
        exact Nat.succ_le_succ ih

lemma sizeOfSlots_trim (slots : List (Option Bytes)) :
    Accumulator.sizeOfSlots (trim slots) = Accumulator.sizeOfSlots slots := by
  induction slots with
  | nil => rfl
  | cons slot slots ih =>
    cases slot with
    | some d => rw [trim_some, Accumulator.sizeOfSlots, Accumulator.sizeOfSlots, ih]
    | none =>
      by_cases hnil : trim slots = []
      · have hrest : Accumulator.sizeOfSlots slots = 0 := by rw [← ih, hnil]; rfl
        rw [trim_none_of_nil hnil, Accumulator.sizeOfSlots, Accumulator.sizeOfSlots, hrest]
      · rw [trim_none_of_ne hnil, Accumulator.sizeOfSlots, Accumulator.sizeOfSlots, ih]

lemma sizeAt_trim (level : Nat) (slots : List (Option Bytes)) :
    sizeAt level (trim slots) = sizeAt level slots := by
  rw [sizeAt, sizeAt, sizeOfSlots_trim]

lemma Agrees.trim (hagrees : Agrees level slots kept) : Agrees level (trim slots) kept := by
  induction hagrees with
  | nil hkept => exact .nil hkept
  | @free level slots slot above hslot _ ih =>
    by_cases hnil : Replay.trim slots = []
    · -- nothing above is taken, so that no event may stand here either
      have hsize : sizeAt (level + 1) slots = 0 := by
        rw [← sizeAt_trim, hnil, sizeAt_nil]
      rw [hnil] at ih
      rw [trim_none_of_nil hnil]
      refine .nil (List.forall_mem_cons.2 ⟨?_, ?_⟩)
      · cases slot with
        | none => rfl
        | some e =>
          obtain ⟨hcheck, hstale⟩ := hslot e rfl
          obtain ⟨-, hpos, -⟩ := check_eq_ok.1 hcheck
          omega
      · cases ih with
        | nil hkept => exact hkept
    · rw [trim_none_of_ne hnil]
      refine .free (fun e he => ?_) ih
      rw [sizeAt_trim]
      exact hslot e he
  | @taken level slots d above hd _ ih =>
    have htaken := Agrees.taken hd ih
    rwa [sizeAt_trim, ← trim_some] at htaken

/-! ## Partials as slots -/

/-- Digests other than zero stand for themselves. -/
lemma slotsOf_eq (hdigests : ∀ d, some d ∈ slots → isDigest d = true)
    (hzero : some zeroDigest ∉ slots) (level : Nat) :
    Accumulator.slotsOf level slots = .ok slots := by
  induction slots generalizing level with
  | nil => rfl
  | cons slot slots ih =>
    have hrest := ih (fun d hd => hdigests d (List.mem_cons_of_mem _ hd))
      (List.not_mem_of_not_mem_cons hzero) (level + 1)
    have hslot : Accumulator.slotOf level slot = .ok slot := by
      cases slot with
      | none => rfl
      | some d =>
        have hne : d ≠ zeroDigest := by
          rintro rfl
          exact hzero List.mem_cons_self
        rw [Accumulator.slotOf, if_neg hne, if_pos (hdigests d List.mem_cons_self)]
    rw [Accumulator.slotsOf, hslot, ok_bind, hrest]
    rfl

lemma zeroDigest_not_mem_slotsOf {partials : List (Option Bytes)}
    (hslots : Accumulator.slotsOf level partials = .ok slots) : some zeroDigest ∉ slots := by
  induction partials generalizing level slots with
  | nil =>
    obtain rfl := Except.ok.inj hslots
    exact List.not_mem_nil
  | cons p partials ih =>
    rw [Accumulator.slotsOf, bind_eq_ok] at hslots
    obtain ⟨slot, hslot, hslots⟩ := hslots
    obtain ⟨rest, hrest, hslots⟩ := bind_eq_ok.1 hslots
    obtain rfl := Except.ok.inj hslots
    refine List.not_mem_cons_of_ne_of_not_mem ?_ (ih hrest)
    rintro rfl
    cases p with
    | none => cases Except.ok.inj hslot
    | some d =>
      rw [Accumulator.slotOf] at hslot
      split at hslot
      · cases Except.ok.inj hslot
      · rename_i hne
        split at hslot
        · exact hne (Option.some.inj (Except.ok.inj hslot))
        · cases hslot

/-- Partials stand for no more leaves than they seem to, and for as many only if each of them stands
for itself. -/
lemma sizeOfSlots_slotsOf {partials : List (Option Bytes)}
    (hslots : Accumulator.slotsOf level partials = .ok slots) :
    Accumulator.sizeOfSlots slots ≤ Accumulator.sizeOfSlots partials ∧
      (Accumulator.sizeOfSlots slots = Accumulator.sizeOfSlots partials → slots = partials) := by
  induction partials generalizing level slots with
  | nil =>
    obtain rfl := Except.ok.inj hslots
    exact ⟨le_rfl, fun _ => rfl⟩
  | cons p partials ih =>
    rw [Accumulator.slotsOf, bind_eq_ok] at hslots
    obtain ⟨slot, hslot, hslots⟩ := hslots
    obtain ⟨rest, hrest, hslots⟩ := bind_eq_ok.1 hslots
    obtain rfl := Except.ok.inj hslots
    obtain ⟨hle, heq⟩ := ih hrest
    cases p with
    | none =>
      obtain rfl := Except.ok.inj hslot
      rw [Accumulator.sizeOfSlots, Accumulator.sizeOfSlots]
      exact ⟨by omega, fun hsize => by rw [heq (by omega)]⟩
    | some d =>
      rw [Accumulator.slotOf] at hslot
      split at hslot
      · obtain rfl := Except.ok.inj hslot
        rw [Accumulator.sizeOfSlots, Accumulator.sizeOfSlots]
        exact ⟨by omega, fun hsize => by omega⟩
      · split at hslot
        · obtain rfl := Except.ok.inj hslot
          rw [Accumulator.sizeOfSlots, Accumulator.sizeOfSlots]
          exact ⟨by omega, fun hsize => by rw [heq (by omega)]⟩
        · cases hslot

lemma ofPartials_eq_ok {partials : List (Option Bytes)} {a : Accumulator} :
    Accumulator.ofPartials partials = .ok a ↔
      Accumulator.slotsOf 0 partials = .ok a.slots ∧ a.slots.getLast? ≠ some none ∧
        a.size ≤ maxWord := by
  rw [Accumulator.ofPartials]
  cases hslots : Accumulator.slotsOf 0 partials with
  | error cause => simp
  | ok slots =>
    rw [ok_bind]
    dsimp only
    by_cases htop : slots.getLast? = some none
    · rw [if_pos htop]
      simp only [throw_eq_error, error_bind, reduceCtorEq, Except.ok.injEq, false_iff]
      rintro ⟨rfl, hne, -⟩
      exact hne htop
    · rw [if_neg htop]
      by_cases hsize : maxWord < Accumulator.sizeOfSlots slots
      · rw [if_pos hsize]
        simp only [throw_eq_error, error_bind, reduceCtorEq, Except.ok.injEq, false_iff]
        rintro ⟨rfl, -, hle⟩
        exact hle.not_gt hsize
      · rw [if_neg hsize]
        constructor
        · intro ha
          obtain rfl := Except.ok.inj ha
          exact ⟨rfl, htop, not_lt.1 hsize⟩
        · rintro ⟨heq, -, -⟩
          obtain rfl := Except.ok.inj heq
          rfl

/-! ## Replays -/

/-- Events that agree with the slots of an accumulator are replayed to it. -/
lemma accumulator_of_agrees (hagrees : Agrees 0 slots kept) (htop : slots.getLast? ≠ some none)
    (hmax : Accumulator.sizeOfSlots slots ≤ maxWord) (hzero : some zeroDigest ∉ slots) :
    accumulator kept = .ok ⟨slots⟩ := by
  obtain ⟨count, hsurvivors⟩ := hagrees.survivors_eq
  have hpartials : Accumulator.ofPartials slots = .ok ⟨slots⟩ :=
    ofPartials_eq_ok.2 ⟨slotsOf_eq (fun d hd => hagrees.isDigest_of_mem hd) hzero 0, htop, hmax⟩
  rw [accumulator, hsurvivors, ok_bind]
  dsimp only
  rw [trim_append_replicate, trim_of_top htop, hpartials, ok_bind, Accumulator.sizeAt_zero]
  exact if_neg (not_not.2 rfl)

/-- What a replay does at one level: an event newer than all above it survives, and any other event
that passes its check does not. -/
lemma survivors_cons {slot : Option Event} {above : List (Option Event)}
    (hsurvivors : survivors level (slot :: above) = .ok (slots, newest)) :
    ∃ rest newest', survivors (level + 1) above = .ok (rest, newest') ∧
      ((slots = none :: rest ∧ newest = newest' ∧
          ∀ e, slot = some e → check level e = .ok () ∧ e.sizeAfter ≤ newest') ∨
        ∃ e, slot = some e ∧ check level e = .ok () ∧ newest' < e.sizeAfter ∧
          slots = some e.hash :: rest ∧ newest = e.sizeAfter) := by
  rw [survivors, bind_eq_ok] at hsurvivors
  obtain ⟨⟨rest, newest'⟩, habove, hsurvivors⟩ := hsurvivors
  refine ⟨rest, newest', habove, ?_⟩
  dsimp only at hsurvivors
  cases slot with
  | none =>
    obtain ⟨rfl, rfl⟩ := Prod.mk.inj (Except.ok.inj hsurvivors)
    exact Or.inl ⟨rfl, rfl, fun _ he => by cases he⟩
  | some e =>
    dsimp only at hsurvivors
    obtain ⟨⟨⟩, hcheck, hsurvivors⟩ := bind_eq_ok.1 hsurvivors
    split at hsurvivors
    case isTrue hnewer =>
      obtain ⟨rfl, rfl⟩ := Prod.mk.inj (Except.ok.inj hsurvivors)
      exact Or.inr ⟨e, rfl, hcheck, hnewer, rfl, rfl⟩
    case isFalse hstale =>
      obtain ⟨rfl, rfl⟩ := Prod.mk.inj (Except.ok.inj hsurvivors)
      refine Or.inl ⟨rfl, rfl, fun e' he' => ?_⟩
      obtain rfl := Option.some.inj he'
      exact ⟨hcheck, not_lt.1 hstale⟩

/-- The survivors of a replay stand for at most as many leaves as the newest event tells, and agree
with the events if they stand for as many. -/
lemma agrees_of_survivors (hsurvivors : survivors level kept = .ok (slots, newest)) :
    ∃ count : Nat, newest = (count * 2 ^ level : Nat) ∧ Accumulator.sizeOfSlots slots ≤ count ∧
      (Accumulator.sizeOfSlots slots = count → Agrees level slots kept) := by
  induction kept generalizing level slots newest with
  | nil =>
    obtain ⟨rfl, rfl⟩ := Prod.mk.inj (Except.ok.inj hsurvivors)
    exact ⟨0, by simp, by simp [Accumulator.sizeOfSlots], fun _ => .nil fun _ he => by cases he⟩
  | cons slot above ih =>
    obtain ⟨rest, newest', habove, hcases⟩ := survivors_cons hsurvivors
    obtain ⟨count, rfl, hle, hagrees⟩ := ih habove
    have hdouble : count * 2 ^ (level + 1) = 2 * count * 2 ^ level := by ring
    rcases hcases with ⟨rfl, rfl, hslot⟩ | ⟨e, rfl, hcheck, hnewer, rfl, rfl⟩
    · rw [Accumulator.sizeOfSlots]
      refine ⟨2 * count, by rw [hdouble], by omega, fun heq => ?_⟩
      have hrest : Accumulator.sizeOfSlots rest = count := by omega
      refine .free (fun e he => ?_) (hagrees hrest)
      rw [sizeAt, hrest]
      exact hslot e he
    · obtain ⟨hlevel, hpos, hdvd, hdigest⟩ := check_eq_ok.1 hcheck
      obtain ⟨size, hsize⟩ := Int.eq_ofNat_of_zero_le hpos.le
      rw [hsize] at hdvd hnewer
      obtain ⟨k, rfl⟩ := Int.natCast_dvd_natCast.1 hdvd
      have hcount : 2 * count < k := by
        rw [hdouble, Nat.mul_comm, Int.ofNat_lt] at hnewer
        exact Nat.lt_of_mul_lt_mul_left hnewer
      rw [Accumulator.sizeOfSlots]
      refine ⟨k, by rw [hsize, Nat.mul_comm], by omega, fun heq => ?_⟩
      -- nothing is missing, so that the event stands for one block more than the slots above it
      have hrest : Accumulator.sizeOfSlots rest = count := by omega
      have hk : 2 ^ level * k = sizeAt (level + 1) rest + 2 ^ level := by
        rw [sizeAt, hrest, hdouble, ← heq, hrest]
        ring
      have hevent : e = ⟨level, (sizeAt (level + 1) rest + 2 ^ level : Nat), e.hash⟩ := by
        rw [← hlevel, ← hk, ← hsize]
      rw [hevent]
      exact .taken hdigest (hagrees hrest)

/-- A replay that succeeds gives the accumulator of what survives, which adds up to the newest
size. -/
lemma of_accumulator_eq_ok {a : Accumulator} (ha : accumulator kept = .ok a) :
    ∃ raw, survivors 0 kept = .ok (raw, (a.size : Int)) ∧
      Accumulator.ofPartials (trim raw) = .ok a := by
  rw [accumulator, bind_eq_ok] at ha
  obtain ⟨⟨raw, newest⟩, hsurvivors, ha⟩ := ha
  obtain ⟨a', hpartials, ha⟩ := bind_eq_ok.1 ha
  by_cases hsize : (a'.size : Int) = newest
  · rw [if_neg (not_not.2 hsize)] at ha
    obtain rfl := Except.ok.inj ha
    exact ⟨raw, by rw [hsurvivors, hsize], hpartials⟩
  · rw [if_pos hsize, throw_eq_error, error_bind] at ha
    cases ha

lemma zeroDigest_not_mem_of_accumulator {a : Accumulator} (ha : accumulator kept = .ok a) :
    some zeroDigest ∉ a.slots := by
  obtain ⟨raw, -, hpartials⟩ := of_accumulator_eq_ok ha
  exact zeroDigest_not_mem_slotsOf (ofPartials_eq_ok.1 hpartials).1

/-- Where a replay succeeds, the events agree with the slots that it gives. -/
lemma agrees_of_accumulator {a : Accumulator} (ha : accumulator kept = .ok a) :
    Agrees 0 a.slots kept ∧ a.slots.getLast? ≠ some none ∧ a.size ≤ maxWord := by
  obtain ⟨raw, hsurvivors, hpartials⟩ := of_accumulator_eq_ok ha
  obtain ⟨hslots, htop, hmax⟩ := ofPartials_eq_ok.1 hpartials
  obtain ⟨count, hcount, hle, hagrees⟩ := agrees_of_survivors hsurvivors
  obtain ⟨hless, hsame⟩ := sizeOfSlots_slotsOf hslots
  rw [sizeOfSlots_trim] at hless hsame
  -- the partials cannot stand for more leaves than the newest event tells
  have htotal : Accumulator.sizeOfSlots a.slots = count := by
    rw [Nat.pow_zero, Nat.mul_one] at hcount
    exact_mod_cast hcount
  rw [hsame (by omega)]
  exact ⟨(hagrees (by omega)).trim, by rwa [← hsame (by omega)], hmax⟩

end Replay

end MerkleLog
