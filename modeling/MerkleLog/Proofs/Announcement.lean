import MerkleLog.Proofs.Replay

/-!
# Appends and their events

An append carries a digest into the slots and announces every node that it completes.  The events
take the places of the older ones at their levels, and after that the newest events agree with the
new slots: those below the slot where the carry settles are no newer than the one that settles
there.
-/

namespace MerkleLog

variable {h : Hash} {level size : Nat} {slots : List (Option Bytes)} {d : Bytes} {ds : List Bytes}
  {kept : List (Option Event)}

namespace Replay

open Accumulator (sizeAt carry eventsFrom sizeAt_nil sizeAt_none sizeAt_some sizeOfSlots_carry)

/-! ## Observing the events of an append -/

/-- The newest events from a level upward after those of an append. -/
def overlay (size : Nat) : Nat → List Bytes → List (Option Event) → List (Option Event)
  | _, [], kept => kept
  | level, d :: ds, kept => some ⟨level, size, d⟩ :: overlay size (level + 1) ds kept.tail

lemma keep_append (below : List (Option Event)) {slot : Option Event} {e : Event}
    (hnewer : isNewer e slot = true) (above : List (Option Event)) :
    keep (below ++ slot :: above) below.length e = below ++ some e :: above := by
  have hget : (below ++ slot :: above)[below.length]?.join = slot := by simp
  rw [keep, hget, if_pos hnewer, List.set_append_right _ _ le_rfl, Nat.sub_self, List.set_cons_zero]

/-- A newer event at a level takes the place of the one kept there, if there is one. -/
lemma observe_append (below : List (Option Event))
    (hkept : ∀ e, some e ∈ kept → e.sizeAfter < size) (d : Bytes) :
    observe (below ++ kept) ⟨below.length, size, d⟩
      = .ok (below ++ some ⟨below.length, size, d⟩ :: kept.tail) := by
  have hpos : (0 : Int) ≤ below.length := Int.natCast_nonneg _
  rw [observe, if_pos hpos, Int.toNat_natCast]
  dsimp only
  -- the list is lengthened up to the level first, which only matters at its end
  cases kept with
  | nil =>
    have hroom : below ++ [] ++ List.replicate (below.length + 1 - (below ++ []).length) none
        = below ++ [none] := by simp
    rw [hroom, keep_append below rfl]
    rfl
  | cons slot above =>
    have hroom : below ++ slot :: above
        ++ List.replicate (below.length + 1 - (below ++ slot :: above).length) none
          = below ++ slot :: above := by simp
    have hnewer : isNewer ⟨below.length, size, d⟩ slot = true := by
      cases slot with
      | none => rfl
      | some e => exact decide_eq_true (hkept e List.mem_cons_self)
    rw [hroom, keep_append below hnewer]
    rfl

/-- The events of an append take the places of older ones. -/
lemma foldlM_observe (below : List (Option Event)) (hlevel : below.length = level)
    (hkept : ∀ e, some e ∈ kept → e.sizeAfter < size) :
    (eventsFrom level size ds).foldlM observe (below ++ kept)
      = .ok (below ++ overlay size level ds kept) := by
  induction ds generalizing level below kept with
  | nil => rfl
  | cons d ds ih =>
    have hlength : (below ++ [some (⟨level, size, d⟩ : Event)]).length = level + 1 := by
      simp [hlevel]
    have hrest := ih _ hlength fun e he => hkept e (List.mem_of_mem_tail he)
    have hobserve := observe_append below hkept d
    rw [hlevel] at hobserve
    rw [eventsFrom, List.foldlM_cons, hobserve, ok_bind, overlay]
    simpa only [List.append_assoc, List.singleton_append] using hrest

/-- After an append, the newest events agree with the new slots. -/
lemma Agrees.append (hagrees : Agrees level slots kept) (hd : isDigest d = true)
    (hsize : size = sizeAt level slots + 2 ^ level) :
    Agrees level (carry h slots d).1 (overlay size level (d :: (carry h slots d).2) kept) := by
  induction hagrees generalizing d with
  | @nil level kept hkept =>
    rw [sizeAt_nil] at hsize
    subst hsize
    have habove : Agrees (level + 1) [] kept.tail :=
      .nil fun slot hslot => hkept slot (List.mem_of_mem_tail hslot)
    have htaken := Agrees.taken hd habove
    rwa [sizeAt_nil] at htaken
  | @free level slots slot above _ habove _ =>
    rw [sizeAt_none] at hsize
    subst hsize
    exact .taken hd habove
  | @taken level slots older above holder _ ih =>
    have hparent : isDigest (h.pair older d) = true := isDigest_iff.2 (h.length_pair _ _)
    have hsize' : size = sizeAt (level + 1) slots + 2 ^ (level + 1) := by
      rw [hsize, sizeAt_some]
      ring
    refine .free (fun e he => ?_) (ih hparent hsize')
    obtain rfl := Option.some.inj he
    -- the slot is freed, and all that it stood for is counted above
    have hnext : sizeAt (level + 1) (carry h slots (h.pair older d)).1 = size := by
      rw [sizeAt, sizeOfSlots_carry, hsize', sizeAt]
      ring
    refine ⟨check_eq_ok.2 ⟨rfl, ?_, ?_, hd⟩, ?_⟩
    · have := Nat.two_pow_pos level
      dsimp only
      omega
    · have hdvd : 2 ^ level ∣ size := by
        rw [← hnext]
        exact (Nat.pow_dvd_pow 2 (Nat.le_succ level)).trans (Accumulator.two_pow_dvd_sizeAt _ _)
      exact Int.natCast_dvd_natCast.2 hdvd
    · rw [hnext]

end Replay

end MerkleLog
