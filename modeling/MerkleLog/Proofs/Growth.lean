import MerkleLog.Proofs.Completeness
import MerkleLog.Proofs.Resumption

/-!
# Ledgers that grow

A ledger that records heads takes leaves in several goes.  As long as no complete block of its
leaves has the zero digest, it can be opened again between any two of them, has recorded the root of
the smallest tree for every size, and finds every leaf.
-/

namespace MerkleLog

namespace Ledger

variable {h : Hash} {leaves front back : List Bytes} {l last : Ledger} {sizes : List Nat}
  {i n : Nat}

/-- Leaves of which no complete block has the zero digest. -/
def Unzeroed (h : Hash) (leaves : List Bytes) : Prop :=
  ∀ b : Block, b.stop ≤ leaves.length → b.digest h leaves ≠ zeroDigest

lemma Unzeroed.of_append (hzero : Unzeroed h (front ++ back)) : Unzeroed h front := by
  intro b hstop
  have hdigest : b.digest h front = b.digest h (front ++ back) := by
    have htake : b.digest h ((front ++ back).take front.length) = b.digest h (front ++ back) :=
      Block.digest_take hstop
    rwa [List.take_left] at htake
  rw [hdigest]
  exact hzero b (hstop.trans (by simp))

/-- A ledger that took some leaves from none on, recorded the heads, and can be opened again. -/
structure Grown (h : Hash) (leaves : List Bytes) (l : Ledger) : Prop where
  run : (empty true).appendAll h leaves = .ok l
  records : Records h leaves leaves.length l
  recordsHeads : l.recordsHeads = true
  resumable : l.Resumable
  unzeroed : Unzeroed h leaves
  digests : ∀ d ∈ leaves, isDigest d = true
  length_le : leaves.length ≤ maxWord

lemma appendAll_of_appendSizes (hrun : l.appendSizes h leaves = .ok (last, sizes)) :
    l.appendAll h leaves = .ok last := by
  induction leaves generalizing l sizes with
  | nil =>
    obtain ⟨rfl, -⟩ := Prod.mk.inj (Except.ok.inj hrun)
    rfl
  | cons leaf leaves ih =>
    rw [appendSizes, bind_eq_ok] at hrun
    obtain ⟨next, hstep, hrun⟩ := hrun
    obtain ⟨⟨reached, rest⟩, hrest, hrun⟩ := bind_eq_ok.1 hrun
    obtain ⟨rfl, -⟩ := Prod.mk.inj (Except.ok.inj hrun)
    rw [appendAll, List.foldlM_cons, hstep, ok_bind]
    exact ih hrest

lemma grown_empty (h : Hash) : Grown h [] (empty true) where
  run := rfl
  records := records_empty true
  recordsHeads := rfl
  resumable := (resumable_of_ofStore Store.sound_empty (ofStore_empty true)).1
  unzeroed := fun b hstop => absurd b.start_lt_stop (by
    rw [List.length_nil] at hstop
    omega)
  digests := nofun
  length_le := Nat.zero_le _

/-- A ledger takes more leaves. -/
lemma Grown.exists_appendAll (hl : Grown h front l)
    (hdigests : ∀ d ∈ front ++ back, isDigest d = true) (hmax : (front ++ back).length ≤ maxWord)
    (hzero : Unzeroed h (front ++ back)) :
    ∃ next, l.appendAll h back = .ok next ∧ Grown h (front ++ back) next := by
  obtain ⟨next, hall, hrecords, hheads⟩ := appendAll_records (h := h) true hdigests hmax
  obtain ⟨next', sizes, hsizes, hresumable, -, -⟩ :=
    (grown_empty h).resumable.appendSizes hdigests ((Nat.zero_add _).trans_le hmax)
  obtain rfl := Except.ok.inj (hall.symm.trans (appendAll_of_appendSizes hsizes))
  refine ⟨next, ?_, hall, hrecords, hheads, hresumable, hzero, hdigests, hmax⟩
  rwa [appendAll, List.foldlM_append, ← appendAll, hl.run, ok_bind] at hall

lemma Grown.zero_not_mem (hl : Grown h leaves l) : some zeroDigest ∉ l.accumulator.slots := by
  intro hmem
  obtain ⟨b, hstop, hb⟩ := hl.records.slots.exists_block hmem
  rw [Block.start_leaf] at hstop
  exact hl.unzeroed b hstop hb

end Ledger

end MerkleLog
