import MerkleLog.Proofs.Consistency
import MerkleLog.Proofs.Delivery
import MerkleLog.Proofs.Session

/-!
# Which of two events at one address counts

An address may be announced more than once.  The index goes by the last announcement.  What is kept
of a stream for a replay goes by the first, for an event must be strictly newer than another to take
its place.  So an accumulator that is restored from a store holds the digests that are looked up for
proofs as long as all announcements of an address carry the same digest.
-/

namespace MerkleLog

variable {s : Store} {a : Accumulator} {stream : List Event} {e : Event}
  {kept kept' : List (Option Event)} {level : Nat}

namespace Replay

/-! ## The first event is kept -/

/-- What is kept after an event was observed: what was kept before, or the event, if it is newer
than what was kept for its level. -/
lemma getElem?_observe (hlevel : 0 ≤ e.level) (hobserve : observe kept e = .ok kept')
    {e' : Event} (he' : kept'[level]? = some (some e')) :
    kept[level]? = some (some e') ∨ e' = e ∧ ∀ older,
      kept[e.level.toNat]? = some (some older) → older.sizeAfter < e.sizeAfter := by
  rw [observe, if_pos hlevel] at hobserve
  obtain rfl := Except.ok.inj hobserve
  rw [keep] at he'
  split at he'
  · rename_i hnewer
    by_cases hsame : e.level.toNat = level
    · refine Or.inr ⟨?_, fun older holder => ?_⟩
      · rw [List.getElem?_set, if_pos hsame] at he'
        split at he'
        · exact (Option.some.inj (Option.some.inj he')).symm
        · cases he'
      · rw [getElem?_append_replicate.2 holder] at hnewer
        exact of_decide_eq_true hnewer
    · rw [List.getElem?_set_ne hsame] at he'
      exact Or.inl (getElem?_append_replicate.1 he')
  · exact Or.inl (getElem?_append_replicate.1 he')

/-- Of the events of a stream at one address, none but the first is kept. -/
lemma find?_of_latest (hlevels : ∀ e ∈ stream, 0 ≤ e.level) (hlatest : latest stream = .ok kept)
    (he : kept[level]? = some (some e)) :
    stream.find? (fun e' => e'.address = e.address) = some e := by
  induction stream using List.reverseRecOn generalizing kept level e with
  | nil =>
    obtain rfl := Except.ok.inj hlatest
    cases he
  | append_singleton stream newest ih =>
    rw [List.forall_mem_append] at hlevels
    obtain ⟨before, hbefore, hnewest⟩ := exists_latest hlevels.1
    rw [latest, List.foldlM_append, ← latest, hbefore, ok_bind, List.foldlM_cons, bind_eq_ok]
      at hlatest
    obtain ⟨after, hobserve, hafter⟩ := hlatest
    obtain rfl := Except.ok.inj hafter
    rw [List.find?_append]
    have hlevel := hlevels.2 newest List.mem_cons_self
    rcases getElem?_observe hlevel hobserve he with hold | ⟨rfl, hnewer⟩
    · rw [ih hlevels.1 hbefore hold, Option.some_or]
    · -- an earlier event of the same address would be as new
      have hnone : stream.find? (fun e' => e'.address = e.address) = none := by
        rw [List.find?_eq_none]
        intro e' he' hsame
        obtain ⟨hlevels, hafter⟩ := Address.mk.inj (of_decide_eq_true hsame)
        obtain ⟨older, holder, hle⟩ := hnewest.newest e' he'
        rw [hlevels] at holder
        have hlt := hnewer older holder
        omega
      rw [hnone, Option.none_or, List.find?_singleton, if_pos (decide_eq_true rfl)]

end Replay

namespace Store

/-- Where every slot of an accumulator restored from what is kept comes from. -/
lemma exists_kept_of_slot (ha : Replay.accumulator kept = .ok a) {d : Bytes}
    (hd : a.slots[level]? = some (some d)) :
    ∃ e, some e ∈ kept ∧ e.hash = d ∧
      e.address = ⟨level, (a.size / 2 ^ level * 2 ^ level : Nat) - 1⟩ := by
  have hbit : a.size.testBit level = true := by
    rw [Accumulator.size, Accumulator.testBit_sizeOfSlots, hd]
    rfl
  obtain ⟨hplaced, -, hkept⟩ := Replay.consistent_of_accumulator ha
  obtain ⟨e, he, hafter, -⟩ := hkept.present level hbit
  have hslot := Replay.slot_of_accumulator ha level
  rw [hd, if_pos hbit, he] at hslot
  refine ⟨e, List.mem_of_getElem? he, (Option.some.inj hslot).symm, ?_⟩
  rw [Event.address, (hplaced level e he).1, hafter]

/-- What is kept of every level is the first event at its address; the last is looked up there. -/
lemma Coherent.exists_latest (hs : s.Coherent) :
    ∃ kept, s.latest = .ok kept ∧ ∀ e, some e ∈ kept → ∃ last,
      s.events.toList.find? (fun e' => e'.address = e.address) = some e ∧
      s.events.toList.reverse.find? (fun e' => e'.address = e.address) = some last ∧
      s.lookup [e.address] = .ok [(e.address, last.hash)] := by
  have hlevels : ∀ e ∈ s.events.toList, 0 ≤ e.level := fun e he =>
    (Address.fits_iff.1 (hs.fits e he)).1.1
  obtain ⟨kept, hlatest, -⟩ := Replay.exists_latest hlevels
  refine ⟨kept, hlatest, fun e he => ?_⟩
  obtain ⟨level, hlevel⟩ := List.getElem?_of_mem he
  have hfirst := Replay.find?_of_latest hlevels hlatest hlevel
  have hmem := List.mem_of_find?_eq_some hfirst
  obtain ⟨last, hlast, hlookup⟩ := (Tallied.of_coherent hs).exists_lookup hmem (hs.fits e hmem)
  exact ⟨last, hfirst, hlast, hlookup⟩

/-- Of a store that came about without failure, the newest event of every level is the first that
was recorded at its address, while the last is looked up there.  If all that were recorded at one
address carry one digest, then the two tell the same, and an accumulator that is restored from the
store holds the digests that are looked up. -/
theorem latest_and_lookup_of_reached (hs : Reached s) :
    ∃ kept, s.latest = .ok kept ∧
      (∀ e, some e ∈ kept → ∃ last,
        s.events.toList.find? (fun e' => e'.address = e.address) = some e ∧
        s.events.toList.reverse.find? (fun e' => e'.address = e.address) = some last ∧
        s.lookup [e.address] = .ok [(e.address, last.hash)]) ∧
      ((∀ e ∈ s.events.toList, ∀ e' ∈ s.events.toList, e.address = e'.address → e.hash = e'.hash) →
        (∀ e, some e ∈ kept → s.lookup [e.address] = .ok [(e.address, e.hash)]) ∧
        ∀ a, Replay.accumulator kept = .ok a → ∀ (level : Nat) d,
          a.slots[level]? = some (some d) →
          s.lookup [⟨level, (a.size / 2 ^ level * 2 ^ level : Nat) - 1⟩]
            = .ok [(⟨level, (a.size / 2 ^ level * 2 ^ level : Nat) - 1⟩, d)]) := by
  obtain ⟨kept, hlatest, hkept⟩ := hs.coherent.exists_latest
  refine ⟨kept, hlatest, hkept, fun hsame => ?_⟩
  have hagree : ∀ e, some e ∈ kept → s.lookup [e.address] = .ok [(e.address, e.hash)] := by
    intro e he
    obtain ⟨last, hfirst, hlast, hlookup⟩ := hkept e he
    have hfound := List.find?_some hlast
    have haddress : last.address = e.address := of_decide_eq_true hfound
    have hmem := List.mem_reverse.1 (List.mem_of_find?_eq_some hlast)
    rw [hlookup, hsame last hmem e (List.mem_of_find?_eq_some hfirst) haddress]
  refine ⟨hagree, fun a ha level d hd => ?_⟩
  obtain ⟨e, he, rfl, haddress⟩ := exists_kept_of_slot ha hd
  rw [← haddress]
  exact hagree e he

/-- The store of a log with two leaves. -/
def twoLeaves : Store :=
  empty.extend [⟨0, 1, List.replicate digestSize 1⟩, ⟨0, 2, List.replicate digestSize 2⟩,
    ⟨1, 2, List.replicate digestSize 3⟩]

theorem latest_and_lookup_of_reached_twoLeaves :
    ∃ kept a, Reached twoLeaves ∧ twoLeaves.latest = .ok kept ∧
      Replay.accumulator kept = .ok a ∧ a.slots = [none, some (List.replicate digestSize 3)] ∧
      twoLeaves.lookup [⟨1, 1⟩] = .ok [(⟨1, 1⟩, List.replicate digestSize 3)] := by
  have hreached : Reached twoLeaves := .record .empty (record_of_fits empty (by decide))
  obtain ⟨kept, hlatest, -, hagree⟩ := latest_and_lookup_of_reached hreached
  have hkept : twoLeaves.latest = .ok [some ⟨0, 2, List.replicate digestSize 2⟩,
    some ⟨1, 2, List.replicate digestSize 3⟩] := rfl
  obtain rfl := Except.ok.inj (hkept.symm.trans hlatest)
  have ha : Replay.accumulator [some ⟨0, 2, List.replicate digestSize 2⟩,
    some ⟨1, 2, List.replicate digestSize 3⟩]
      = .ok ⟨[none, some (List.replicate digestSize 3)]⟩ := by decide +kernel
  have hsame : ∀ e ∈ twoLeaves.events.toList, ∀ e' ∈ twoLeaves.events.toList,
      e.address = e'.address → e.hash = e'.hash := by decide
  exact ⟨_, _, hreached, hlatest, ha, rfl, (hagree hsame).2 _ ha 1 _ rfl⟩

/-- The store after two logs that were opened on it have each appended their first leaf. -/
def contested : Store :=
  (empty.extend [⟨0, 1, List.replicate digestSize 1⟩]).extend [⟨0, 1, List.replicate digestSize 2⟩]

lemma reached_contested : Reached contested := by
  have hfirst : (Ledger.empty false).append Sha256.hash (List.replicate digestSize 1)
      = .ok ⟨empty.extend [⟨0, 1, List.replicate digestSize 1⟩],
        ⟨[some (List.replicate digestSize 1)]⟩, false⟩ :=
    Ledger.append_eq rfl (by decide) rfl
  have hsecond : Ledger.append Sha256.hash
      ⟨empty.extend [⟨0, 1, List.replicate digestSize 1⟩], .empty, false⟩
      (List.replicate digestSize 2)
      = .ok ⟨contested, ⟨[some (List.replicate digestSize 2)]⟩, false⟩ :=
    Ledger.append_eq rfl (by decide) rfl
  have hshared : Reached (empty.extend [⟨0, 1, List.replicate digestSize 1⟩]) :=
    .append (l := .empty false) .empty hfirst
  exact .append (l := ⟨_, .empty, false⟩) hshared hsecond

/-- After two logs have appended to one store, what is kept differs from what is looked up. -/
theorem latest_apart_from_lookup :
    ∃ kept e, Reached contested ∧ contested.latest = .ok kept ∧ some e ∈ kept ∧
      contested.lookup [e.address] ≠ .ok [(e.address, e.hash)] := by
  refine ⟨[some ⟨0, 1, List.replicate digestSize 1⟩], ⟨0, 1, List.replicate digestSize 1⟩,
    reached_contested, rfl, List.mem_singleton_self _, ?_⟩
  have htallied := Tallied.of_coherent reached_contested.coherent
  obtain ⟨last, hlast, hlookup⟩ := htallied.exists_lookup
    (e := ⟨0, 1, List.replicate digestSize 1⟩) List.mem_cons_self (by decide)
  have hsecond : contested.events.toList.reverse.find? (fun e' => e'.address = ⟨0, 0⟩)
      = some ⟨0, 1, List.replicate digestSize 2⟩ := by decide
  obtain rfl := Option.some.inj (hlast.symm.trans hsecond)
  rw [hlookup]
  decide

end Store

end MerkleLog
