import Mathlib.Data.Finset.Card
import MerkleLog.Proofs.Persistence
import MerkleLog.Proofs.Resumption
import MerkleLog.Session

/-!
# What calls leave in a store

Recording puts an event into the list before it looks for the key of its address.  An event without
one ends the call, and stays in the list without having come into the index.  So the index holds, at
all times, the events of the list whose addresses have keys, and there are as many others as there
were calls that failed in this way.  Logs add nothing to these: the events of their appends have
keys.
-/

namespace MerkleLog

variable {h : Hash} {s : Store} {events : List Event} {e : Event} {a : Address} {leaf : Bytes}
  {refused : Nat}

namespace Store

/-! ## The size of an index -/

lemma mem_index : a ∈ index ∅ events ↔ a ∈ events.map Event.address := by
  rw [← Std.HashMap.isSome_getElem?_iff_mem, getElem?_index, Std.HashMap.getElem?_empty,
    Option.or_none, Option.isSome_map, List.find?_isSome, List.mem_map]
  simp

/-- An index has an entry for every address. -/
lemma size_index_eq_card (events : List Event) :
    (index ∅ events).size = (events.map Event.address).toFinset.card := by
  induction events using List.reverseRecOn with
  | nil => rfl
  | append_singleton events e ih =>
    have hinsert : index ∅ (events ++ [e]) = (index ∅ events).insert e.address e.hash :=
      index_append ∅ events [e]
    rw [hinsert, Std.HashMap.size_insert, List.map_append, List.toFinset_append, List.map_singleton,
      List.toFinset_cons, List.toFinset_nil, Finset.union_comm, Finset.insert_union,
      Finset.empty_union, Finset.card_insert_eq_ite, ih]
    simp only [mem_index, List.mem_toFinset]

/-! ## Events with keys and others -/

/-- The index is that of the events with keys, and a number of others is listed. -/
structure Tallied (s : Store) (refused : Nat) : Prop where
  nodes : s.nodes = index ∅ (s.events.toList.filter (·.address.fits))
  refused : s.events.toList.countP (!·.address.fits) = refused

lemma countP_not_fits_eq_zero :
    events.countP (!·.address.fits) = 0 ↔ ∀ e ∈ events, e.address.fits = true := by
  simp [List.countP_eq_zero]

/-- The events up to the first without a key are recorded, that one in the list only. -/
lemma record_of_not_fits (s : Store) {front back : List Event}
    (hfront : ∀ e ∈ front, e.address.fits = true) (he : e.address.fits = false) :
    s.record (front ++ e :: back)
      = ({ s.extend front with events := (s.extend front).events.push e },
        .error (.addressOutOfRange e.address)) := by
  induction front generalizing s with
  | nil =>
    rw [List.nil_append, record, Address.encode_of_not_fits he]
    simp [extend, index]
  | cons e' front ih =>
    obtain ⟨key, hkey⟩ := Address.encode_of_fits (hfront e' List.mem_cons_self)
    rw [List.cons_append, record, hkey]
    dsimp only
    rw [ih _ fun e he => hfront e (List.mem_cons_of_mem _ he)]
    simp [extend, index]

/-- Either all events have keys, or there is a first without one. -/
lemma forall_fits_or_exists (events : List Event) :
    (∀ e ∈ events, e.address.fits = true) ∨ ∃ front e back, events = front ++ e :: back ∧
      (∀ e ∈ front, e.address.fits = true) ∧ e.address.fits = false := by
  induction events with
  | nil => exact Or.inl nofun
  | cons e events ih =>
    cases he : e.address.fits with
    | false => exact Or.inr ⟨[], e, events, rfl, nofun, he⟩
    | true =>
      rcases ih with hall | ⟨front, e', back, rfl, hfront, he'⟩
      · exact Or.inl (List.forall_mem_cons.2 ⟨he, hall⟩)
      · exact Or.inr ⟨e :: front, e', back, rfl, List.forall_mem_cons.2 ⟨he, hfront⟩, he'⟩

namespace Tallied

/-- In a coherent store there are no others. -/
lemma of_coherent (hs : s.Coherent) : s.Tallied 0 where
  nodes := by rw [List.filter_eq_self.2 hs.fits, hs.nodes]
  refused := countP_not_fits_eq_zero.2 hs.fits

lemma extend (hs : s.Tallied refused) (hevents : ∀ e ∈ events, e.address.fits = true) :
    (s.extend events).Tallied refused where
  nodes := by
    rw [Store.extend, Array.toList_append, List.filter_append, index_append, ← hs.nodes,
      List.filter_eq_self.2 hevents]
  refused := by
    rw [Store.extend, Array.toList_append, List.countP_append, hs.refused,
      countP_not_fits_eq_zero.2 hevents, Nat.add_zero]

/-- An event without a key comes into the list only. -/
lemma push (hs : s.Tallied refused) (he : e.address.fits = false) :
    Tallied { s with events := s.events.push e } (refused + 1) where
  nodes := by
    have hnone : [e].filter (·.address.fits) = [] := by simp [he]
    rw [Array.toList_push, List.filter_append, hnone, List.append_nil]
    exact hs.nodes
  refused := by
    rw [Array.toList_push, List.countP_append, hs.refused, List.countP_singleton, he]
    rfl

lemma recordHead (hs : s.Tallied refused) (size : Int) (root : Bytes) :
    (s.recordHead size root).Tallied refused := ⟨hs.nodes, hs.refused⟩

/-- A call that records events leaves one event more without a key if it fails, else none. -/
lemma record (hs : s.Tallied refused) (events : List Event) :
    (s.record events).1.Tallied (refused + match (s.record events).2 with
      | .ok _ => 0
      | .error _ => 1) := by
  rcases forall_fits_or_exists events with hall | ⟨front, e, back, rfl, hfront, he⟩
  · rw [record_of_fits s hall]
    exact hs.extend hall
  · rw [record_of_not_fits s hfront he]
    exact (hs.extend hfront).push he

/-- What the index holds at an address with a key: the digest of the last event listed there. -/
lemma getElem?_nodes (hs : s.Tallied refused) (ha : a.fits = true) :
    s.nodes[a]? = (s.events.toList.reverse.find? fun e => e.address = a).map (·.hash) := by
  rw [hs.nodes, getElem?_index, Std.HashMap.getElem?_empty, Option.or_none, ← List.filter_reverse,
    List.find?_filter]
  refine congrArg _ (congrArg (List.find? · _) (funext fun e => ?_))
  by_cases hsame : e.address = a
  · simp [hsame, ha]
  · simp [hsame]

/-- An event whose address has a key is found, or a later one of the same address in its place. -/
lemma exists_lookup (hs : s.Tallied refused) (he : e ∈ s.events.toList)
    (hfits : e.address.fits = true) :
    ∃ last, s.events.toList.reverse.find? (fun e' => e'.address = e.address) = some last ∧
      s.lookup [e.address] = .ok [(e.address, last.hash)] := by
  have hsome : (s.events.toList.reverse.find? fun e' => e'.address = e.address).isSome := by
    rw [List.find?_isSome]
    exact ⟨e, List.mem_reverse.2 he, decide_eq_true rfl⟩
  obtain ⟨last, hlast⟩ := Option.isSome_iff_exists.1 hsome
  obtain ⟨key, hkey⟩ := Address.encode_of_fits hfits
  refine ⟨last, hlast, ?_⟩
  rw [lookup, hkey, hs.getElem?_nodes hfits, hlast]
  rfl

lemma size_eq (hs : s.Tallied refused) :
    s.size = ((s.events.toList.filter (·.address.fits)).map Event.address).toFinset.card := by
  rw [size, hs.nodes, size_index_eq_card]

lemma eq_zero_iff (hs : s.Tallied refused) :
    refused = 0 ↔ ∀ e ∈ s.events.toList, e.address.fits = true := by
  rw [← hs.refused, countP_not_fits_eq_zero]

/-- The size falls short of the number of all addresses by those that have no key. -/
lemma eq_zero_iff_size_eq (hs : s.Tallied refused) :
    refused = 0 ↔ s.size = (s.events.toList.map Event.address).toFinset.card := by
  rw [hs.size_eq]
  constructor
  · intro hzero
    rw [List.filter_eq_self.2 (hs.eq_zero_iff.1 hzero)]
  · intro hsize
    rw [hs.eq_zero_iff]
    intro e he
    have hsub : ((s.events.toList.filter (·.address.fits)).map Event.address).toFinset
        ⊆ (s.events.toList.map Event.address).toFinset := by
      intro a ha
      rw [List.mem_toFinset] at ha ⊢
      exact List.map_subset _ List.filter_sublist.subset ha
    have hmem : e.address ∈ (s.events.toList.map Event.address).toFinset :=
      List.mem_toFinset.2 (List.mem_map_of_mem he)
    rw [← Finset.eq_of_subset_of_card_le hsub hsize.ge, List.mem_toFinset, List.mem_map] at hmem
    obtain ⟨e', he', haddress⟩ := hmem
    rw [← haddress]
    exact (List.mem_filter.1 he').2

end Tallied

end Store

namespace Ledger

variable {l next : Ledger}

/-! ## Appending in place -/

/-- An append in place fails with the accumulator, and changes nothing then. -/
lemma publish_of_error {cause : Error} (hstep : l.accumulator.append h leaf = .error cause) :
    l.publish h leaf = (l, .error cause) ∧ l.append h leaf = .error cause := by
  constructor
  · rw [publish, hstep]
  · rw [append, hstep, error_bind]

/-- The events of an append have keys, and there is a root after it. -/
lemma exists_append (hl : l.size ≤ maxWord) {a : Accumulator}
    (hstep : l.accumulator.append h leaf = .ok (a, events)) :
    (∀ e ∈ events, e.address.fits = true) ∧ a.size ≤ maxWord ∧ ∃ root, a.root h = .ok root := by
  obtain ⟨hleaf, hroom, hsize⟩ := Accumulator.of_append_eq_ok hstep
  have hfull : l.size < maxWord := lt_of_le_of_ne hl hroom
  have hevents := storable_append (h := h) hleaf hfull
  rw [Accumulator.append_eq hleaf hfull] at hstep
  obtain ⟨-, rfl⟩ := Prod.mk.inj (Except.ok.inj hstep)
  refine ⟨fun e he => (hevents e he).fits, hsize.trans_le hfull, ?_⟩
  exact Accumulator.exists_root (by omega)

/-- Appending in place is appending; if it fails, the ledger stays as it is. -/
theorem publish_eq (hl : l.size ≤ maxWord) :
    l.publish h leaf = match l.append h leaf with
      | .ok next => (next, .ok next.size)
      | .error cause => (l, .error cause) := by
  cases hstep : l.accumulator.append h leaf with
  | error cause =>
    obtain ⟨hpublish, happend⟩ := publish_of_error hstep
    rw [hpublish, happend]
  | ok result =>
    obtain ⟨a, events⟩ := result
    obtain ⟨hfits, -, root, hroot⟩ := exists_append hl hstep
    rw [append_eq hstep hfits hroot, publish, hstep]
    dsimp only
    rw [Store.record_of_fits _ hfits]
    cases hheads : l.recordsHeads with
    | true =>
      rw [hroot]
      rfl
    | false => rfl

/-- Appending to a ledger leaves events with keys only. -/
lemma tallied_publish (hl : l.size ≤ maxWord) (hstore : l.store.Tallied refused) (leaf : Bytes) :
    (l.publish h leaf).1.store.Tallied refused ∧ (l.publish h leaf).1.size ≤ maxWord := by
  cases hstep : l.accumulator.append h leaf with
  | error cause =>
    rw [(publish_of_error hstep).1]
    exact ⟨hstore, hl⟩
  | ok result =>
    obtain ⟨a, events⟩ := result
    obtain ⟨hfits, hsize, root, hroot⟩ := exists_append hl hstep
    rw [publish_eq hl, append_eq hstep hfits hroot]
    refine ⟨?_, hsize⟩
    dsimp only
    split
    · exact (hstore.extend hfits).recordHead _ _
    · exact hstore.extend hfits

/-- A ledger that goes on where the events of a store end has no more leaves than a log may have. -/
lemma size_le_of_ofStore {recordsHeads : Bool} (hl : ofStore s recordsHeads = .ok l) :
    l.size ≤ maxWord := by
  rw [ofStore, bind_eq_ok] at hl
  obtain ⟨kept, -, hl⟩ := hl
  obtain ⟨accumulator, haccumulator, hl⟩ := bind_eq_ok.1 hl
  obtain rfl := Except.ok.inj hl
  exact (Replay.agrees_of_accumulator haccumulator).2.2

end Ledger

namespace Session

variable {t : Session} {store : Store}

/-! ## Calls -/

/-- One for a call that fails to record the events that it is given, none for any other. -/
def refusal (t : Session) : Call → Nat
  | .record events =>
    match (t.store.record events).2 with
    | .ok _ => 0
    | .error _ => 1
  | _ => 0

/-- The number of calls that failed to record the events that they were given. -/
def refusals (h : Hash) (t : Session) : List Call → Nat
  | [] => 0
  | c :: calls => t.refusal c + (t.call h c).1.refusals h calls

/-- A session whose store is tallied and whose logs are no longer than logs may be. -/
structure Tallied (t : Session) (refused : Nat) : Prop where
  store : t.store.Tallied refused
  size_le : ∀ w ∈ t.writers, w.accumulator.size ≤ maxWord

lemma tallied_start (hstore : store.Coherent) : (start store).Tallied 0 where
  store := .of_coherent hstore
  size_le := nofun

/-- One call adds at most one event without a key, and that only if it fails to record. -/
lemma Tallied.call (ht : t.Tallied refused) (c : Call) :
    (t.call h c).1.Tallied (refused + t.refusal c) := by
  cases c with
  | record events => exact ⟨ht.store.record events, ht.size_le⟩
  | recordHead size root => exact ⟨ht.store.recordHead size root, ht.size_le⟩
  | openLog recordsHeads =>
    have hrefusal : t.refusal (.openLog recordsHeads) = 0 := rfl
    rw [hrefusal, Nat.add_zero, Session.call]
    cases hopen : Ledger.ofStore t.store recordsHeads with
    | error cause => exact ht
    | ok l =>
      refine ⟨ht.store, List.forall_mem_append.2 ⟨ht.size_le, ?_⟩⟩
      exact List.forall_mem_singleton.2 (Ledger.size_le_of_ofStore hopen)
  | append place leaf =>
    have hrefusal : t.refusal (.append place leaf) = 0 := rfl
    rw [hrefusal, Nat.add_zero, Session.call]
    cases hplace : t.writers[place]? with
    | none => exact ht
    | some w =>
      obtain ⟨hstore, hsize⟩ := Ledger.tallied_publish (h := h) (l := w.on t.store)
        (ht.size_le w (List.mem_of_getElem? hplace)) ht.store leaf
      refine ⟨hstore, fun w' hw' => ?_⟩
      rcases List.mem_or_eq_of_mem_set hw' with hw' | rfl
      · exact ht.size_le w' hw'
      · exact hsize

lemma Tallied.run (ht : t.Tallied refused) (calls : List Call) :
    (t.run h calls).Tallied (refused + t.refusals h calls) := by
  induction calls generalizing t refused with
  | nil => exact ht
  | cons c calls ih =>
    rw [refusals, ← Nat.add_assoc]
    exact ih (ht.call c)

/-! ## The list and the index -/

/-- After any calls on a new store or one that was loaded, whether they succeed or not, a listed
event whose address has a key is found, or a later one of the same address in its place; the size of
the store is the number of these addresses; and one event without a key is listed for every call
that failed to record.  So list and index tell the same exactly if no call did. -/
theorem list_and_index_of_run (h : Hash)
    (hstore : store = .empty ∨ ∃ name text, Store.load name text = .ok store) (calls : List Call) :
    let s := ((start store).run h calls).store
    let refused := (start store).refusals h calls
    (∀ e ∈ s.events.toList, ∀ key, e.address.encode = .ok key →
      ∃ last, s.events.toList.reverse.find? (fun e' => e'.address = e.address) = some last ∧
        s.lookup [e.address] = .ok [(e.address, last.hash)]) ∧
    s.size = ((s.events.toList.filter (·.address.fits)).map Event.address).toFinset.card ∧
    s.events.toList.countP (!·.address.fits) = refused ∧
    (refused = 0 ↔ ∀ e ∈ s.events.toList, ∃ key, e.address.encode = .ok key) ∧
    (refused = 0 ↔ s.size = (s.events.toList.map Event.address).toFinset.card) := by
  have hcoherent : store.Coherent := by
    rcases hstore with rfl | ⟨name, text, hload⟩
    · exact .empty
    · exact .of_sound (Store.sound_of_load hload)
  have htallied := ((tallied_start hcoherent).run (h := h) calls).store
  rw [Nat.zero_add] at htallied
  refine ⟨fun e he key hkey => ?_, htallied.size_eq, htallied.refused, ?_,
    htallied.eq_zero_iff_size_eq⟩
  · exact htallied.exists_lookup he (Address.encode_eq_ok.1 hkey).1
  · rw [htallied.eq_zero_iff]
    constructor
    · exact fun hfits e he => Address.encode_of_fits (hfits e he)
    · intro hkeys e he
      obtain ⟨key, hkey⟩ := hkeys e he
      exact (Address.encode_eq_ok.1 hkey).1

/-- An event whose address has a key, and one that is announced at a size beyond all logs. -/
def keyedAndNot : List Event :=
  [⟨0, 1, List.replicate digestSize 1⟩, ⟨0, 2 ^ 64 + 1, List.replicate digestSize 2⟩]

theorem list_and_index_of_run_keyedAndNot :
    let s := ((start .empty).run Sha256.hash [.record keyedAndNot]).store
    s.events.toList = keyedAndNot ∧ s.size = 1 ∧
      s.lookup [⟨0, 0⟩] = .ok [(⟨0, 0⟩, List.replicate digestSize 1)] := by
  obtain ⟨hlookup, hsize, -⟩ :=
    list_and_index_of_run Sha256.hash (Or.inl rfl) [.record keyedAndNot]
  obtain ⟨last, hlast, hfound⟩ := hlookup ⟨0, 1, List.replicate digestSize 1⟩ List.mem_cons_self
    (List.replicate 16 0) (by decide)
  have hfirst : keyedAndNot.reverse.find? (fun e => e.address = ⟨0, 0⟩)
      = some ⟨0, 1, List.replicate digestSize 1⟩ := by decide
  obtain rfl := Option.some.inj (hlast.symm.trans hfirst)
  refine ⟨rfl, hsize.trans ?_, hfound⟩
  have hkeyed : ((keyedAndNot.filter (·.address.fits)).map Event.address).toFinset.card = 1 := by
    decide
  exact hkeyed

/-- A listed event need not have a key, nor be counted. -/
theorem list_apart_from_index :
    let s := ((start .empty).run Sha256.hash [.record keyedAndNot]).store
    (∃ e ∈ s.events.toList, ∀ key, e.address.encode ≠ .ok key) ∧
      s.size ≠ (s.events.toList.map Event.address).toFinset.card := by
  constructor
  · refine ⟨⟨0, 2 ^ 64 + 1, List.replicate digestSize 2⟩, List.mem_of_getElem? (i := 1) rfl, ?_⟩
    intro key hkey
    have hfits : Address.fits ⟨0, 2 ^ 64⟩ = true := (Address.encode_eq_ok.1 hkey).1
    exact absurd hfits (by decide)
  · have htallied := (tallied_start .empty).run (h := Sha256.hash) [.record keyedAndNot]
    have hcards : ((keyedAndNot.filter (·.address.fits)).map Event.address).toFinset.card
        ≠ (keyedAndNot.map Event.address).toFinset.card := by decide
    rw [htallied.store.size_eq]
    exact hcards

end Session

end MerkleLog
