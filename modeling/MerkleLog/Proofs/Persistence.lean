import MerkleLog.Ledger
import MerkleLog.Proofs.Document.Store

/-!
# Saved stores are loaded as they were

A store that came about by recording events and heads, by appending to a log or by loading a text
need not fit into a document: an event may lack a digest, a head may stand at no size.  Where it can
be saved at all, the saved text is loaded as the same store, under the name that it was saved under
and no other.
-/

namespace MerkleLog

variable {s s' : Store} {name text : String} {e : Event} {size : Int} {root : Bytes}

/-! ## What passed a check -/

namespace EventRecord

/-- Events that have a record are storable if their addresses have keys. -/
lemma storable_of_ofEvent {r : EventRecord} (hfits : e.address.fits = true)
    (hr : ofEvent e = .ok r) : e.Storable := by
  rw [ofEvent, check] at hr
  obtain ⟨-, hfields⟩ := Schema.record_eq_ok.1 hr
  obtain ⟨⟨level, size, hash⟩, hboth, -⟩ := bind_eq_ok.1 hfields
  obtain ⟨hlevel, hrest⟩ := Checked.both_eq_ok.1 hboth
  obtain ⟨-, hhash⟩ := Checked.both_eq_ok.1 hrest
  obtain ⟨v, hv, hlevel⟩ := Schema.required_eq_ok.1 hlevel
  obtain ⟨w, hw, hhash⟩ := Schema.required_eq_ok.1 hhash
  obtain rfl : Json.int e.level = v := Option.some.inj hv
  obtain rfl : Json.str (Text.Base64.encode e.hash) = w := Option.some.inj hw
  refine ⟨hfits, ?_, DigestText.isDigest_of_check hhash⟩
  rw [checkLevel, Schema.integer, ok_bind] at hlevel
  split at hlevel
  · cases hlevel
  · split at hlevel
    · omega
    · cases hlevel

end EventRecord

namespace HeadRecord

/-- Heads that have a record stand at a positive size. -/
lemma pos_of_ofHead {r : HeadRecord} (hr : ofHead size root = .ok r) :
    0 < size ∧ isDigest root = true ∧ (r.size : Int) = size := by
  rw [ofHead, check] at hr
  obtain ⟨-, hfields⟩ := Schema.record_eq_ok.1 hr
  obtain ⟨⟨n, digest⟩, hboth, hr⟩ := bind_eq_ok.1 hfields
  obtain rfl := Except.ok.inj hr
  obtain ⟨hsize, hroot⟩ := Checked.both_eq_ok.1 hboth
  obtain ⟨v, hv, hsize⟩ := Schema.required_eq_ok.1 hsize
  obtain ⟨w, hw, hroot⟩ := Schema.required_eq_ok.1 hroot
  obtain rfl : Json.int size = v := Option.some.inj hv
  obtain rfl : Json.str (Text.Base64.encode root) = w := Option.some.inj hw
  rw [EventRecord.checkSize, Schema.integer, ok_bind] at hsize
  split at hsize
  · rename_i hpos
    obtain rfl := Except.ok.inj hsize
    exact ⟨hpos, DigestText.isDigest_of_check hroot, Int.toNat_of_nonneg hpos.le⟩
  · cases hsize

end HeadRecord

/-! ## Stores that came about -/

namespace Store

/-- The stores that recording, appending and loading lead to, as long as nothing fails. -/
inductive Reached : Store → Prop
  | empty : Reached .empty
  | load {name text : String} {s : Store} (hload : load name text = .ok s) : Reached s
  | record {s s' : Store} {events : List Event} (hs : Reached s)
      (hrecord : s.record events = (s', .ok ())) : Reached s'
  | recordHead {s : Store} (hs : Reached s) (size : Int) (root : Bytes) :
      Reached (s.recordHead size root)
  | append {h : Hash} {l l' : Ledger} {leaf : Bytes} (hl : Reached l.store)
      (happend : l.append h leaf = .ok l') : Reached l'.store

/-- A store whose events all have keys and are indexed, with one head for a size. -/
structure Coherent (s : Store) : Prop where
  fits : ∀ e ∈ s.events.toList, e.address.fits = true
  nodes : s.nodes = index ∅ s.events.toList
  sorted : s.heads.Pairwise fun m n => m.1 < n.1

namespace Coherent

lemma empty : Coherent .empty where
  fits := nofun
  nodes := rfl
  sorted := List.Pairwise.nil

lemma of_sound (hs : s.Sound) : Coherent s where
  fits e he := (hs.events e he).fits
  nodes := hs.nodes
  sorted := hs.heads.sorted

lemma record {events : List Event} (hs : Coherent s) (hrecord : s.record events = (s', .ok ())) :
    Coherent s' := by
  have hfits : ∀ e ∈ events, e.address.fits = true :=
    fits_of_record (congrArg Prod.snd hrecord)
  rw [record_of_fits s hfits] at hrecord
  obtain ⟨rfl, -⟩ := Prod.mk.inj hrecord
  constructor
  · intro e he
    rw [extend, Array.toList_append, List.mem_append] at he
    rcases he with he | he
    · exact hs.fits e he
    · exact hfits e he
  · rw [extend, Array.toList_append, index_append, ← hs.nodes]
  · exact hs.sorted

lemma recordHead (hs : Coherent s) (size : Int) (root : Bytes) :
    Coherent (s.recordHead size root) where
  fits := hs.fits
  nodes := hs.nodes
  sorted := Heads.pairwise_insert hs.sorted size root

/-- An append records events, and then perhaps a head. -/
lemma append {h : Hash} {l l' : Ledger} {leaf : Bytes} (hl : Coherent l.store)
    (happend : l.append h leaf = .ok l') : Coherent l'.store := by
  rw [Ledger.append, bind_eq_ok] at happend
  obtain ⟨⟨accumulator, events⟩, -, happend⟩ := happend
  dsimp only at happend
  obtain ⟨⟨⟩, houtcome, happend⟩ := bind_eq_ok.1 happend
  have hstore : Coherent (l.store.record events).1 := hl.record (Prod.ext rfl houtcome)
  split at happend
  · obtain ⟨root, -, happend⟩ := bind_eq_ok.1 happend
    obtain rfl := Except.ok.inj happend
    exact hstore.recordHead accumulator.size root
  · obtain rfl := Except.ok.inj happend
    exact hstore

/-- A coherent store that can be saved can be held by a document. -/
lemma sound_of_save (hs : Coherent s) (hsave : s.save name = .ok text) : s.Sound := by
  obtain ⟨d, hd, hwide, -⟩ := save_eq_ok.1 hsave
  rw [toDocument, bind_eq_ok] at hd
  obtain ⟨events, hevents, hd⟩ := hd
  obtain ⟨heads, hheads, hd⟩ := bind_eq_ok.1 hd
  obtain rfl := Except.ok.inj hd
  have hhead : ∀ m ∈ s.heads, ∃ r ∈ heads, HeadRecord.ofHead m.1 m.2 = .ok r := by
    intro m hm
    obtain ⟨r, hr, hchecked⟩ := exists_of_mapM_eq_ok hheads m hm
    exact ⟨r, hr, Checked.orInvalid_eq_ok.1 hchecked⟩
  refine ⟨fun e he => ?_, hs.nodes, hs.sorted, fun m hm => ?_, fun m hm => ?_⟩
  · obtain ⟨r, -, hchecked⟩ := exists_of_mapM_eq_ok hevents e he
    exact EventRecord.storable_of_ofEvent (hs.fits e he) (Checked.orInvalid_eq_ok.1 hchecked)
  · obtain ⟨r, hr, hchecked⟩ := hhead m hm
    obtain ⟨hpos, -, hsize⟩ := HeadRecord.pos_of_ofHead hchecked
    rw [← hsize]
    exact ⟨hsize ▸ hpos, StoreDocument.isWritable_of_oversized? hwide r hr⟩
  · obtain ⟨r, -, hchecked⟩ := hhead m hm
    exact (HeadRecord.pos_of_ofHead hchecked).2.1

end Coherent

lemma Reached.coherent (hs : Reached s) : Coherent s := by
  induction hs with
  | empty => exact .empty
  | load hload => exact .of_sound (sound_of_load hload)
  | record _ hrecord ih => exact ih.record hrecord
  | recordHead _ size root ih => exact ih.recordHead size root
  | append _ happend ih => exact ih.append happend

/-- A text is not loaded under another name than its own. -/
lemma load_other {other : String} (hload : load name text = .ok s) (hother : other ≠ name) :
    load other text = .error (.wrongAlgorithm name other) := by
  obtain ⟨d, hd, hstore⟩ := load_eq_ok.1 hload
  obtain ⟨rfl, -⟩ := fits_of_ofDocument hstore
  have hchecked : (Checked.ofText (StoreDocument.check .text) text).orInvalid
      StoreDocument.recordName = .ok d := Checked.orInvalid_eq_ok.2 hd
  rw [load, hchecked, ok_bind, ofDocument, if_pos hother.symm, throw_eq_error, error_bind]

/-- A store that came about without failure and can be saved is loaded from its text with the same
events, the same heads and the same index, and saved again as the same text; under any other name
the text is refused. -/
theorem load_save_of_reached (hs : Reached s) (hsave : s.save name = .ok text) :
    (∃ loaded, load name text = .ok loaded ∧ loaded.events = s.events ∧
      loaded.heads = s.heads ∧ (∀ size, loaded.head? size = s.head? size) ∧
      (∀ addresses, loaded.lookup addresses = s.lookup addresses) ∧
      loaded.save name = .ok text) ∧
    ∀ other, other ≠ name → load other text = .error (.wrongAlgorithm name other) := by
  have hsound := hs.coherent.sound_of_save hsave
  obtain ⟨text', hsave', hload⟩ := load_save hsound name
  obtain rfl := Except.ok.inj (hsave'.symm.trans hsave)
  constructor
  · exact ⟨s, hload, rfl, rfl, fun _ => rfl, fun _ => rfl, hsave⟩
  · exact fun other hother => load_other hload hother

/-- A node that is announced twice, and a head that is recorded before a smaller one. -/
def rerecorded : Store :=
  let twice := empty.extend
    [⟨0, 1, List.replicate digestSize 1⟩, ⟨0, 1, List.replicate digestSize 2⟩]
  (twice.recordHead (2 ^ 70) (List.replicate digestSize 3)).recordHead 1
    (List.replicate digestSize 2)

lemma reached_rerecorded : Reached rerecorded := by
  have hfits : ∀ e ∈ [(⟨0, 1, List.replicate digestSize 1⟩ : Event),
      ⟨0, 1, List.replicate digestSize 2⟩], e.address.fits = true := by decide
  have hrecord := record_of_fits empty hfits
  exact .recordHead (.recordHead (.record .empty hrecord) _ _) _ _

lemma sound_rerecorded : rerecorded.Sound := by
  have hcoherent := reached_rerecorded.coherent
  have hevents : ∀ e ∈ rerecorded.events.toList, e.level < 64 ∧ isDigest e.hash = true := by decide
  refine ⟨fun e he => ?_, hcoherent.nodes, hcoherent.sorted, ?_, ?_⟩
  · exact ⟨hcoherent.fits e he, (hevents e he).1, (hevents e he).2⟩
  · have hwritable : ∀ m ∈ rerecorded.heads, 0 < m.1 ∧ Text.isWritable m.1 = true := by
      decide +kernel
    exact hwritable
  · have hroots : ∀ m ∈ rerecorded.heads, isDigest m.2 = true := by decide
    exact hroots

theorem load_save_of_reached_rerecorded :
    ∃ text loaded, Reached rerecorded ∧ rerecorded.save "sha256" = .ok text ∧
      load "sha256" text = .ok loaded ∧ loaded.heads.map (·.1) = [1, 2 ^ 70] ∧
      loaded.lookup [⟨0, 0⟩] = .ok [(⟨0, 0⟩, List.replicate digestSize 2)] ∧
      load "sha3_256" text = .error (.wrongAlgorithm "sha256" "sha3_256") := by
  obtain ⟨text, hsave, -⟩ := load_save sound_rerecorded "sha256"
  obtain ⟨⟨loaded, hload, -, hheads, -, hlookup, -⟩, hother⟩ :=
    load_save_of_reached reached_rerecorded hsave
  refine ⟨text, loaded, reached_rerecorded, hsave, hload, ?_, ?_, hother _ (by decide)⟩
  · rw [hheads]
    rfl
  · -- the later of the two announcements is found
    have hnode : rerecorded.nodes[(⟨0, 0⟩ : Address)]? = some (List.replicate digestSize 2) := by
      rw [sound_rerecorded.nodes, getElem?_index]
      rfl
    obtain ⟨key, hkey⟩ := Address.encode_of_fits (a := ⟨0, 0⟩) rfl
    rw [hlookup]
    simp [lookup, hkey, hnode]

end Store

end MerkleLog
