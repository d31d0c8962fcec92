import MerkleLog.Document.Store
import MerkleLog.Proofs.Json.RoundTrip
import MerkleLog.Proofs.Schema.Check
import MerkleLog.Proofs.Store
import MerkleLog.Proofs.Text.Base64

/-!
# Records of a store document

What is written for an event, a head or a whole store passes its check as the record that it was
written for.  The other way round, a record that passed holds integers that may be written.
-/

namespace MerkleLog

variable {source : Source}

/-! ## Digests -/

namespace DigestText

lemma ofText_eq {text : String} {digest : Bytes}
    (hdecode : Text.Base64.decode? text = some digest) (hlength : digest.length = digestSize) :
    ofText text = .ok ⟨text, digest, hdecode, hlength⟩ := by
  unfold ofText
  split
  · rename_i hnone
    rw [hdecode] at hnone
    cases hnone
  · rename_i digest' hsome
    obtain rfl := Option.some.inj (hdecode.symm.trans hsome)
    rw [dif_pos hlength]

lemma check_str {text : String} {digest : Bytes} (hdecode : Text.Base64.decode? text = some digest)
    (hlength : digest.length = digestSize) :
    check (.str text) = .ok ⟨text, digest, hdecode, hlength⟩ := by
  rw [check, Schema.text, ok_bind, ofText_eq hdecode hlength]

lemma check_toJson (d : DigestText) : check d.toJson = .ok d :=
  check_str d.decode?_text d.length_digest

/-- The written form of a digest passes as the digest. -/
lemma exists_check {digest : Bytes} (hdigest : isDigest digest = true) :
    ∃ d : DigestText, check (.str (Text.Base64.encode digest)) = .ok d ∧ d.digest = digest :=
  ⟨_, check_str (Text.Base64.decode_encode digest) (isDigest_iff.1 hdigest), rfl⟩

lemma isDigest_digest (d : DigestText) : isDigest d.digest = true :=
  isDigest_iff.2 d.length_digest

lemma text_of_check {text : String} {d : DigestText} (hd : check (.str text) = .ok d) :
    d.text = text := by
  rw [check, Schema.text, ok_bind] at hd
  cases hread : ofText text with
  | error cause =>
    rw [hread] at hd
    cases hd
  | ok d' =>
    rw [hread] at hd
    obtain rfl := Except.ok.inj hd
    unfold ofText at hread
    split at hread
    · cases hread
    · split at hread
      · obtain rfl := Except.ok.inj hread
        rfl
      · cases hread

/-- The written form of a byte string passes only if that is a digest. -/
lemma isDigest_of_check {bs : Bytes} {d : DigestText}
    (hd : check (.str (Text.Base64.encode bs)) = .ok d) : isDigest bs = true := by
  have hdecode := d.decode?_text
  rw [text_of_check hd, Text.Base64.decode_encode, Option.some_inj] at hdecode
  rw [hdecode]
  exact d.isDigest_digest

end DigestText

/-! ## Events -/

/-- An event that a store document may hold. -/
structure Event.Storable (e : Event) : Prop where
  fits : e.address.fits = true
  level_lt : e.level < 64
  isDigest : MerkleLog.isDigest e.hash = true

namespace EventRecord

lemma checkLevel_int (level : Fin 64) : checkLevel (.int level.val) = .ok level := by
  rw [checkLevel, Schema.integer, ok_bind, if_neg (by omega), dif_pos (by omega)]
  simp

lemma checkSize_int {size : Nat} (hsize : 0 < size) :
    checkSize (.int size) = .ok ⟨size, hsize⟩ := by
  rw [checkSize, Schema.integer, ok_bind, dif_pos (by omega)]
  simp

lemma isWritable_of_checkSize {v : Json} {size : { n : Nat // 0 < n }} (hv : v.Writable)
    (hsize : checkSize v = .ok size) : Text.isWritable size.val = true := by
  rw [checkSize, bind_eq_ok] at hsize
  obtain ⟨n, hn, hsize⟩ := hsize
  have hwritable := Schema.isWritable_of_integer hv hn
  split at hsize
  · rename_i hpos
    obtain rfl := Except.ok.inj hsize
    have hcast : ((n.toNat : Nat) : Int) = n := Int.toNat_of_nonneg hpos.le
    exact hcast.symm ▸ hwritable
  · cases hsize

lemma check_obj (level : Fin 64) {size : Nat} {text : String} {hash : DigestText} (hsize : 0 < size)
    (hhash : DigestText.check (.str text) = .ok hash) :
    check source (.obj [("level", .int level.val), ("num_leaves_after", .int size),
      ("hash_b64", .str text)]) = .ok ⟨level, size, hash, hsize⟩ := by
  refine Schema.record_eq_ok.2 ⟨⟨_, rfl⟩, bind_eq_ok.2 ⟨(level, ⟨size, hsize⟩, hash), ?_, rfl⟩⟩
  exact Checked.both_eq_ok.2 ⟨Schema.required_eq_ok.2 ⟨_, rfl, checkLevel_int level⟩,
    Checked.both_eq_ok.2 ⟨Schema.required_eq_ok.2 ⟨_, rfl, checkSize_int hsize⟩,
      Schema.required_eq_ok.2 ⟨_, rfl, hhash⟩⟩⟩

lemma check_toJson (r : EventRecord) : check source r.toJson = .ok r :=
  check_obj r.level r.sizeAfter_pos r.hash.check_toJson

/-- A storable event has a record. -/
lemma exists_ofEvent {e : Event} (he : e.Storable) :
    ∃ r : EventRecord, ofEvent e = .ok r ∧ r.toEvent = e := by
  obtain ⟨level, size, digest⟩ := e
  obtain ⟨hfits, hlevel, hdigest⟩ := he
  rw [Event.address, Address.fits_iff] at hfits
  dsimp only at hfits hlevel hdigest
  obtain ⟨level, rfl⟩ := Int.eq_ofNat_of_zero_le hfits.1.1
  obtain ⟨size, rfl⟩ := Int.eq_ofNat_of_zero_le (by omega : 0 ≤ size)
  obtain ⟨hash, hhash, rfl⟩ := DigestText.exists_check hdigest
  have hlevel' : level < 64 := by exact_mod_cast hlevel
  have hsize : 0 < size := by omega
  exact ⟨⟨⟨level, hlevel'⟩, size, hash, hsize⟩, check_obj ⟨level, hlevel'⟩ hsize hhash, rfl⟩

/-- A record whose address has a key holds a storable event. -/
lemma storable_toEvent {r : EventRecord} (hr : r.toEvent.address.fits = true) :
    r.toEvent.Storable where
  fits := hr
  level_lt := by
    have := r.level.isLt
    simp only [toEvent]
    omega
  isDigest := r.hash.isDigest_digest

lemma plain_toJson {r : EventRecord} (hr : r.toEvent.address.fits = true) (depth : Nat) :
    Json.Plain (depth + 1) r.toJson := by
  rw [Event.address, Address.fits_iff] at hr
  simp only [toEvent, maxWord] at hr
  have hlevel : Text.isWritable (r.level.val : Int) = true := Text.isWritable_of_le (by omega)
  have hsize : Text.isWritable (r.sizeAfter : Int) = true := Text.isWritable_of_le (by omega)
  refine Json.Plain.obj (by simp) ?_
  simp only [List.forall_mem_cons, List.not_mem_nil, false_imp_iff, implies_true, and_true]
  exact ⟨.int _ hlevel, .int _ hsize, .str _ _⟩

end EventRecord

/-! ## Heads -/

namespace HeadRecord

lemma check_obj {size : Nat} {text : String} {root : DigestText} (hsize : 0 < size)
    (hroot : DigestText.check (.str text) = .ok root) :
    check source (.obj [("tree_size", .int size), ("root_hash_b64", .str text)])
      = .ok ⟨size, root, hsize⟩ := by
  refine Schema.record_eq_ok.2 ⟨⟨_, rfl⟩, bind_eq_ok.2 ⟨(⟨size, hsize⟩, root), ?_, rfl⟩⟩
  exact Checked.both_eq_ok.2
    ⟨Schema.required_eq_ok.2 ⟨_, rfl, EventRecord.checkSize_int hsize⟩,
      Schema.required_eq_ok.2 ⟨_, rfl, hroot⟩⟩

lemma check_toJson (r : HeadRecord) : check source r.toJson = .ok r :=
  check_obj r.size_pos r.root.check_toJson

/-- A root at a positive size has a record. -/
lemma exists_ofHead {size : Int} {root : Bytes} (hsize : 0 < size) (hroot : isDigest root = true) :
    ∃ r : HeadRecord, ofHead size root = .ok r ∧ (r.size : Int) = size ∧ r.root.digest = root := by
  obtain ⟨size, rfl⟩ := Int.eq_ofNat_of_zero_le hsize.le
  obtain ⟨text, htext, rfl⟩ := DigestText.exists_check hroot
  exact ⟨⟨size, text, by omega⟩, check_obj (by omega) htext, rfl, rfl⟩

lemma plain_toJson {r : HeadRecord} (hr : Text.isWritable r.size = true) (depth : Nat) :
    Json.Plain (depth + 1) r.toJson := by
  refine Json.Plain.obj (by simp) ?_
  simp only [List.forall_mem_cons, List.not_mem_nil, false_imp_iff, implies_true, and_true]
  exact ⟨.int _ hr, .str _ _⟩

/-- The size of a head that was read may be written. -/
lemma isWritable_of_check {v : Json} {r : HeadRecord} (hv : v.Writable)
    (hr : check source v = .ok r) : Text.isWritable r.size = true := by
  obtain ⟨-, hfields⟩ := Schema.record_eq_ok.1 hr
  obtain ⟨⟨size, root⟩, hboth, hr⟩ := bind_eq_ok.1 hfields
  obtain rfl := Except.ok.inj hr
  obtain ⟨hsize, -⟩ := Checked.both_eq_ok.1 hboth
  obtain ⟨w, hw, hcheck⟩ := Schema.required_eq_ok.1 hsize
  exact EventRecord.isWritable_of_checkSize (hv.member? hw) hcheck

end HeadRecord

/-! ## Documents -/

namespace StoreDocument

/-- A document whose events have keys and whose heads may be written. -/
structure Sound (d : StoreDocument) : Prop where
  events : ∀ r ∈ d.events, r.toEvent.address.fits = true
  heads : ∀ r ∈ d.heads, Text.isWritable r.size = true

lemma check_toJson (d : StoreDocument) : check source d.toJson = .ok d := by
  have hevents : Schema.list source (EventRecord.check source) (.arr (d.events.map (·.toJson)))
      = .ok d.events := Checked.items_map EventRecord.check_toJson 0 d.events
  have hheads : Schema.list source (HeadRecord.check source) (.arr (d.heads.map (·.toJson)))
      = .ok d.heads := Checked.items_map HeadRecord.check_toJson 0 d.heads
  refine Schema.record_eq_ok.2 ⟨⟨_, rfl⟩, bind_eq_ok.2 ⟨(d.algorithm, d.events, d.heads), ?_, rfl⟩⟩
  exact Checked.both_eq_ok.2 ⟨Schema.required_eq_ok.2 ⟨_, rfl, rfl⟩,
    Checked.both_eq_ok.2 ⟨Schema.optional_eq_ok.2 (Or.inl ⟨_, rfl, hevents⟩),
      Schema.optional_eq_ok.2 (Or.inl ⟨_, rfl, hheads⟩)⟩⟩

lemma plain_toJson {d : StoreDocument} (hd : d.Sound) (depth : Nat) :
    Json.Plain (depth + 3) d.toJson := by
  refine Json.Plain.obj (by simp) ?_
  simp only [List.forall_mem_cons, List.not_mem_nil, false_imp_iff, implies_true, and_true]
  refine ⟨.str _ _, .arr ?_, .arr ?_⟩
  · intro v hv
    obtain ⟨r, hr, rfl⟩ := List.mem_map.1 hv
    exact EventRecord.plain_toJson (hd.events r hr) depth
  · intro v hv
    obtain ⟨r, hr, rfl⟩ := List.mem_map.1 hv
    exact HeadRecord.plain_toJson (hd.heads r hr) depth

/-- A document that can be written has heads whose sizes may be written. -/
lemma isWritable_of_oversized? {d : StoreDocument} (hwide : d.toJson.oversized? = none) :
    ∀ r ∈ d.heads, Text.isWritable r.size = true := by
  intro r hr
  refine Json.oversized?_eq_none.1 hwide r.size ?_
  have hsize : (r.size : Int) ∈ r.toJson.integers := by
    simp [HeadRecord.toJson, Json.integers, Json.integersOfMembers]
  have hheads : (r.size : Int) ∈ Json.integers (.arr (d.heads.map (·.toJson))) := by
    rw [Json.integers, Json.mem_integersOfItems]
    exact ⟨r.toJson, List.mem_map_of_mem hr, hsize⟩
  rw [toJson, Json.integers, Json.mem_integersOfMembers]
  exact ⟨("heads", _), by simp, hheads⟩

/-- The text of a document reads as the document. -/
lemma ofText_indented {d : StoreDocument} (hd : d.Sound) :
    Checked.ofText (check .text) d.toJson.indented = .ok d := by
  rw [Checked.ofText, Json.parse_indented (plain_toJson hd 197)]
  exact check_toJson d

/-- The sizes of the heads of a document that was read may be written. -/
lemma isWritable_of_ofText {d : StoreDocument} {text : String}
    (hd : Checked.ofText (check .text) text = .ok d) :
    ∀ r ∈ d.heads, Text.isWritable r.size = true := by
  rw [Checked.ofText] at hd
  split at hd
  case h_2 => cases hd
  case h_1 v hparse =>
    have hv := Json.writable_of_parse hparse
    obtain ⟨-, hfields⟩ := Schema.record_eq_ok.1 hd
    obtain ⟨⟨algorithm, events, heads⟩, hboth, hd⟩ := bind_eq_ok.1 hfields
    obtain rfl := Except.ok.inj hd
    obtain ⟨-, hrest⟩ := Checked.both_eq_ok.1 hboth
    obtain ⟨-, hheads⟩ := Checked.both_eq_ok.1 hrest
    rcases Schema.optional_eq_ok.1 hheads with ⟨w, hw, hlist⟩ | ⟨-, rfl⟩
    · obtain ⟨items, rfl, hitems⟩ := Schema.list_eq_ok.1 hlist
      cases hv.member? hw with
      | arr hwritable =>
        intro r hr
        obtain ⟨v, hv, hcheck⟩ := Checked.exists_of_mem_items hitems hr
        exact HeadRecord.isWritable_of_check (hwritable v hv) hcheck
    · intro r hr
      cases hr

end StoreDocument

end MerkleLog
