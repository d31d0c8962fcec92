import MerkleLog.Hash.Sha256
import MerkleLog.Proofs.Document.Proof
import MerkleLog.Proofs.Text.Spelling

/-!
# Spellings of a proof document

A digest does not fill the last group of its base64 text, and two bits of the last symbol belong to
no byte.  Reading ignores them and a document keeps them, so that one digest has four texts and one
proof has documents that differ.  The document that is written for a proof is the one in which all
these bits are clear.
-/

namespace MerkleLog

/-! ## Digests -/

namespace DigestText

variable {d e : DigestText} {ds es : List DigestText} {digest : Bytes} {bits : Nat} {v : Json}

/-- The bits of the last symbol of the text that belong to no byte of the digest. -/
def spare (d : DigestText) : Nat := Text.Base64.lastValue d.text % 4

lemma open_of_length (hlength : digest.length = digestSize) :
    digest.length % 3 ≠ 0 ∧ Text.Base64.freedom digest.length = 4 := by
  rw [hlength]
  decide

/-- The spelling of a digest tells its spare bits, whatever they are. -/
lemma spare_spell (hlength : digest.length = digestSize) (hbits : bits < 4) :
    Text.Base64.lastValue (Text.Base64.spell bits digest) % 4 = bits := by
  obtain ⟨hopen, hfree⟩ := open_of_length hlength
  have hlast := Text.Base64.lastValue_spell hopen (hfree.symm ▸ hbits)
  rwa [hfree] at hlast

/-- A text is determined by its digest and its spare bits. -/
lemma text_eq_spell (d : DigestText) : d.text = Text.Base64.spell d.spare d.digest := by
  obtain ⟨hopen, hfree⟩ := open_of_length d.length_digest
  obtain ⟨bits, hbits, htext⟩ := (Text.Base64.decode?_eq_some_iff hopen).1 d.decode?_text
  rw [hfree] at hbits
  rw [spare, htext, spare_spell d.length_digest hbits]

lemma ext_iff_text : d = e ↔ d.text = e.text := by
  refine ⟨congrArg text, fun htext => ?_⟩
  have hdecode := d.decode?_text
  rw [htext, e.decode?_text, Option.some_inj] at hdecode
  cases d
  cases e
  cases htext
  cases hdecode
  rfl

lemma ext_iff_spare : d = e ↔ d.digest = e.digest ∧ d.spare = e.spare := by
  constructor
  · rintro rfl
    exact ⟨rfl, rfl⟩
  · rintro ⟨hdigest, hspare⟩
    rw [ext_iff_text, text_eq_spell, text_eq_spell, hdigest, hspare]

/-- Any spare bits may stand behind a digest. -/
lemma exists_spare (hlength : digest.length = digestSize) (hbits : bits < 4) :
    ∃ d : DigestText, d.digest = digest ∧ d.spare = bits := by
  obtain ⟨hopen, hfree⟩ := open_of_length hlength
  have hdecode : Text.Base64.decode? (Text.Base64.spell bits digest) = some digest :=
    (Text.Base64.decode?_eq_some_iff hopen).2 ⟨bits, hfree.symm ▸ hbits, rfl⟩
  exact ⟨⟨_, digest, hdecode, hlength⟩, rfl, spare_spell hlength hbits⟩

/-- What passes is the text itself. -/
lemma eq_toJson_of_check (hd : check v = .ok d) : v = d.toJson := by
  cases v with
  | str text => rw [toJson, text_of_check hd]
  | _ => cases hd

/-! ### Lists -/

lemma list_ext_iff_spare :
    ds = es ↔ ds.map (·.digest) = es.map (·.digest) ∧ ds.map spare = es.map spare := by
  induction ds generalizing es with
  | nil => cases es <;> simp
  | cons d ds ih =>
    cases es with
    | nil => simp
    | cons e es =>
      simp only [List.cons.injEq, List.map_cons, ih, ext_iff_spare]
      tauto

lemma list_exists_spare {spares : List Nat} (hlength : spares.length = ds.length)
    (hspares : ∀ s ∈ spares, s < 4) :
    ∃ es : List DigestText, es.map (·.digest) = ds.map (·.digest) ∧ es.map spare = spares := by
  induction ds generalizing spares with
  | nil =>
    obtain rfl := List.length_eq_zero_iff.1 hlength
    exact ⟨[], rfl, rfl⟩
  | cons d ds ih =>
    cases spares with
    | nil => cases hlength
    | cons s spares =>
      rw [List.forall_mem_cons] at hspares
      obtain ⟨es, hdigests, hes⟩ := ih (Nat.succ.inj hlength) hspares.2
      obtain ⟨e, hdigest, he⟩ := exists_spare d.length_digest hspares.1
      refine ⟨e :: es, ?_, ?_⟩
      · rw [List.map_cons, List.map_cons, hdigest, hdigests]
      · rw [List.map_cons, he, hes]

end DigestText

/-! ## Documents -/

namespace ProofDocument

variable {d e : ProofDocument} {v : Json}

/-- The digests of a document. -/
def digests (d : ProofDocument) : List DigestText := d.root :: d.leaf :: d.hashes

/-- The spare bits behind each of the digests. -/
def spares (d : ProofDocument) : List Nat := d.digests.map (·.spare)

lemma toProof_eq_iff : d.toProof = e.toProof ↔
    d.index = e.index ∧ d.digests.map (·.digest) = e.digests.map (·.digest) := by
  simp only [toProof, digests, Proof.mk.injEq, List.map_cons, List.cons.injEq, Int.natCast_inj]
  tauto

/-- A document is determined by its proof and its spare bits. -/
lemma ext_iff_spares : d = e ↔ d.toProof = e.toProof ∧ d.spares = e.spares := by
  have hdigests : d = e ↔ d.index = e.index ∧ d.digests = e.digests := by
    cases d
    cases e
    simp only [mk.injEq, digests, List.cons.injEq]
    tauto
  rw [hdigests, toProof_eq_iff, DigestText.list_ext_iff_spare, and_assoc]
  rfl

/-- Any spare bits may stand behind the digests of a proof. -/
lemma exists_spares (d : ProofDocument) {spares : List Nat}
    (hlength : spares.length = d.digests.length) (hspares : ∀ s ∈ spares, s < 4) :
    ∃ e : ProofDocument, e.toProof = d.toProof ∧ e.spares = spares := by
  obtain ⟨es, hdigests, hes⟩ := DigestText.list_exists_spare hlength hspares
  match es with
  | [] | [_] => simp [digests] at hdigests
  | root :: leaf :: hashes =>
    exact ⟨⟨root, leaf, d.index, hashes⟩, toProof_eq_iff.2 ⟨rfl, hdigests⟩, hes⟩

lemma toJson_inj : d.toJson = e.toJson ↔ d = e := by
  refine ⟨fun hjson => ?_, congrArg toJson⟩
  have hcheck := d.check_toJson .value
  rw [hjson, e.check_toJson] at hcheck
  exact (Except.ok.inj hcheck).symm

/-- The document that is written for a proof is the one without a spare bit. -/
lemma ofProof_toProof (hclear : ∀ t ∈ d.digests, t.spare = 0) : ofProof d.toProof = .ok d := by
  have htext : ∀ t ∈ d.digests, t.toJson = .str (Text.Base64.encode t.digest) := by
    intro t ht
    rw [DigestText.toJson, t.text_eq_spell, hclear t ht, Text.Base64.encode_eq_spell]
  simp only [digests, List.forall_mem_cons] at htext
  obtain ⟨hroot, hleaf, hhashes⟩ := htext
  have hpath : d.hashes.map (·.toJson)
      = (d.hashes.map (·.digest)).map fun bs => Json.str (Text.Base64.encode bs) := by
    rw [List.map_map]
    exact List.map_congr_left hhashes
  have hfields : fieldsOf d.toProof = d.toJson := by
    rw [toJson, hroot, hleaf, hpath]
    rfl
  rw [ofProof, hfields, check_toJson]

lemma clear_iff : (∀ t ∈ d.digests, t.spare = 0) ↔
    d.spares = List.replicate d.digests.length 0 := by
  rw [spares, List.eq_replicate_iff, List.length_map, List.forall_mem_map]
  exact ⟨fun hclear => ⟨rfl, hclear⟩, fun hclear => hclear.2⟩

/-- Documents of one proof have equally many digests. -/
lemma length_digests (hproof : e.toProof = d.toProof) : e.digests.length = d.digests.length := by
  have hlength := congrArg List.length (toProof_eq_iff.1 hproof).2
  rwa [List.length_map, List.length_map] at hlength

/-- The document that is written for the proof of a document. -/
lemma exists_ofProof (d : ProofDocument) : ∃ e, ofProof d.toProof = .ok e ∧
    e.toProof = d.toProof ∧ ∀ t ∈ e.digests, t.spare = 0 := by
  have hspares : ∀ s ∈ List.replicate d.digests.length 0, s < 4 := by
    intro s hs
    rw [List.eq_of_mem_replicate hs]
    decide
  obtain ⟨e, hproof, he⟩ := d.exists_spares List.length_replicate hspares
  rw [← length_digests hproof] at he
  have hclear := clear_iff.2 he
  exact ⟨e, hproof ▸ ofProof_toProof hclear, hproof, hclear⟩

/-- What passes holds the texts of the document. -/
lemma member?_of_check {source : Source} (hd : check source v = .ok d) :
    (∃ members, v = .obj members) ∧ v.member? rootField = some d.root.toJson ∧
      v.member? leafField = some d.leaf.toJson := by
  obtain ⟨hobj, hfields⟩ := Schema.record_eq_ok.1 hd
  obtain ⟨⟨root, leaf, index, hashes⟩, hboth, hd⟩ := bind_eq_ok.1 hfields
  obtain rfl := Except.ok.inj hd
  obtain ⟨hroot, hrest⟩ := Checked.both_eq_ok.1 hboth
  obtain ⟨hleaf, -⟩ := Checked.both_eq_ok.1 hrest
  obtain ⟨r, hr, hroot⟩ := Schema.required_eq_ok.1 hroot
  obtain ⟨l, hl, hleaf⟩ := Schema.required_eq_ok.1 hleaf
  rw [hr, hl, DigestText.eq_toJson_of_check hroot, DigestText.eq_toJson_of_check hleaf]
  exact ⟨hobj, rfl, rfl⟩

/-- Leaf and root are compared with their spare bits. -/
lemma verifyInclusion_of_check (h : Hash) (hd : check .value v = .ok d) (leaf root : DigestText) :
    verifyInclusion h (some leaf.text) (some root.text) v
      = .ok (decide ((d.leaf.digest = leaf.digest ∧ d.leaf.spare = leaf.spare) ∧
          d.root.digest = root.digest ∧ d.root.spare = root.spare) && d.toProof.verify h) := by
  obtain ⟨⟨members, rfl⟩, hroot, hleaf⟩ := member?_of_check hd
  have hverify : verify h (.obj members) = d.toProof.verify h := by rw [verify, hd]
  have hsame : ∀ t u : DigestText,
      (t.text == u.text) = decide (t.digest = u.digest ∧ t.spare = u.spare) := fun t u => by
    rw [Bool.eq_iff_iff, beq_iff_eq, decide_eq_true_iff, ← DigestText.ext_iff_text,
      DigestText.ext_iff_spare]
  simp only [verifyInclusion, holds, hroot, hleaf, DigestText.toJson, hsame, hverify,
    Bool.decide_and]

/-- How far a document that passes is determined by its proof.  The document that is written for the
proof stands for the same proof and has no spare bit; it is the document that passed exactly if that
has none either.  The documents of the proof differ in their spare bits, and any spare bits occur.
Leaf and root are compared as digests only between texts with the same spare bits. -/
theorem spellings_of_check (h : Hash) (hd : check .value v = .ok d) :
    (∃ e, ofProof d.toProof = .ok e ∧ e.toProof = d.toProof ∧ (∀ t ∈ e.digests, t.spare = 0) ∧
      (e.toJson = d.toJson ↔ ∀ t ∈ d.digests, t.spare = 0)) ∧
    (∀ w e, check .value w = .ok e → e.toProof = d.toProof → (e = d ↔ e.spares = d.spares)) ∧
    (∀ spares : List Nat, spares.length = d.digests.length → (∀ s ∈ spares, s < 4) →
      ∃ w e, check .value w = .ok e ∧ e.toProof = d.toProof ∧ e.spares = spares) ∧
    ∀ leaf root : DigestText, verifyInclusion h (some leaf.text) (some root.text) v
      = .ok (decide ((d.leaf.digest = leaf.digest ∧ d.leaf.spare = leaf.spare) ∧
          d.root.digest = root.digest ∧ d.root.spare = root.spare) && d.toProof.verify h) := by
  refine ⟨?_, ?_, ?_, verifyInclusion_of_check h hd⟩
  · obtain ⟨e, he, hproof, hclear⟩ := d.exists_ofProof
    refine ⟨e, he, hproof, hclear, ?_⟩
    rw [toJson_inj, ext_iff_spares, clear_iff, clear_iff.1 hclear, length_digests hproof]
    exact ⟨fun hsame => hsame.2.symm, fun hsame => ⟨hproof, hsame.symm⟩⟩
  · intro w e _ hproof
    rw [ext_iff_spares]
    exact ⟨fun hsame => hsame.2, fun hsame => ⟨hproof, hsame⟩⟩
  · intro spares hlength hspares
    obtain ⟨e, hproof, he⟩ := d.exists_spares hlength hspares
    exact ⟨e.toJson, e, e.check_toJson .value, hproof, he⟩

/-- The digest of zeros as it is written. -/
def zeroText : DigestText :=
  ⟨"AAAAAAAAAAAAAAAAAAAAAAAAAAAAAAAAAAAAAAAAAAA=", zeroDigest, by decide +kernel, rfl⟩

/-- The digest of zeros with a spare bit. -/
def zeroTextSpare : DigestText :=
  ⟨"AAAAAAAAAAAAAAAAAAAAAAAAAAAAAAAAAAAAAAAAAAB=", zeroDigest, by decide +kernel, rfl⟩

/-- A document of the tree whose only leaf is the digest of zeros. -/
def respelled : ProofDocument := ⟨zeroText, zeroTextSpare, 0, []⟩

/-- There are sixteen documents of the proof, and the one that is written for it is another. -/
theorem spellings_of_check_respelled :
    check .value respelled.toJson = .ok respelled ∧
    (∃ e, ofProof respelled.toProof = .ok e ∧ e.toProof = respelled.toProof ∧
      e.toJson ≠ respelled.toJson) ∧
    ∀ first < 4, ∀ second < 4, ∃ w e, check .value w = .ok e ∧
      e.toProof = respelled.toProof ∧ e.spares = [first, second] := by
  have hd := respelled.check_toJson .value
  obtain ⟨⟨e, he, hproof, -, hsame⟩, -, hall, -⟩ := spellings_of_check Sha256.hash hd
  refine ⟨hd, ⟨e, he, hproof, fun hjson => ?_⟩, fun first hfirst second hsecond => ?_⟩
  · have hspare := hsame.1 hjson zeroTextSpare (by simp [digests, respelled])
    exact absurd hspare (by decide +kernel)
  · exact hall [first, second] rfl (by simp [hfirst, hsecond])

/-- A proof document passes and is valid, but is not written back as it is, and it does not prove
the digest of its leaf in the spelling that is written for it. -/
theorem not_canonical_respelled : ∃ plain,
    check .value respelled.toJson = .ok respelled ∧ verify Sha256.hash respelled.toJson = true ∧
    ofProof respelled.toProof = .ok plain ∧ plain.toProof = respelled.toProof ∧
    plain.toJson ≠ respelled.toJson ∧
    verifyInclusion Sha256.hash (some plain.leaf.text) (some plain.root.text) respelled.toJson
      = .ok false := by
  refine ⟨⟨zeroText, zeroText, 0, []⟩, respelled.check_toJson .value, ?_, ?_, rfl, ?_, ?_⟩
  · rw [verify, respelled.check_toJson]
    decide +kernel
  · have hclear : ∀ t ∈ digests ⟨zeroText, zeroText, 0, []⟩, t.spare = 0 := by decide +kernel
    exact ofProof_toProof hclear
  · rw [ne_eq, toJson_inj]
    intro hsame
    exact absurd (congrArg (·.leaf.text) hsame) (by decide)
  · rw [verifyInclusion_of_check Sha256.hash (respelled.check_toJson .value)]
    decide +kernel

end ProofDocument

end MerkleLog
