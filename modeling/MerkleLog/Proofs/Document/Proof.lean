import MerkleLog.Document.Proof
import MerkleLog.Proofs.Binding
import MerkleLog.Proofs.Document.Record
import MerkleLog.Proofs.Json.Canonical

/-!
# Proofs through canonical texts

The document of a proof is written as a canonical text if the index of the proof is a safe integer.
The text is read as the fields of the document, in another order, and these pass as a document of
the same proof.
-/

namespace MerkleLog

/-! ## Members in another order -/

namespace Json

variable {members members' : List (String × Json)} {name : String} {v : Json}

lemma lookup_eq_some_iff (hnames : (members.map (·.1)).Nodup) :
    members.lookup name = some v ↔ (name, v) ∈ members := by
  induction members with
  | nil => simp
  | cons m members ih =>
    obtain ⟨n, w⟩ := m
    rw [List.map_cons, List.nodup_cons] at hnames
    by_cases hname : name = n
    · -- the rest has no member of that name
      have hrest : (name, v) ∉ members := fun hmem =>
        hnames.1 (hname ▸ List.mem_map_of_mem (f := (·.1)) hmem)
      subst hname
      simp [hrest, eq_comm]
    · rw [List.lookup_cons, beq_false_of_ne hname, ih hnames.2]
      simp [hname]

/-- Members in another order have the same values. -/
lemma lookup_perm (hperm : members.Perm members') (hnames : (members.map (·.1)).Nodup)
    (name : String) : members.lookup name = members'.lookup name := by
  have hnames' := ((hperm.map (·.1)).nodup_iff).1 hnames
  refine Option.ext fun v => ?_
  rw [lookup_eq_some_iff hnames, lookup_eq_some_iff hnames', hperm.mem_iff]

end Json

/-! ## Lists of digests -/

namespace DigestText

variable {digests : List Bytes}

/-- The texts of digests are read as the digests, one by one. -/
lemma mapM_ofText (ds : List DigestText) : (ds.map (·.text)).mapM ofText = .ok ds := by
  induction ds with
  | nil => rfl
  | cons d ds ih =>
    rw [List.map_cons, List.mapM_cons, ofText_eq d.decode?_text d.length_digest, ok_bind, ih]
    rfl

lemma checkList_toJson (source : Source) (ds : List DigestText) :
    checkList source (.arr (ds.map (·.toJson))) = .ok ds := by
  have htexts : Schema.list source Schema.text (.arr (ds.map (·.toJson)))
      = .ok (ds.map (·.text)) := by
    have htext : ∀ s, Schema.text (.str s) = .ok s := fun _ => rfl
    have hitems := Checked.items_map htext 0 (ds.map (·.text))
    rw [List.map_map] at hitems
    exact hitems
  rw [checkList, htexts, ok_bind, mapM_ofText]

/-- Digests have written forms. -/
lemma exists_written (hdigests : ∀ d ∈ digests, isDigest d = true) :
    ∃ ds : List DigestText, ds.map (·.digest) = digests ∧
      ds.map (·.toJson) = digests.map fun d => .str (Text.Base64.encode d) := by
  induction digests with
  | nil => exact ⟨[], rfl, rfl⟩
  | cons d digests ih =>
    rw [List.forall_mem_cons] at hdigests
    obtain ⟨ds, hback, htexts⟩ := ih hdigests.2
    have hd := Text.Base64.decode_encode d
    have hlength := isDigest_iff.1 hdigests.1
    exact ⟨⟨_, d, hd, hlength⟩ :: ds, congrArg (d :: ·) hback,
      congrArg (Json.str (Text.Base64.encode d) :: ·) htexts⟩

end DigestText

/-! ## Documents -/

namespace Proof

/-- A proof of digests at an index that is not negative. -/
structure Presentable (p : Proof) : Prop where
  root : isDigest p.root = true
  leaf : isDigest p.leaf = true
  hashes : ∀ d ∈ p.hashes, isDigest d = true
  index : 0 ≤ p.index

end Proof

namespace ProofDocument

variable {p : Proof} {v : Json}

lemma checkIndex_int (n : Nat) : checkIndex (.int n) = .ok n := by
  rw [checkIndex, Schema.integer, ok_bind, if_neg (by omega), Int.toNat_natCast]

/-- An object with the fields of a document passes as the document. -/
lemma check_of_member? (source : Source) (d : ProofDocument) (hobj : ∃ members, v = .obj members)
    (hfields : ∀ name, v.member? name = d.toJson.member? name) : check source v = .ok d := by
  refine Schema.record_eq_ok.2
    ⟨hobj, bind_eq_ok.2 ⟨(d.root, d.leaf, d.index, d.hashes), ?_, rfl⟩⟩
  refine Checked.both_eq_ok.2 ⟨Schema.required_eq_ok.2 ⟨_, hfields _, d.root.check_toJson⟩, ?_⟩
  refine Checked.both_eq_ok.2 ⟨Schema.required_eq_ok.2 ⟨_, hfields _, d.leaf.check_toJson⟩, ?_⟩
  refine Checked.both_eq_ok.2 ⟨Schema.required_eq_ok.2 ⟨_, hfields _, checkIndex_int d.index⟩, ?_⟩
  exact Schema.optional_eq_ok.2
    (Or.inl ⟨_, hfields _, DigestText.checkList_toJson source d.hashes⟩)

lemma check_toJson (d : ProofDocument) (source : Source) : check source d.toJson = .ok d :=
  check_of_member? source d ⟨_, rfl⟩ fun _ => rfl

/-- An object with the fields of a proof passes as a document of it. -/
lemma exists_check (source : Source) (hp : p.Presentable) (hobj : ∃ members, v = .obj members)
    (hfields : ∀ name, v.member? name = (fieldsOf p).member? name) :
    ∃ doc, check source v = .ok doc ∧ doc.toProof = p ∧ doc.toJson = fieldsOf p := by
  obtain ⟨root, hroot, hroot'⟩ := DigestText.exists_check hp.root
  obtain ⟨leaf, hleaf, hleaf'⟩ := DigestText.exists_check hp.leaf
  obtain ⟨hashes, hdigests, htexts⟩ := DigestText.exists_written hp.hashes
  obtain ⟨index, hindex⟩ := Int.eq_ofNat_of_zero_le hp.index
  have hroottext := DigestText.text_of_check hroot
  have hleaftext := DigestText.text_of_check hleaf
  have hjson : toJson ⟨root, leaf, index, hashes⟩ = fieldsOf p := by
    rw [toJson, fieldsOf, DigestText.toJson, DigestText.toJson, hroottext, hleaftext, htexts,
      hindex]
  refine ⟨⟨root, leaf, index, hashes⟩, ?_, ?_, hjson⟩
  · exact check_of_member? source _ hobj fun name => by rw [hfields, hjson]
  · rw [toProof, hroot', hleaf', hdigests, ← hindex]

/-! ## Canonical texts -/

lemma integers_fieldsOf (p : Proof) : (fieldsOf p).integers = [p.index] := by
  have hhashes : Json.integersOfItems (p.hashes.map fun d => .str (Text.Base64.encode d)) = [] := by
    induction p.hashes with
    | nil => rfl
    | cons d hashes ih => rw [List.map_cons, Json.integersOfItems, ih, Json.integers]; rfl
  simp [fieldsOf, Json.integers, Json.integersOfMembers, hhashes]

lemma nodup_fieldsOf : [rootField, leafField, indexField, hashesField].Nodup := by decide

lemma whole_fieldsOf (p : Proof) : (fieldsOf p).Whole := by
  refine .obj ?_
  simp only [List.forall_mem_cons, List.not_mem_nil, false_imp_iff, implies_true, and_true]
  refine ⟨.str _, .str _, .int _, .arr fun v hv => ?_⟩
  obtain ⟨d, -, rfl⟩ := List.mem_map.1 hv
  exact .str _

lemma plain_fieldsOf (hindex : Text.isWritable p.index = true) :
    Json.Plain 2 (fieldsOf p) := by
  refine .obj nodup_fieldsOf ?_
  simp only [List.forall_mem_cons, List.not_mem_nil, false_imp_iff, implies_true, and_true]
  refine ⟨.str _ _, .str _ _, .int _ hindex, .arr fun v hv => ?_⟩
  obtain ⟨d, -, rfl⟩ := List.mem_map.1 hv
  exact .str _ _

/-- Nothing but the order of its members changes when a document is sorted. -/
lemma exists_sorted_fieldsOf (p : Proof) : ∃ fields members, fieldsOf p = .obj fields ∧
    (fieldsOf p).sorted = .obj members ∧ members.Perm fields ∧
      (fields.map (·.1)).Nodup := by
  have hhashes : (Json.arr (p.hashes.map fun d => .str (Text.Base64.encode d))).sorted
      = .arr (p.hashes.map fun d => .str (Text.Base64.encode d)) := by
    rw [Json.sorted, Json.sortedItems_eq_map, List.map_map]
    congr 1
  refine ⟨_, _, rfl, by rw [fieldsOf, Json.sorted], ?_, nodup_fieldsOf⟩
  refine (Json.perm_sortedMembers _).trans (List.Perm.of_eq ?_)
  simp only [List.map_cons, List.map_nil, hhashes]
  rfl

/-- A document at a safe index has a canonical text.  Any reader that admits an array in an object
reads it as the same members in another order; these pass as a document of the same proof. -/
lemma exists_text (h : Hash) (hp : p.Presentable) (hindex : p.index ≤ 2 ^ 53 - 1) :
    ∃ text, Json.canonical (fieldsOf p) = .ok text ∧
      ∀ d : Json.Dialect, 2 ≤ d.depth → ∃ fields members,
        fieldsOf p = .obj fields ∧ Json.parse d text = .ok (.obj members) ∧
        members.Perm fields ∧ (fields.map (·.1)).Nodup ∧
        (∃ doc, check .value (.obj members) = .ok doc ∧ doc.toProof = p) ∧
        verify h (.obj members) = p.verify h := by
  have hwritable : Text.isWritable p.index = true := Text.isWritable_of_le (by
    have := hp.index
    omega)
  have hsafe : ∀ n ∈ (fieldsOf p).integers, n.natAbs ≤ Json.maxSafe := by
    have := hp.index
    have hmax : Json.maxSafe = 2 ^ 53 - 1 := rfl
    rw [integers_fieldsOf, List.forall_mem_singleton, hmax]
    omega
  obtain ⟨text, htext⟩ := Json.exists_canonical (whole_fieldsOf p) hsafe
  refine ⟨text, htext, fun d hdepth => ?_⟩
  obtain ⟨fields, members, hfields, hsorted, hperm, hnames⟩ := exists_sorted_fieldsOf p
  have hparse := Json.parse_canonical (plain_fieldsOf hwritable) hdepth htext
  rw [hsorted] at hparse
  -- the check looks members up by name, so that their order does not matter
  have hlookup : ∀ name, (Json.obj members).member? name = (fieldsOf p).member? name := by
    intro name
    rw [hfields]
    exact (Json.lookup_perm hperm.symm hnames name).symm
  obtain ⟨doc, hdoc, hproof, -⟩ := exists_check .value hp ⟨members, rfl⟩ hlookup
  refine ⟨fields, members, hfields, hparse, hperm, hnames, ⟨doc, hdoc, hproof⟩, ?_⟩
  rw [verify, hdoc, ← hproof]

/-- A proof is carried by the canonical text of its document, unless its index is too large for
one.  The document of the proof passes its check.  If the index is a safe integer, the document has
a canonical text, which is read as the same members in another order, by any reader that admits an
array in an object; what is read passes as a document of the same proof, and is verified exactly if
the proof is.  Of an unsafe index only the refusal is told, not whether it can be worded: an index
of more than `Text.maxDigits` digits is too long to be named. -/
theorem canonical_carries (h : Hash) (hp : p.Presentable) :
    ∃ doc, ofProof p = .ok doc ∧ doc.toProof = p ∧ doc.toJson = fieldsOf p ∧
      (p.index ≤ 2 ^ 53 - 1 → ∃ text, Json.canonical doc.toJson = .ok text ∧
        ∀ d : Json.Dialect, 2 ≤ d.depth → ∃ fields members,
          doc.toJson = .obj fields ∧ Json.parse d text = .ok (.obj members) ∧
          members.Perm fields ∧ (fields.map (·.1)).Nodup ∧
          (∃ doc', check .value (.obj members) = .ok doc' ∧ doc'.toProof = p) ∧
          verify h (.obj members) = p.verify h) ∧
      (2 ^ 53 - 1 < p.index → Json.canonical doc.toJson = .error (.unsafeInteger p.index)) := by
  obtain ⟨doc, hdoc, hproof, hjson⟩ :=
    exists_check .value hp ⟨_, rfl⟩ fun name => rfl
  refine ⟨doc, hdoc, hproof, hjson, fun hindex => ?_, fun hindex => ?_⟩
  · rw [hjson]
    exact exists_text h hp hindex
  · have hmem : p.index ∈ (fieldsOf p).integers := by
      rw [integers_fieldsOf]
      exact List.mem_singleton_self _
    have hlarge : Json.maxSafe < p.index.natAbs := by
      have hmax : Json.maxSafe = 2 ^ 53 - 1 := rfl
      omega
    obtain ⟨m, hm, -, herror⟩ := Json.exists_refused (whole_fieldsOf p) hmem hlarge
    rw [integers_fieldsOf, List.mem_singleton] at hm
    rw [hjson, herror, hm]

lemma presentable_ofSecondLeaf : Proof.ofSecondLeaf.Presentable where
  root := by decide +kernel
  leaf := by decide
  hashes := by decide +kernel
  index := by decide

/-- The proof of the second of three leaves, read back by the reader of files. -/
theorem canonical_carries_ofSecondLeaf :
    ∃ doc text parsed, ofProof Proof.ofSecondLeaf = .ok doc ∧
      Json.canonical doc.toJson = .ok text ∧ Json.parse .lenient text = .ok parsed ∧
      verify Sha256.hash parsed = true := by
  obtain ⟨doc, hdoc, -, -, hsafe, -⟩ := canonical_carries Sha256.hash presentable_ofSecondLeaf
  obtain ⟨text, htext, hread⟩ := hsafe (by decide)
  obtain ⟨fields, members, -, hparse, -, -, -, hverify⟩ := hread .lenient (by decide)
  have hvalid : Proof.ofSecondLeaf.verify Sha256.hash = true :=
    Proof.verify_path Tree.isDigest_threeLeaves (by decide : 1 < Tree.threeLeaves.length)
  exact ⟨doc, text, .obj members, hdoc, htext, hparse, hverify.trans hvalid⟩

end ProofDocument

end MerkleLog
