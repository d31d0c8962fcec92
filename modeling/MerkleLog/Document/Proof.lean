import MerkleLog.Document.Digest
import MerkleLog.Error
import MerkleLog.Proof

/-!
# Proof documents

The JSON form of an inclusion proof.
-/

namespace MerkleLog

/-- An inclusion proof with its digests in base64. -/
structure ProofDocument where
  root : DigestText
  leaf : DigestText
  index : Nat
  hashes : List DigestText

namespace ProofDocument

/-- The name of the record. -/
def recordName : String := "ProofDocument"

/-- The name of the field that holds the root. -/
def rootField : String := "root_hash_b64"

/-- The name of the field that holds the leaf. -/
def leafField : String := "leaf_hash_b64"

/-- The name of the field that holds the index of the leaf. -/
def indexField : String := "leaf_index"

/-- The name of the field that holds the path. -/
def hashesField : String := "proof_hashes_b64"

/-- An index: an integer that is not negative. -/
def checkIndex (v : Json) : Checked Nat := do
  let n ← Schema.integer v
  if n < 0 then Checked.fail v (.less 0) else .ok n.toNat

/-- The fields of a proof document.  The path may be absent, and is empty then. -/
def fields (source : Source) (document : Json) : Checked ProofDocument := do
  let (root, leaf, index, hashes) ←
    (Schema.required rootField DigestText.check document).both <|
    (Schema.required leafField DigestText.check document).both <|
    (Schema.required indexField checkIndex document).both <|
    Schema.optional hashesField [] (DigestText.checkList source) document
  return ⟨root, leaf, index, hashes⟩

/-- Check that a value is a proof document. -/
def check (source : Source) : Json → Checked ProofDocument :=
  Schema.record source recordName (fields source)

/-- A proof document as a JSON value. -/
def toJson (d : ProofDocument) : Json :=
  .obj [(rootField, d.root.toJson), (leafField, d.leaf.toJson), (indexField, .int d.index),
    (hashesField, .arr (d.hashes.map (·.toJson)))]

/-- The fields of a document for a proof, not checked. -/
def fieldsOf (p : Proof) : Json :=
  let digest (bs : Bytes) : Json := .str (Text.Base64.encode bs)
  .obj [(rootField, digest p.root), (leafField, digest p.leaf), (indexField, .int p.index),
    (hashesField, .arr (p.hashes.map digest))]

/-- The document of a proof. -/
def ofProof (p : Proof) : Checked ProofDocument :=
  check .value (fieldsOf p)

/-- The proof that a document stands for. -/
def toProof (d : ProofDocument) : Proof :=
  ⟨d.root.digest, d.leaf.digest, d.index, d.hashes.map (·.digest)⟩

/-- Whether a value is a proof document whose proof leads to its root. -/
def verify (h : Hash) (document : Json) : Bool :=
  match check .value document with
  | .ok d => d.toProof.verify h
  | .error _ => false

/-- Whether a field holds the given text; no text means that the field is absent or null. -/
def holds (document : Json) (name : String) (given : Option String) : Bool :=
  match document.member? name, given with
  | none, none => true
  | some .null, none => true
  | some (.str s), some t => s == t
  | _, _ => false

/-- Whether a value is a valid proof document for the given leaf under the given root.  Leaf and
root are compared as texts.  Only an object has fields to compare. -/
def verifyInclusion (h : Hash) (leaf root : Option String) : Json → Except Error Bool
  | .obj members =>
    let document := Json.obj members
    .ok (holds document leafField leaf && holds document rootField root && verify h document)
  | _ => .error .notObject

end ProofDocument

end MerkleLog
