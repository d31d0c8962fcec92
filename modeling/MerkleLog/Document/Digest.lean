import MerkleLog.Hash
import MerkleLog.Schema.Check
import MerkleLog.Text.Base64

/-!
# Digests in documents

A document writes digests in base64 and keeps the text as it was given.
-/

namespace MerkleLog

/-- A base64 text together with the digest that it stands for. -/
structure DigestText where
  text : String
  digest : Bytes
  /-- The text reads as the digest. -/
  decode?_text : Text.Base64.decode? text = some digest
  /-- The digest has the size of one. -/
  length_digest : digest.length = digestSize

namespace DigestText

/-- A text that is to stand for a digest. -/
def ofText (text : String) : Except Cause DigestText :=
  match decode : Text.Base64.decode? text with
  | none => .error .notBase64
  | some digest =>
    if size : digest.length = digestSize then .ok ⟨text, digest, decode, size⟩
    else .error .notDigest

/-- The check of a field that holds a digest. -/
def check (v : Json) : Checked DigestText := do
  let text ← Schema.text v
  match ofText text with
  | .ok d => .ok d
  | .error cause => Checked.fail v cause

/-- The check of a field that holds a list of digests.  Every item must be a text; of the texts,
only the first that stands for no digest is told, as a fault of the list. -/
def checkList (source : Source) (v : Json) : Checked (List DigestText) := do
  let texts ← Schema.list source Schema.text v
  match texts.mapM ofText with
  | .ok ds => .ok ds
  | .error cause => Checked.fail v cause

/-- A digest text as a JSON value. -/
def toJson (d : DigestText) : Json := .str d.text

end DigestText

end MerkleLog
