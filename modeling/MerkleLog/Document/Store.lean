import MerkleLog.Document.Digest
import MerkleLog.Json.Printer
import MerkleLog.Json.Reader
import MerkleLog.Store

/-!
# Store documents

The JSON form of a node store: the name of the hash algorithm, the events in order, and the heads by
size.  The index of nodes is not written; it follows from the events.
-/

namespace MerkleLog

/-- A node event in a document. -/
structure EventRecord where
  level : Fin 64
  sizeAfter : Nat
  hash : DigestText
  sizeAfter_pos : 0 < sizeAfter

namespace EventRecord

/-- The name of the record. -/
def recordName : String := "NodeEventRecord"

/-- A level: an integer from zero to sixty-three. -/
def checkLevel (v : Json) : Checked (Fin 64) := do
  let n ← Schema.integer v
  if n < 0 then Checked.fail v (.less 0)
  else if h : n.toNat < 64 then .ok ⟨n.toNat, h⟩
  else Checked.fail v (.notLess 64)

/-- A size: a positive integer. -/
def checkSize (v : Json) : Checked { n : Nat // 0 < n } := do
  let n ← Schema.integer v
  if h : 0 < n then .ok ⟨n.toNat, by omega⟩ else Checked.fail v (.notGreater 0)

/-- Check that a value is an event. -/
def check (source : Source) : Json → Checked EventRecord :=
  Schema.record source recordName fun document => do
    let (level, size, hash) ←
      (Schema.required "level" checkLevel document).both <|
      (Schema.required "num_leaves_after" checkSize document).both <|
      Schema.required "hash_b64" DigestText.check document
    return ⟨level, size.val, hash, size.property⟩

/-- An event in a document as a JSON value. -/
def toJson (r : EventRecord) : Json :=
  .obj [("level", .int r.level.val), ("num_leaves_after", .int r.sizeAfter),
    ("hash_b64", r.hash.toJson)]

/-- The record of an event. -/
def ofEvent (e : Event) : Checked EventRecord :=
  check .value (.obj [("level", .int e.level), ("num_leaves_after", .int e.sizeAfter),
    ("hash_b64", .str (Text.Base64.encode e.hash))])

/-- The event of a record. -/
def toEvent (r : EventRecord) : Event :=
  ⟨r.level.val, r.sizeAfter, r.hash.digest⟩

end EventRecord

/-- The root of the log at a size, in a document. -/
structure HeadRecord where
  size : Nat
  root : DigestText
  size_pos : 0 < size

namespace HeadRecord

/-- The name of the record. -/
def recordName : String := "TreeHead"

/-- Check that a value is a head. -/
def check (source : Source) : Json → Checked HeadRecord :=
  Schema.record source recordName fun document => do
    let (size, root) ←
      (Schema.required "tree_size" EventRecord.checkSize document).both <|
      Schema.required "root_hash_b64" DigestText.check document
    return ⟨size.val, root, size.property⟩

/-- A head in a document as a JSON value. -/
def toJson (r : HeadRecord) : Json :=
  .obj [("tree_size", .int r.size), ("root_hash_b64", r.root.toJson)]

/-- The record of a head. -/
def ofHead (size : Int) (root : Bytes) : Checked HeadRecord :=
  check .value (.obj [("tree_size", .int size), ("root_hash_b64", .str (Text.Base64.encode root))])

end HeadRecord

/-- A saved store. -/
structure StoreDocument where
  algorithm : String
  events : List EventRecord
  heads : List HeadRecord

namespace StoreDocument

/-- The name of the record. -/
def recordName : String := "StoreDocument"

/-- Check that a value is a store document. -/
def check (source : Source) : Json → Checked StoreDocument :=
  Schema.record source recordName fun document => do
    let (algorithm, events, heads) ←
      (Schema.required "hash_algorithm" Schema.text document).both <|
      (Schema.optional "events" [] (Schema.list source (EventRecord.check source)) document).both <|
      Schema.optional "heads" [] (Schema.list source (HeadRecord.check source)) document
    return ⟨algorithm, events, heads⟩

/-- A store document as a JSON value. -/
def toJson (d : StoreDocument) : Json :=
  .obj [("hash_algorithm", .str d.algorithm), ("events", .arr (d.events.map (·.toJson))),
    ("heads", .arr (d.heads.map (·.toJson)))]

end StoreDocument

/-- A check that names the record at fault. -/
def Checked.orInvalid {α : Type} (record : String) : Checked α → Except Error α
  | .ok a => .ok a
  | .error faults => .error (.invalid record faults)

/-- Check that a text is JSON and holds a record. -/
def Checked.ofText {α : Type} (check : Json → Checked α) (text : String) : Checked α :=
  match Json.parse .strict text with
  | .ok v => check v
  | .error _ => Checked.fail (.str text) .notJson

namespace Store

/-- The document of a store under the name of an algorithm.  Fails where an event or a head does not
fit the schema. -/
def toDocument (algorithm : String) (s : Store) : Except Error StoreDocument := do
  let events ← s.events.toList.mapM fun e =>
    (EventRecord.ofEvent e).orInvalid EventRecord.recordName
  let heads ← s.heads.mapM fun (size, root) =>
    (HeadRecord.ofHead size root).orInvalid HeadRecord.recordName
  return ⟨algorithm, events, heads⟩

/-- The store of a document, which must have been written under the same algorithm. -/
def ofDocument (algorithm : String) (d : StoreDocument) : Except Error Store := do
  if d.algorithm ≠ algorithm then throw (.wrongAlgorithm d.algorithm algorithm)
  let (s, outcome) := Store.empty.record (d.events.map (·.toEvent))
  outcome
  return d.heads.foldl (fun s r => s.recordHead r.size r.root.digest) s

/-- The text of a store.  Fails where the document holds an integer of too many digits. -/
def save (algorithm : String) (s : Store) : Except Error String := do
  let v := (← s.toDocument algorithm).toJson
  match v.oversized? with
  | some n => throw (.unsafeInteger n)
  | none => return v.indented

/-- The store of a text. -/
def load (algorithm : String) (text : String) : Except Error Store := do
  let d ← (Checked.ofText (StoreDocument.check .text) text).orInvalid StoreDocument.recordName
  ofDocument algorithm d

end Store

end MerkleLog
