import MerkleLog.Address
import MerkleLog.Bytes
import MerkleLog.Schema.Fault
import MerkleLog.Text.Numeral

/-!
# What can go wrong

Every failure of the library is one constructor of `Error`, which carries the values that the
failure is about.  `Error.wording` is the only place that words them.
-/

namespace MerkleLog

/-- The number of bits of a number: zero for zero. -/
def bitLength (n : Nat) : Nat :=
  if n = 0 then 0 else Nat.log2 n + 1

/-- The causes of failure. -/
inductive Error where
  /-- A leaf to append is not a digest. -/
  | leafNotDigest
  /-- The log holds as many leaves as it may. -/
  | full (size : Nat)
  /-- A root was asked of an empty log. -/
  | noRoot
  /-- A proof was asked of an empty log. -/
  | noProof
  /-- A partial that is present is not a digest. -/
  | partialNotDigest (level : Nat)
  /-- The highest partial is absent. -/
  | topAbsent (slot size : Nat)
  /-- The partials stand for more leaves than a log may hold. -/
  | sizeOutOfRange (size : Nat)
  /-- The event kept for a level reports another level. -/
  | wrongLevel (level : Nat) (reported : Int)
  /-- The event of a level reports a size at which no node of the level is completed. -/
  | wrongSize (level : Nat) (size : Int)
  /-- The event of a level carries no digest. -/
  | eventNotDigest (level : Nat)
  /-- The surviving events do not add up to the newest size. -/
  | sizesDisagree (total : Nat) (newest : Int)
  /-- An event with a negative level further down than there are levels. -/
  | noSuchLevel (level : Int)
  /-- A level or a leaf does not fit in eight bytes. -/
  | addressOutOfRange (address : Address)
  /-- A key does not have sixteen bytes. -/
  | keySize (size : Nat)
  /-- The sibling or the parent of an address with a negative level. -/
  | negativeLevel
  /-- A leaf that a tree of the given size does not have. -/
  | leafOutside (leaf size : Int)
  /-- The root to prove against is not a digest. -/
  | rootNotDigest
  /-- What was found for an address is not a digest. -/
  | malformedNode (address : Address)
  /-- The digest of a frontier node is not known. -/
  | frontierUnknown (address : Address)
  /-- A partial that the frontier rests on was not found. -/
  | partialMissing (address : Address)
  /-- A node of the path was not found. -/
  | nodeMissing (address : Address)
  /-- The frontier leads to another root than the expected one. -/
  | rootMismatch (expected computed : Bytes) (size : Nat)
  /-- A saved store was written under another hash algorithm. -/
  | wrongAlgorithm (written configured : String)
  /-- A text is not base64. -/
  | notBase64
  /-- An integer beyond those that the written form of JSON can hold. -/
  | unsafeInteger (value : Int)
  /-- A number that is not finite, which canonical JSON cannot hold. -/
  | notCanonical (number : String)
  /-- A value whose fields are asked for is no object. -/
  | notObject
  /-- A document does not fit the schema of the named record. -/
  | invalid (record : String) (faults : List Fault)
deriving DecidableEq

namespace Error

/-- Where an unresolved node is. -/
private def place (address : Address) : String :=
  let level := address.level
  let leaf := address.leaf
  s!" at level {level} leaf {leaf}"

/-- The integers that the wording of a failure holds. -/
def integers : Error → List Int
  | full size | sizeOutOfRange size | keySize size => [size]
  | partialNotDigest level | eventNotDigest level => [level]
  | topAbsent slot size => [slot, bitLength size]
  | wrongLevel level reported => [level, reported]
  | wrongSize level size => [level, size, (2 ^ level : Nat)]
  | sizesDisagree total newest => [total, newest]
  | noSuchLevel level => [level]
  | addressOutOfRange a | malformedNode a | frontierUnknown a | partialMissing a | nodeMissing a =>
    [a.level, a.leaf]
  | leafOutside leaf size => [leaf, size]
  | rootMismatch _ _ size => [size]
  | unsafeInteger value => [value]
  | leafNotDigest | noRoot | noProof | negativeLevel | rootNotDigest | wrongAlgorithm _ _
  | notBase64 | notCanonical _ | notObject | invalid _ _ => []

/-- Whether a failure can be worded: an integer of too many digits is not written out. -/
def isExpressible (e : Error) : Bool :=
  e.integers.all Text.isWritable

/-- What takes the place of the wording of a failure that cannot be worded. -/
def inexpressible : String :=
  "Exceeds the limit (4300 digits) for integer string conversion; " ++
  "use sys.set_int_max_str_digits() to increase the limit"

/-- The wording of a failure that can be worded. -/
def wording : Error → String
  | leafNotDigest => "leaf must be a 32-byte digest"
  | full size => s!"accumulator is full at size {size}"
  | noRoot => "root requested on an empty tree"
  | noProof => "proof requested on an empty tree"
  | partialNotDigest level => s!"partial at level {level} is not a 32-byte digest"
  | topAbsent slot size =>
    let levels := bitLength size
    s!"highest partial slot {slot} is empty; size implies {levels} levels"
  | sizeOutOfRange size => s!"partials imply size {size} beyond u64"
  | wrongLevel level reported => s!"level {level}: event reports level {reported}"
  | wrongSize level size =>
    let width : Nat := 2 ^ level
    s!"level {level}: num_leaves_after={size} cannot complete a node of {width} leaves"
  | eventNotDigest level => s!"level {level}: event hash is not a 32-byte digest"
  | sizesDisagree total newest =>
    s!"surviving partials sum to {total} leaves, newest event says {newest}"
  | noSuchLevel level => s!"no event at level {level}"
  | addressOutOfRange address =>
    let level := address.level
    let leaf := address.leaf
    s!"address out of u64 range: level={level} leaf={leaf}"
  | keySize size => s!"node key must be 16 bytes, got {size}"
  | negativeLevel => "negative shift count"
  | leafOutside leaf size => s!"leaf index {leaf} outside tree of size {size}"
  | rootNotDigest => "root hash must be a 32-byte digest"
  | malformedNode address => "lookup returned a malformed digest" ++ place address
  | frontierUnknown address => "frontier node unknown" ++ place address
  | partialMissing address => "partial not returned by lookup" ++ place address
  | nodeMissing address => "no digest for proof node" ++ place address
  | rootMismatch expected computed size =>
    let found := computed.toHex
    let wanted := expected.toHex
    s!"frontier walk for size {size} produced {found}, expected {wanted}"
  | wrongAlgorithm written configured =>
    s!"store was written with {written}, configured algorithm is {configured}"
  | notBase64 => "invalid base64"
  | unsafeInteger value => s!"{value} exceeds safe integer domain for JSON floats"
  | notCanonical number => number ++ " is not representable in JCS"
  | notObject => "the value has no fields"
  | invalid record faults => Fault.report record faults

/-- The wording of a failure. -/
def message (e : Error) : String :=
  if e.isExpressible then e.wording else inexpressible

variable {e : Error}

theorem isExpressible_iff :
    e.isExpressible = true ↔ ∀ n ∈ e.integers, Text.isWritable n = true := by
  rw [isExpressible, List.all_eq_true]

theorem message_of_not_expressible (he : e.isExpressible = false) :
    e.message = inexpressible := by
  rw [message, he, if_neg Bool.false_ne_true]

end Error

end MerkleLog
