import MerkleLog.Error

/-!
# Keys of addresses

An address is stored under a key of sixteen bytes: its level and its leaf, eight bytes each, most
significant first.  So keys in byte order are addresses in order of level and then leaf.  A step to
the sibling or to the parent is checked as well: a level below zero is refused.  How many leaves of
a node a machine can count is left out.
-/

namespace MerkleLog

/-- The largest number that eight bytes hold; also the most leaves that a log may have. -/
def maxWord : Nat := 2 ^ (64 : Nat) - 1

namespace Address

/-- Whether level and leaf both fit in eight bytes. -/
def fits (a : Address) : Bool :=
  0 ≤ a.level && a.level ≤ maxWord && 0 ≤ a.leaf && a.leaf ≤ maxWord

/-- The key of an address. -/
def encode (a : Address) : Except Error Bytes :=
  if a.fits then .ok (Bytes.ofNat 8 a.level.toNat ++ Bytes.ofNat 8 a.leaf.toNat)
  else .error (.addressOutOfRange a)

/-- The address that a key belongs to. -/
def decode (key : Bytes) : Except Error Address :=
  if key.length = 16 then .ok ⟨Bytes.toNat (key.take 8), Bytes.toNat (key.drop 8)⟩
  else .error (.keySize key.length)

/-- The sibling of an address, refused at a level below zero. -/
def sibling? (a : Address) : Except Error Address :=
  if a.level < 0 then .error .negativeLevel else .ok a.sibling

/-- The parent of an address, refused at a level below zero. -/
def parent? (a : Address) : Except Error Address :=
  if a.level < 0 then .error .negativeLevel else .ok a.parent

/-- Whether one key comes before another or equals it, byte by byte from the front. -/
def keyLE (k l : Bytes) : Bool :=
  decide (k ≤ l)

/-- Addresses in the order of their keys. -/
def sortByKey (addresses : List Address) : Except Error (List Address) := do
  let keyed ← addresses.mapM fun a => return (← a.encode, a)
  return (keyed.mergeSort fun x y => keyLE x.1 y.1).map (·.2)

end Address

end MerkleLog
