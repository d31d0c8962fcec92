import MerkleLog.Hash

/-!
# SHA3-256

The sponge over the Keccak permutation of twenty-five lanes of sixty-four bits, with a rate of 136
bytes.  Lane `x + 5 y` stands in column `x` of plane `y`.  The digest is the first four lanes.
-/

namespace MerkleLog.Sha3

/-- Twenty-five lanes. -/
abbrev State := Vector UInt64 25

/-- The lane in column `x` of plane `y`, both taken modulo five. -/
def State.lane (s : State) (x y : Nat) : UInt64 :=
  s.get ⟨x % 5 + 5 * (y % 5), by omega⟩

/-- A state given lane by lane, from column and plane. -/
def State.build (f : Nat → Nat → UInt64) : State :=
  Vector.ofFn fun i => f (i.val % 5) (i.val / 5)

/-- Rotation to the left. -/
def rotateLeft (w : UInt64) (k : UInt64) : UInt64 :=
  if k = 0 then w else (w <<< k) ||| (w >>> (64 - k))

/-- Rotation amounts of the lanes, plane after plane. -/
def rotations : Vector UInt64 25 :=
  #v[0, 1, 62, 28, 27, 36, 44, 6, 55, 20, 3, 10, 43, 25, 39, 41, 45, 15, 21, 8, 18, 2, 61, 56, 14]

/-- The constants added to the first lane, one a round. -/
def roundConstants : List UInt64 :=
  [0x0000000000000001, 0x0000000000008082, 0x800000000000808a, 0x8000000080008000,
   0x000000000000808b, 0x0000000080000001, 0x8000000080008081, 0x8000000000008009,
   0x000000000000008a, 0x0000000000000088, 0x0000000080008009, 0x000000008000000a,
   0x000000008000808b, 0x800000000000008b, 0x8000000000008089, 0x8000000000008003,
   0x8000000000008002, 0x8000000000000080, 0x000000000000800a, 0x800000008000000a,
   0x8000000080008081, 0x8000000000008080, 0x0000000080000001, 0x8000000080008008]

/-- Add to every lane the parities of the two neighbouring columns. -/
def theta (s : State) : State :=
  let parity : Vector UInt64 5 := Vector.ofFn fun x =>
    s.lane x 0 ^^^ s.lane x 1 ^^^ s.lane x 2 ^^^ s.lane x 3 ^^^ s.lane x 4
  let effect : Vector UInt64 5 := Vector.ofFn fun x =>
    let before := parity.get ⟨(x.val + 4) % 5, by omega⟩
    let after := parity.get ⟨(x.val + 1) % 5, by omega⟩
    before ^^^ rotateLeft after 1
  State.build fun x y => s.lane x y ^^^ effect.get ⟨x % 5, by omega⟩

/-- Rotate every lane by its amount and move the lanes to their new places. -/
def rhoPi (s : State) : State :=
  let rotated : State := Vector.zipWith rotateLeft s rotations
  State.build fun x y => rotated.lane (x + 3 * y) x

/-- Combine every lane with the two lanes to its right in the plane. -/
def chi (s : State) : State :=
  State.build fun x y => s.lane x y ^^^ (~~~(s.lane (x + 1) y) &&& s.lane (x + 2) y)

/-- One round of the permutation. -/
def round (s : State) (constant : UInt64) : State :=
  let s := chi (rhoPi (theta s))
  s.set 0 (s[0] ^^^ constant)

/-- The permutation: twenty-four rounds. -/
def permute (s : State) : State :=
  roundConstants.foldl round s

/-- The little-endian lanes of a byte string; bytes that fill no lane are left out. -/
def lanesOf : Bytes → List UInt64
  | b₀ :: b₁ :: b₂ :: b₃ :: b₄ :: b₅ :: b₆ :: b₇ :: rest =>
    (b₀.toUInt64 ||| (b₁.toUInt64 <<< 8) ||| (b₂.toUInt64 <<< 16) ||| (b₃.toUInt64 <<< 24)
      ||| (b₄.toUInt64 <<< 32) ||| (b₅.toUInt64 <<< 40) ||| (b₆.toUInt64 <<< 48)
      ||| (b₇.toUInt64 <<< 56)) :: lanesOf rest
  | _ => []

/-- The eight bytes of a lane, least significant first. -/
def bytesOf (w : UInt64) : Bytes :=
  [w.toUInt8, (w >>> 8).toUInt8, (w >>> 16).toUInt8, (w >>> 24).toUInt8,
   (w >>> 32).toUInt8, (w >>> 40).toUInt8, (w >>> 48).toUInt8, (w >>> 56).toUInt8]

/-- The rate: the bytes of a block. -/
def rate : Nat := 136

/-- Add a block to the front of the state and permute. -/
def absorbBlock (s : State) (block : Bytes) : State :=
  let lanes := (lanesOf block).toArray
  permute (Vector.ofFn fun i => s[i] ^^^ lanes.getD i.val 0)

/-- Absorb a number of blocks from the front of a byte string. -/
def absorb : Nat → Bytes → State → State
  | 0, _, s => s
  | count + 1, bs, s => absorb count (bs.drop rate) (absorbBlock s (bs.take rate))

/-- The padding that completes the last block: the bits `01`, a one, zeros and a last one. -/
def padding (size : Nat) : Bytes :=
  match rate - size % rate with
  | 0 | 1 => [0x86]
  | zeros + 2 => 0x06 :: List.replicate zeros 0 ++ [0x80]

/-- The digest of a message. -/
def digest (message : Bytes) : Bytes :=
  let padded := message ++ padding message.length
  let s := absorb (padded.length / rate) padded (Vector.replicate 25 0)
  [s[0], s[1], s[2], s[3]].flatMap bytesOf

/-- SHA3-256 as a hash function. -/
def hash : Hash where
  digest := digest
  length_digest := fun _ => rfl

end MerkleLog.Sha3
