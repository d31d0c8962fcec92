import MerkleLog.Hash

/-!
# BLAKE2s

The unkeyed BLAKE2s hash with digests of thirty-two bytes: eight chaining words of thirty-two bits,
blocks of sixty-four bytes, ten rounds of eight mixings a block.
-/

namespace MerkleLog.Blake2s

/-- The chaining value. -/
abbrev Chain := Vector UInt32 8

/-- The sixteen working words of a compression. -/
abbrev Work := Vector UInt32 16

/-- The initial words. -/
def initial : Chain :=
  #v[0x6a09e667, 0xbb67ae85, 0x3c6ef372, 0xa54ff53a, 0x510e527f, 0x9b05688c, 0x1f83d9ab, 0x5be0cd19]

/-- The chaining value before the first block: the initial words with the parameters (a digest of
thirty-two bytes, no key, fanout one, depth one) added to the first. -/
def start : Chain :=
  initial.set 0 (initial[0] ^^^ 0x01010020)

/-- Rotation to the right. -/
def rotateRight (x : UInt32) (k : UInt32) : UInt32 :=
  (x >>> k) ||| (x <<< (32 - k))

/-- Mix two message words into four working words. -/
def mix (v : Work) (a b c d : Fin 16) (x y : UInt32) : Work :=
  let v := v.set a (v[a] + v[b] + x)
  let v := v.set d (rotateRight (v[d] ^^^ v[a]) 16)
  let v := v.set c (v[c] + v[d])
  let v := v.set b (rotateRight (v[b] ^^^ v[c]) 12)
  let v := v.set a (v[a] + v[b] + y)
  let v := v.set d (rotateRight (v[d] ^^^ v[a]) 8)
  let v := v.set c (v[c] + v[d])
  v.set b (rotateRight (v[b] ^^^ v[c]) 7)

/-- The order in which the message words enter, one permutation a round. -/
def permutations : List (Vector (Fin 16) 16) :=
  [#v[0, 1, 2, 3, 4, 5, 6, 7, 8, 9, 10, 11, 12, 13, 14, 15],
   #v[14, 10, 4, 8, 9, 15, 13, 6, 1, 12, 0, 2, 11, 7, 5, 3],
   #v[11, 8, 12, 0, 5, 2, 15, 13, 10, 14, 3, 6, 7, 1, 9, 4],
   #v[7, 9, 3, 1, 13, 12, 11, 14, 2, 6, 5, 10, 4, 0, 15, 8],
   #v[9, 0, 5, 7, 2, 4, 10, 15, 14, 1, 11, 12, 6, 8, 3, 13],
   #v[2, 12, 6, 10, 0, 11, 8, 3, 4, 13, 7, 5, 15, 14, 1, 9],
   #v[12, 5, 1, 15, 14, 13, 4, 10, 0, 7, 6, 3, 9, 2, 8, 11],
   #v[13, 11, 7, 14, 12, 1, 3, 9, 5, 0, 15, 4, 8, 6, 2, 10],
   #v[6, 15, 14, 9, 11, 3, 0, 8, 12, 2, 13, 7, 1, 4, 10, 5],
   #v[10, 2, 8, 4, 7, 6, 1, 5, 15, 11, 9, 14, 3, 12, 13, 0]]

/-- One round: the four columns, then the four diagonals. -/
def round (m : Work) (v : Work) (p : Vector (Fin 16) 16) : Work :=
  let v := mix v 0 4 8 12 m[p[0]] m[p[1]]
  let v := mix v 1 5 9 13 m[p[2]] m[p[3]]
  let v := mix v 2 6 10 14 m[p[4]] m[p[5]]
  let v := mix v 3 7 11 15 m[p[6]] m[p[7]]
  let v := mix v 0 5 10 15 m[p[8]] m[p[9]]
  let v := mix v 1 6 11 12 m[p[10]] m[p[11]]
  let v := mix v 2 7 8 13 m[p[12]] m[p[13]]
  mix v 3 4 9 14 m[p[14]] m[p[15]]

/-- The little-endian words of a byte string; bytes that fill no word are left out. -/
def wordsOf : Bytes → List UInt32
  | b₀ :: b₁ :: b₂ :: b₃ :: rest =>
    (b₀.toUInt32 ||| (b₁.toUInt32 <<< 8) ||| (b₂.toUInt32 <<< 16) ||| (b₃.toUInt32 <<< 24))
      :: wordsOf rest
  | _ => []

/-- The four bytes of a word, least significant first. -/
def bytesOf (w : UInt32) : Bytes :=
  [w.toUInt8, (w >>> 8).toUInt8, (w >>> 16).toUInt8, (w >>> 24).toUInt8]

/-- Compress a block of sixty-four bytes.  `count` is the number of message bytes up to its end, and
`last` marks the last block. -/
def compress (h : Chain) (block : Bytes) (count : Nat) (last : Bool) : Chain :=
  let words := (wordsOf block).toArray
  let m : Work := Vector.ofFn fun i => words.getD i.val 0
  let v : Work := h ++ initial
  let v := v.set 12 (v[12] ^^^ UInt32.ofNat count)
  let v := v.set 13 (v[13] ^^^ UInt32.ofNat (count / 2 ^ (32 : Nat)))
  let v := if last then v.set 14 (~~~v[14]) else v
  let v := permutations.foldl (round m) v
  Vector.ofFn fun i => h[i] ^^^ v[i.val] ^^^ v[i.val + 8]

/-- Compress whole blocks while more than one remains, `done` bytes having gone before, then the
last block filled up with zeros. -/
def absorb : Nat → Nat → Bytes → Chain → Chain
  | 0, done, bs, h =>
    compress h (bs ++ List.replicate (64 - bs.length) 0) (done + bs.length) true
  | more + 1, done, bs, h =>
    absorb more (done + 64) (bs.drop 64) (compress h (bs.take 64) (done + 64) false)

/-- The digest of a message. -/
def digest (message : Bytes) : Bytes :=
  let h := absorb ((message.length - 1) / 64) 0 message start
  [h[0], h[1], h[2], h[3], h[4], h[5], h[6], h[7]].flatMap bytesOf

/-- BLAKE2s as a hash function. -/
def hash : Hash where
  digest := digest
  length_digest := fun _ => rfl

end MerkleLog.Blake2s
