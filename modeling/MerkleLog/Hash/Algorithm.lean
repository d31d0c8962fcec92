import MerkleLog.Hash.Blake2s
import MerkleLog.Hash.Sha256
import MerkleLog.Hash.Sha3

/-!
# Names of hash algorithms

The algorithms that may be named in the settings, with the sizes of their digests.  Some names count
only as they are written; the others count in letters of either case.
-/

namespace MerkleLog

/-- A hash algorithm with its names. -/
structure Algorithm where
  /-- The names that count only as they are written. -/
  exact : List String
  /-- The other names, in lower case. -/
  names : List String
  /-- The number of bytes of its digests; zero where it is chosen anew for every digest. -/
  size : Nat
  /-- The function itself, where the library has it. -/
  hash : Option Hash

namespace Algorithm

/-- All algorithms. -/
def all : List Algorithm :=
  [⟨[], ["md5", "ssl3-md5", "1.2.840.113549.2.5"], 16, none⟩,
   ⟨[], ["sha1", "sha-1", "ssl3-sha1", "1.3.14.3.2.26"], 20, none⟩,
   ⟨[], ["ripemd160", "ripemd", "rmd160", "ripemd-160", "1.3.36.3.2.1"], 20, none⟩,
   ⟨[], ["sha224", "sha-224", "sha2-224", "2.16.840.1.101.3.4.2.4"], 28, none⟩,
   ⟨[], ["sha256", "sha-256", "sha2-256", "2.16.840.1.101.3.4.2.1"], 32, some Sha256.hash⟩,
   ⟨[], ["sha384", "sha-384", "sha2-384", "2.16.840.1.101.3.4.2.2"], 48, none⟩,
   ⟨[], ["sha512", "sha-512", "sha2-512", "2.16.840.1.101.3.4.2.3"], 64, none⟩,
   ⟨["sha512_224", "SHA512_224"],
    ["sha512-224", "sha-512/224", "sha2-512/224", "2.16.840.1.101.3.4.2.5"], 28, none⟩,
   ⟨["sha512_256", "SHA512_256"],
    ["sha512-256", "sha-512/256", "sha2-512/256", "2.16.840.1.101.3.4.2.6"], 32, none⟩,
   ⟨["sha3_224"], ["sha3-224", "2.16.840.1.101.3.4.2.7"], 28, none⟩,
   ⟨["sha3_256"], ["sha3-256", "2.16.840.1.101.3.4.2.8"], 32, some Sha3.hash⟩,
   ⟨["sha3_384"], ["sha3-384", "2.16.840.1.101.3.4.2.9"], 48, none⟩,
   ⟨["sha3_512"], ["sha3-512", "2.16.840.1.101.3.4.2.10"], 64, none⟩,
   ⟨["shake_128"], ["shake128", "shake-128", "2.16.840.1.101.3.4.2.11"], 0, none⟩,
   ⟨["shake_256"], ["shake256", "shake-256", "2.16.840.1.101.3.4.2.12"], 0, none⟩,
   ⟨["blake2b"], ["blake2b512", "blake2b-512", "1.3.6.1.4.1.1722.12.2.1.16"], 64, none⟩,
   ⟨["blake2s"], ["blake2s256", "blake2s-256", "1.3.6.1.4.1.1722.12.2.2.8"], 32,
    some Blake2s.hash⟩,
   ⟨[], ["sm3", "1.2.156.10197.1.401"], 32, none⟩,
   ⟨[], ["md5-sha1"], 36, none⟩,
   ⟨[], ["null"], 0, none⟩,
   ⟨[], ["keccak-kmac-128", "keccak-kmac128"], 0, none⟩,
   ⟨[], ["keccak-kmac-256", "keccak-kmac256"], 0, none⟩]

/-- The algorithm of a name. -/
def ofName? (name : String) : Option Algorithm :=
  let lower := String.ofList (name.toList.map Char.toLower)
  all.find? fun a => a.exact.contains name || a.names.contains lower

end Algorithm

/-- The hash function of a name, where the library has it. -/
def Hash.ofName? (name : String) : Option Hash :=
  (Algorithm.ofName? name).bind (·.hash)

end MerkleLog
