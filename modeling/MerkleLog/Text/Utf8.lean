import MerkleLog.Bytes

/-!
# Reading UTF-8

Bytes are read as a text, one character after the other.  The first byte of a character tells how
many bytes follow and between which two the next of them lies.  So no character is read from more
bytes than it needs, and none is read that is a surrogate.  Where the bytes are no text, the fault
tells of the first ones that cannot be read.
-/

namespace MerkleLog.Utf8

/-- Why bytes cannot be read. -/
inductive Reason where
  /-- No character starts with the byte. -/
  | badStart
  /-- The byte that follows does not continue the character. -/
  | badContinuation
  /-- The bytes end within the character. -/
  | ended
deriving DecidableEq

/-- The first bytes that cannot be read. -/
structure Fault where
  /-- The number of bytes before them. -/
  place : Nat
  bytes : Bytes
  reason : Reason
deriving DecidableEq

/-- The wording of a reason. -/
def Reason.wording : Reason → String
  | badStart => "invalid start byte"
  | badContinuation => "invalid continuation byte"
  | ended => "unexpected end of data"

/-- The wording of a fault. -/
def Fault.message (f : Fault) : String :=
  let found :=
    match f.bytes with
    | [b] => "byte 0x" ++ String.ofList (Bytes.hexPair b) ++ " in position " ++ toString f.place
    | _ =>
      "bytes in position " ++ toString f.place ++ "-" ++ toString (f.place + f.bytes.length - 1)
  "'utf-8' codec can't decode " ++ found ++ ": " ++ f.reason.wording

/-- A character of which bytes are missing. -/
structure Begun where
  /-- The bytes read so far. -/
  seen : Bytes
  /-- The number that they stand for. -/
  value : Nat
  /-- How many bytes are missing. -/
  missing : Nat
  /-- The least byte that may come next. -/
  low : Nat
  /-- The greatest byte that may come next. -/
  high : Nat

/-- What a byte leads to. -/
inductive Step where
  /-- The character is complete. -/
  | done (c : Char)
  | begun (q : Begun)

/-- What the first byte of a character leads to. -/
def first? (b : UInt8) : Option Step :=
  let n := b.toNat
  if n < 0x80 then some (.done (.ofNat n))
  else if n < 0xc2 then none
  else if n < 0xe0 then some (.begun ⟨[b], n - 0xc0, 1, 0x80, 0xbf⟩)
  else if n < 0xf0 then
    let low := if n = 0xe0 then 0xa0 else 0x80
    let high := if n = 0xed then 0x9f else 0xbf
    some (.begun ⟨[b], n - 0xe0, 2, low, high⟩)
  else if n < 0xf5 then
    let low := if n = 0xf0 then 0x90 else 0x80
    let high := if n = 0xf4 then 0x8f else 0xbf
    some (.begun ⟨[b], n - 0xf0, 3, low, high⟩)
  else none

/-- What a further byte of a character leads to. -/
def Begun.next? (q : Begun) (b : UInt8) : Option Step :=
  let n := b.toNat
  if q.low ≤ n ∧ n ≤ q.high then
    let value := 64 * q.value + (n - 0x80)
    if q.missing = 1 then some (.done (.ofNat value))
    else some (.begun ⟨q.seen ++ [b], value, q.missing - 1, 0x80, 0xbf⟩)
  else none

/-- Read the bytes from a place on, where a character starts; those of a character that has begun
there are read already. -/
def decodeFrom (place : Nat) : Option Begun → Bytes → Except Fault (List Char)
  | none, [] => .ok []
  | some q, [] => .error ⟨place, q.seen, .ended⟩
  | none, b :: rest =>
    match first? b with
    | none => .error ⟨place, [b], .badStart⟩
    | some (.done c) => (decodeFrom (place + 1) none rest).map (c :: ·)
    | some (.begun q) => decodeFrom place (some q) rest
  | some q, b :: rest =>
    match q.next? b with
    | none => .error ⟨place, q.seen, .badContinuation⟩
    | some (.done c) => (decodeFrom (place + q.seen.length + 1) none rest).map (c :: ·)
    | some (.begun q) => decodeFrom place (some q) rest

/-- The text that bytes stand for. -/
def decode (bs : Bytes) : Except Fault String :=
  (decodeFrom 0 none bs).map String.ofList

end MerkleLog.Utf8
