import MerkleLog.Journal.Record

/-!
# The filter of the journal

Digests are cut down in one pass over a message.  At every place in turn a digest is looked for: a
border of a word, eight digits that are kept, fifty-six that are dropped, and a border again.  Where
there is none, one character is passed on.  Where there is one, the pass goes on behind it.  The
filter changes the record in place and lets every record pass.
-/

namespace MerkleLog

namespace Text

/-- Whether a word begins or ends between two characters.  Beyond either end of a text there is
none. -/
def isBorder (before after : Option Char) : Bool :=
  before.any isWord != after.any isWord

/-- So many lower-case hexadecimal digits, and what follows them. -/
def hexDigits? (count : Nat) (cs : List Char) : Option (List Char × List Char) :=
  let digits := cs.take count
  if digits.length = count ∧ digits.all isLowerHex then some (digits, cs.drop count) else none

/-- A digest right behind a character, if there is one: the digits that are kept, those that are
dropped, and what follows them. -/
def digest? (before : Option Char) (cs : List Char) :
    Option (List Char × List Char × List Char) :=
  if isBorder before cs.head? then do
    let (kept, cs) ← hexDigits? 8 cs
    let (dropped, rest) ← hexDigits? 56 cs
    if isBorder dropped.getLast? rest.head? then some (kept, dropped, rest) else none
  else none

theorem hexDigits?_eq_some_iff {count : Nat} {cs digits rest : List Char} :
    hexDigits? count cs = some (digits, rest) ↔
      cs = digits ++ rest ∧ digits.length = count ∧ digits.all isLowerHex = true := by
  simp only [hexDigits?, Option.ite_none_right_eq_some, Option.some.injEq, Prod.mk.injEq]
  constructor
  · rintro ⟨⟨hlength, hall⟩, rfl, rfl⟩
    exact ⟨(List.take_append_drop count cs).symm, hlength, hall⟩
  · rintro ⟨rfl, rfl, hall⟩
    simp [hall]

/-- A digest consists of its digits between two borders. -/
theorem digest?_eq_some_iff {before : Option Char} {cs kept dropped rest : List Char} :
    digest? before cs = some (kept, dropped, rest) ↔
      cs = kept ++ (dropped ++ rest) ∧
        (kept.length = 8 ∧ kept.all isLowerHex = true) ∧
        (dropped.length = 56 ∧ dropped.all isLowerHex = true) ∧
        isBorder before cs.head? = true ∧ isBorder dropped.getLast? rest.head? = true := by
  constructor
  · intro h
    simp only [digest?, Option.ite_none_right_eq_some, Option.bind_eq_bind, Option.bind_eq_some_iff,
      Option.some.injEq, Prod.mk.injEq, Prod.exists, hexDigits?_eq_some_iff] at h
    obtain ⟨hbegin, kept, cs, ⟨rfl, hkept⟩, dropped, rest, ⟨rfl, hdropped⟩, hend, rfl, rfl, rfl⟩ :=
      h
    exact ⟨rfl, hkept, hdropped, hbegin, hend⟩
  · rintro ⟨rfl, hkept, hdropped, hbegin, hend⟩
    have hfirst : hexDigits? 8 (kept ++ (dropped ++ rest)) = some (kept, dropped ++ rest) :=
      hexDigits?_eq_some_iff.2 ⟨rfl, hkept⟩
    have hlast : hexDigits? 56 (dropped ++ rest) = some (dropped, rest) :=
      hexDigits?_eq_some_iff.2 ⟨rfl, hdropped⟩
    simp only [digest?, hbegin, hend, hfirst, hlast, Option.bind_eq_bind, Option.bind_some, if_true]

/-- A text behind a character, with the digests in it cut down. -/
def scan (before : Option Char) (cs : List Char) : List Char :=
  match cs with
  | [] => []
  | c :: cs =>
    match _ : digest? before (c :: cs) with
    | some (kept, dropped, rest) => kept ++ '.' :: '.' :: scan dropped.getLast? rest
    | none => c :: scan (some c) cs
termination_by cs.length
decreasing_by
  · rename_i hdigest
    obtain ⟨hcs, ⟨hkept, -⟩, -⟩ := digest?_eq_some_iff.1 hdigest
    rw [hcs, List.length_append, List.length_append, hkept]
    omega
  · exact Nat.lt_succ_self _

end Text

/-- The filter: cut the digests in the message of a record down, and let the record pass.  If there
are any, the message is formed for good. -/
def Record.filter (r : Record) : Record × Except Template.Fault Bool :=
  match r.message with
  | .error fault => (r, .error fault)
  | .ok message =>
    let short := String.ofList (Text.scan none message.toList)
    (if short = message then r else { r with template := short, arguments := none }, .ok true)

end MerkleLog
